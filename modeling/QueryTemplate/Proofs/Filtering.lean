import Mathlib.Data.List.ReduceOption
import QueryTemplate.Proofs.Finishing
import QueryTemplate.Proofs.Relating

/-!
# Filtered loops

Conditions may come from a loop: each iteration in which a filter holds adds one of them, with a
connective after it. The clause is finished when the loop is over, so that only the last connective
is taken off, and those in between join the conditions.

* `clean_units`: what is left of repeated conditions with a connective after each of them;
* `Scope.lap`: an iteration of a filtered loop;
* `eval_laps`: evaluating the loop is taking its iterations and adding what they give;
* `render_filtered`: the query of a filtered loop in a clause.
-/

namespace QueryTemplate

open Text
open Regex (Joins)

/-! ## Connectives -/

namespace Regex.Joins

variable {w : List Char}

theorem isBlank_eq_false (h : Joins w) {c : Char} (hc : c ∈ w) : isBlank c = false := by
  rw [Bool.eq_false_iff]
  intro hblank
  have hletter := forall_of_blanks (p := (·.toLower ∉ connectives.flatten)) (by decide +kernel)
    hblank
  exact absurd (h.toLower_mem hc) (by simpa using hletter)

theorem backslash_not_mem (h : Joins w) : '\\' ∉ w := fun hmem =>
  absurd (h.toLower_mem hmem) (by decide)

theorem bare (h : Joins w) : Bare w := by
  constructor
  · rw [startsBlank, Option.any_eq_false]
    intro c hc
    exact h.isBlank_eq_false (List.mem_of_mem_head? hc)
  · rw [Option.any_eq_false]
    intro c hc
    exact h.isBlank_eq_false (List.mem_of_getLast? hc)

end Regex.Joins

/-- A blank and more after a text that does not begin with a connective. -/
theorem not_leadsJoined_append {unit more : List Char} (h : ¬ LeadsJoined unit) :
    ¬ LeadsJoined (unit ++ ' ' :: more) := by
  rintro ⟨w, rest, hw, heq, hrest⟩
  rcases List.append_eq_append_iff.1 heq with ⟨tail, rfl, hblank⟩ | ⟨tail, rfl, rfl⟩
  · cases tail with
    | nil => exact h ⟨unit, [], by rwa [List.append_nil] at hw, (List.append_nil _).symm, rfl⟩
    | cons c tail =>
      -- the connective would have a blank in it
      obtain ⟨rfl, -⟩ := List.cons.inj hblank
      cases hw.isBlank_eq_false (c := ' ') (by simp)
  · refine h ⟨w, tail, hw, rfl, ?_⟩
    cases tail with
    | nil => rfl
    | cons c tail => exact hrest

/-! ## Repeated conditions -/

/-- The same condition `k + 1` times, with a connective between any two of them. -/
def units (conj unit : List Char) (k : Nat) : List Char :=
  (' ' :: (conj ++ [' '])).intercalate (List.replicate (k + 1) unit)

section Units

variable {conj unit : List Char}

theorem units_zero (conj unit : List Char) : units conj unit 0 = unit := by
  simp [units]

theorem units_succ (conj unit : List Char) (k : Nat) :
    units conj unit (k + 1) = unit ++ ' ' :: (conj ++ ' ' :: units conj unit k) := by
  rw [units, List.replicate_succ, List.replicate_succ, List.intercalate_cons_cons,
    ← List.replicate_succ, ← units]
  simp

/-- Conditions with a connective after each of them have one at their end. -/
theorem flatten_units (conj unit : List Char) (k : Nat) :
    (List.replicate (k + 1) (' ' :: (unit ++ ' ' :: conj))).flatten =
      ' ' :: (units conj unit k ++ ' ' :: conj) := by
  induction k with
  | zero => simp [units_zero]
  | succ k ih =>
    rw [List.replicate_succ, List.flatten_cons, ih, units_succ]
    simp

theorem suffix_units (conj unit : List Char) (k : Nat) : unit <:+ units conj unit k := by
  induction k with
  | zero => rw [units_zero]
  | succ k ih =>
    rw [units_succ]
    exact ih.trans ⟨unit ++ ' ' :: (conj ++ [' ']), by simp⟩

/-- After the first condition comes a blank. -/
theorem exists_units_append_eq (conj unit : List Char) (k : Nat) :
    ∃ more, units conj unit k ++ ' ' :: conj = unit ++ ' ' :: more := by
  cases k with
  | zero => exact ⟨conj, by rw [units_zero]⟩
  | succ k =>
    rw [units_succ, List.append_assoc]
    exact ⟨_, rfl⟩

variable (hconj : Joins conj) (hne : unit ≠ []) (hbare : Bare unit) (k : Nat)

include hne hbare in
theorem getLast?_units : (units conj unit k).getLast?.any isBlank = false := by
  obtain ⟨front, hfront⟩ := suffix_units conj unit k
  rw [← hfront, List.getLast?_append_of_ne_nil _ hne]
  exact hbare.2

include hconj hne hbare in
theorem bare_units_append : Bare (units conj unit k ++ ' ' :: conj) := by
  constructor
  · obtain ⟨more, hmore⟩ := exists_units_append_eq conj unit k
    obtain ⟨c, rest, rfl⟩ := List.exists_cons_of_ne_nil hne
    rw [hmore]
    exact hbare.1
  · have hconjne : conj ≠ [] := by
      rintro rfl
      exact absurd hconj (by decide)
    rw [List.append_cons, List.getLast?_append_of_ne_nil _ hconjne]
    exact hconj.bare.2

include hconj hne hbare in
/-- The connective at the end of repeated conditions is taken off, and the others stay. -/
theorem clean_units (hlead : ¬ LeadsJoined unit) :
    ClauseKind.conditions.clean
        (trimmed (List.replicate (k + 1) (' ' :: (unit ++ ' ' :: conj))).flatten) =
      units conj unit k := by
  have htrim : trimmed (' ' :: (units conj unit k ++ ' ' :: conj)) =
      units conj unit k ++ ' ' :: conj :=
    (bare_units_append hconj hne hbare k).trimmed
  have hkept : ¬ LeadsJoined (units conj unit k ++ ' ' :: conj) := by
    obtain ⟨more, hmore⟩ := exists_units_append_eq conj unit k
    rw [hmore]
    exact not_leadsJoined_append hlead
  have hblank : (units conj unit k ++ [' ']).getLast?.any isBlank := by
    rw [List.getLast?_concat]
    rfl
  rw [flatten_units, htrim, ClauseKind.clean, dropLeadingConnective_of_not_leadsJoined hkept,
    List.append_cons, dropTrailingConnective_append hconj hblank, dropBlanksEnd_concat rfl,
    dropBlanksEnd_of_bare (getLast?_units hne hbare k)]

end Units

/-! ## Escapes in conditions -/

section Escapes

variable {cs : List Char}

theorem unescaped_of_not_mem (h : '\\' ∉ cs) : unescaped cs = cs := by
  induction cs with
  | nil => rfl
  | cons c cs ih =>
    rw [List.mem_cons, not_or] at h
    rw [Piece.unescaped_cons fun hc => absurd hc.symm h.1, ih h.2]

theorem unescaped_eq_nil_iff : unescaped cs = [] ↔ cs = [] := by
  fun_cases unescaped cs <;> simp

/-- Neither a backslash nor an at sign is a blank. -/
theorem head?_unescaped (cs : List Char) :
    (unescaped cs).head?.map isBlank = cs.head?.map isBlank := by
  fun_cases unescaped cs with
  | case1 => rfl
  | case2 => rfl
  | case3 => rfl

theorem getLast?_unescaped (cs : List Char) :
    (unescaped cs).getLast?.map isBlank = cs.getLast?.map isBlank := by
  have hlast (c : Char) (cs : List Char) :
      (c :: cs).getLast?.map isBlank = some ((cs.getLast?.map isBlank).getD (isBlank c)) := by
    rw [List.getLast?_cons, Option.map_some, Option.getD_map]
  fun_induction unescaped cs with
  | case1 cs ih => rw [hlast, hlast, hlast, ih, Option.getD_some]
  | case2 c cs _ ih => rw [hlast, hlast, ih]
  | case3 => rfl

theorem bare_unescaped (h : Bare cs) : Bare (unescaped cs) := by
  have hany {o o' : Option Char} (ho : o.map isBlank = o'.map isBlank) :
      o.any isBlank = o'.any isBlank := by
    have hid := congrArg (Option.any id) ho
    rwa [Option.any_map, Option.any_map] at hid
  exact ⟨(hany (head?_unescaped cs)).trans h.1, (hany (getLast?_unescaped cs)).trans h.2⟩

/-- Without at signs, the start of a text comes from no escapes. -/
theorem exists_of_unescaped_eq_append {w rest : List Char} (hw : '@' ∉ w)
    (h : unescaped cs = w ++ rest) : ∃ rest', cs = w ++ rest' ∧ unescaped rest' = rest := by
  induction w generalizing cs with
  | nil => exact ⟨cs, rfl, h⟩
  | cons c w ih =>
    rw [List.mem_cons, not_or] at hw
    revert h
    fun_cases unescaped cs with
    | case1 cs =>
      intro h
      exact absurd (List.cons.inj h).1 hw.1
    | case2 d cs =>
      intro h
      obtain ⟨rfl, hcs⟩ := List.cons.inj h
      obtain ⟨rest', rfl, hrest⟩ := ih hw.2 hcs
      exact ⟨rest', rfl, hrest⟩
    | case3 => exact nofun

theorem leadsJoined_of_unescaped (h : LeadsJoined (unescaped cs)) : LeadsJoined cs := by
  obtain ⟨w, rest, hw, heq, hblank⟩ := h
  have hat : '@' ∉ w := fun hmem => absurd (hw.toLower_mem hmem) (by decide)
  obtain ⟨rest', rfl, rfl⟩ := exists_of_unescaped_eq_append hat heq
  refine ⟨w, rest', hw, rfl, ?_⟩
  have hall := congrArg (Option.all id) (head?_unescaped rest')
  rw [Option.all_map, Option.all_map] at hall
  exact hall.symm.trans hblank

/-- A condition with blanks around it and a connective. -/
theorem toList_unescape_unit {unit conj : String} (hconj : Joins conj.toList) :
    (unescape (" " ++ unit ++ " " ++ conj)).toList =
      ' ' :: (unescaped unit.toList ++ ' ' :: conj.toList) := by
  have hspace (cs : List Char) : unescaped (' ' :: cs) = ' ' :: unescaped cs :=
    Piece.unescaped_cons fun hc => absurd hc (by decide)
  have hunit : (" " ++ unit ++ " " ++ conj).toList =
      ' ' :: (unit.toList ++ ' ' :: conj.toList) := by simp
  rw [unescape, String.toList_ofList, hunit, hspace, unescaped_append (by simp), hspace,
    unescaped_of_not_mem hconj.backslash_not_mem]

end Escapes

/-! ## Finished conditions -/

section Finished

variable {unit conj : String} (hconj : Joins conj.toList) (hne : unit ≠ "")
  (hbare : Bare unit.toList) (hlead : ¬ LeadsJoined unit.toList)

theorem intercalate_eq_units (unit conj : String) (k : Nat) :
    (" " ++ conj ++ " ").intercalate (List.replicate (k + 1) (unescape unit)) =
      .ofList (units conj.toList (unescaped unit.toList) k) := by
  have hsep : (" " ++ conj ++ " ").toList = ' ' :: (conj.toList ++ [' ']) := by simp
  rw [← String.toList_inj, String.toList_intercalate, String.toList_ofList, List.map_replicate,
    hsep, unescape, String.toList_ofList, units]

include hconj hne hbare hlead in
theorem finish_units (k : Nat) :
    ClauseKind.conditions.finish
        (String.join (List.replicate (k + 1) (unescape (" " ++ unit ++ " " ++ conj)))) =
      some ((" " ++ conj ++ " ").intercalate (List.replicate (k + 1) (unescape unit))) := by
  have hunit : unescaped unit.toList ≠ [] := by
    rwa [Ne, unescaped_eq_nil_iff, String.toList_eq_nil_iff]
  have hclean := clean_units hconj hunit (bare_unescaped hbare) k
    (mt leadsJoined_of_unescaped hlead)
  have hbody :
      (String.join (List.replicate (k + 1) (unescape (" " ++ unit ++ " " ++ conj)))).toList =
      (List.replicate (k + 1) (' ' :: (unescaped unit.toList ++ ' ' :: conj.toList))).flatten := by
    rw [String.toList_join, List.flatMap_def, List.map_replicate, toList_unescape_unit hconj]
  have hsome : units conj.toList (unescaped unit.toList) k ≠ [] := by
    intro hnil
    have hsuffix := suffix_units conj.toList (unescaped unit.toList) k
    rw [hnil] at hsuffix
    exact hunit (List.eq_nil_of_suffix_nil hsuffix)
  rw [ClauseKind.finish_eq_ite, hbody, hclean, if_neg hsome, intercalate_eq_units]

include hconj hne hbare hlead in
theorem addClause_units {k : Nat} {params : List Value} (hparams : k = 0 → params = []) :
    Query.addClause {} .conditions
        { sql := String.join (List.replicate k (unescape (" " ++ unit ++ " " ++ conj)))
          params := params } =
      { sql := if k = 0 then "" else
          "WHERE " ++ (" " ++ conj ++ " ").intercalate (List.replicate k (unescape unit))
        params := params } := by
  cases k with
  | zero =>
    rw [hparams rfl]
    rfl
  | succ k =>
    rw [if_neg (Nat.succ_ne_zero k), Query.addClause, Query.addClause?,
      finish_units hconj hne hbare hlead]
    rfl

end Finished

/-! ## Iterations -/

section Laps

variable {σ : Type} {scope : Scope σ}

/-- An iteration of a loop with a filter: what is bound in it, if the filter holds. -/
def Scope.lap (scope : Scope σ) (header filter : String) (binds : List Bind) (index : Nat) :
    Rendering σ (Option (List Value)) := do
  scope.iteration header index
  if ← scope.condition filter then some <$> binds.mapM scope.param else pure none

/-- The query with what an iteration gives: SQL with its parameters, if the filter holds. -/
def Query.addLap (sql : String) (out : Query Value) : Option (List Value) → Query Value
  | some params => { sql := out.sql ++ sql, params := out.params ++ params }
  | none => out

theorem eval_lap (header filter : String) (part : Fragment) (index : Nat) (out : Query Value) :
    (do
      scope.iteration header index
      Node.eval scope [.cond [.mk filter [.text part]] none] out) =
      out.addLap (unescape part.sql) <$> scope.lap header filter part.binds index := by
  rw [Scope.lap, map_bind]
  refine bind_congr fun _ => ?_
  rw [Node.eval_singleton, Node.evalOf, Node.evalBranches, map_bind]
  refine bind_congr fun holds => ?_
  cases holds with
  | true =>
    simp only [if_true, Node.eval_singleton, Node.evalOf_text, Functor.map_map]
    exact (map_eq_pure_bind _ _).symm
  | false =>
    simp only [Bool.false_eq_true, if_false, Node.evalBranches, map_pure]
    rfl

/-- A loop that only adds to what there is can add when it is over. -/
theorem foldlM_eq_map_mapM {α β γ : Type} (f : α → Rendering σ β) (g : γ → β → γ) (xs : List α)
    (out : γ) :
    xs.foldlM (fun out x => g out <$> f x) out = (fun ys => ys.foldl g out) <$> xs.mapM f := by
  induction xs generalizing out with
  | nil =>
    rw [List.mapM_nil, map_pure]
    rfl
  | cons x xs ih =>
    rw [List.foldlM_cons, List.mapM_cons, bind_map_left, map_bind]
    refine bind_congr fun y => ?_
    rw [ih, map_bind, map_eq_pure_bind]
    refine bind_congr fun ys => ?_
    rw [map_pure]
    rfl

theorem foldl_addLap (sql : String) (laps : List (Option (List Value))) (out : Query Value) :
    laps.foldl (Query.addLap sql) out =
      { sql := out.sql ++ String.join (List.replicate (laps.countP Option.isSome) sql)
        params := out.params ++ laps.reduceOption.flatten } := by
  induction laps generalizing out with
  | nil => simp
  | cons lap laps ih =>
    cases lap with
    | none => simp [ih, Query.addLap, List.reduceOption_cons_of_none]
    | some params =>
      simp [ih, Query.addLap, List.reduceOption_cons_of_some, List.replicate_succ,
        String.append_assoc]

theorem length_of_mapM {α β : Type} {f : α → Rendering σ β} {xs : List α} {ys : List β} {s s' : σ}
    (h : xs.mapM f s = .ok ys s') : ys.length = xs.length := by
  induction xs generalizing ys s with
  | nil =>
    cases h
    rfl
  | cons x xs ih =>
    rw [List.mapM_cons] at h
    cases hx : f x s with
    | error e s₁ => cases (Rendering.bind_error hx).symm.trans h
    | ok y s₁ =>
      rw [Rendering.bind_ok hx, ← map_eq_pure_bind] at h
      obtain ⟨ys, hys, rfl⟩ := Rendering.exists_of_map h
      rw [List.length_cons, List.length_cons, ih hys]

/-- A clause around a loop with a filter: its query is made from the iterations of the loop. -/
theorem eval_laps (header filter : String) (part : Fragment) :
    Node.eval scope [.clause .conditions [.loop header [.cond [.mk filter [.text part]] none]]] {} =
      (do
        let n ← scope.enterLoop header
        let laps ← (List.range n).mapM (scope.lap header filter part.binds)
        modify (scope.exitLoop header)
        return Query.addClause {} .conditions
          { sql := String.join (List.replicate (laps.countP Option.isSome) (unescape part.sql))
            params := laps.reduceOption.flatten }) := by
  rw [Node.eval_singleton, Node.evalOf, Node.eval_singleton, Node.evalOf]
  simp only [eval_lap, foldlM_eq_map_mapM, foldl_addLap, bind_assoc, bind_map_left, pure_bind,
    String.empty_append, List.nil_append]

end Laps

/-- Conditions from a loop with a filter, each with a connective after it. They are joined by the
    connective, without one at either end, and their parameters are those of the iterations in which
    the filter holds; there is no clause if there are no such iterations. The scope is called as it
    is for the iterations, and the rendering fails if a call does. -/
theorem render_filtered {σ : Type} (scope : Scope σ) (settings : Settings) (header filter : String)
    (binds : List Bind) (line : Nat) {unit conj : String} (hconj : Joins conj.toList)
    (hne : unit ≠ "") (hbare : Bare unit.toList) (hlead : ¬ LeadsJoined unit.toList) :
    let part : Fragment := { sql := " " ++ unit ++ " " ++ conj, binds := binds, line := line }
    let program := Program.ofNodes settings.loopMultiplier
      [.clause .conditions [.loop header [.cond [.mk filter [.text part]] none]]]
    let query (laps : List (Option (List Value))) : Query Value :=
      let k := laps.countP Option.isSome
      { sql := if k = 0 then "" else
          "WHERE " ++ (" " ++ conj ++ " ").intercalate (List.replicate k (unescape unit))
        params := laps.reduceOption.flatten }
    program.render scope = (do
        let n ← scope.enterLoop header
        let laps ← (List.range n).mapM (scope.lap header filter binds)
        modify (scope.exitLoop header)
        return query laps) ∧
      (∀ laps, laps.countP Option.isSome = 0 → query laps = {}) ∧
      ∀ s n s₁ laps s₂, scope.enterLoop header s = .ok n s₁ →
        (List.range n).mapM (scope.lap header filter binds) s₁ = .ok laps s₂ →
        laps.length = n ∧ program.render scope s = .ok (query laps) (scope.exitLoop header s₂) := by
  intro part program query
  have hproper : Node.Proper
      [.clause .conditions [.loop header [.cond [.mk filter [.text part]] none]]] := by
    simp [Node.Proper, Node.ProperOf, Node.ProperBranches]
  have hparams {laps : List (Option (List Value))} (hk : laps.countP Option.isSome = 0) :
      laps.reduceOption.flatten = [] := by
    have hlength := List.reduceOption_length_eq (l := laps)
    rw [← List.countP_eq_length_filter, hk, List.length_eq_zero_iff] at hlength
    rw [hlength, List.flatten_nil]
  have hrender : program.render scope = (do
      let n ← scope.enterLoop header
      let laps ← (List.range n).mapM (scope.lap header filter binds)
      modify (scope.exitLoop header)
      return query laps) := by
    rw [render_ofNodes _ hproper, eval_laps]
    simp only [part, addClause_units hconj hne hbare hlead hparams, query]
  refine ⟨hrender, fun laps hk => ?_, fun s n s₁ laps s₂ hn hlaps => ⟨?_, ?_⟩⟩
  · simp only [query, hk, if_true, hparams hk]
  · rw [length_of_mapM hlaps, List.length_range]
  · rw [hrender, Rendering.bind_ok hn, Rendering.bind_ok hlaps]
    rfl

/-- Three iterations, of which the second is left out, and an escape in the condition. -/
theorem render_filtered_or :
    let scope : Scope Nat :=
      { condition := fun _ => do return (← get) % 2 = 0
        enterLoop := fun _ => pure 3
        iteration := fun _ index => set index
        exitLoop := fun _ _ => 7
        value := fun expr => do return .text (if (← get) = 0 then expr else "b") }
    let unit := "\\@k = ? and"
    let binds : List Bind := [.value "v.Val"]
    let laps : List (Option (List Value)) := [some [.text "v.Val"], none, some [.text "b"]]
    Joins "OR".toList ∧ unit ≠ "" ∧ Bare unit.toList ∧ ¬ LeadsJoined unit.toList ∧
      scope.enterLoop "v in vs" 0 = .ok 3 0 ∧
      (List.range 3).mapM (scope.lap "v in vs" "v.Ok" binds) 0 = .ok laps 2 ∧
      (Program.ofNodes 4 [.clause .conditions [.loop "v in vs" [.cond [.mk "v.Ok"
        [.text ⟨" " ++ unit ++ " " ++ "OR", binds, 1⟩]] none]]]).render scope 0 =
        .ok ⟨"WHERE @k = ? and OR @k = ? and", [.text "v.Val", .text "b"]⟩ 7 := by
  intro scope unit binds laps
  have hconj : Joins "OR".toList := by decide
  have hne : unit ≠ "" := by decide
  have hbare : Bare unit.toList := ⟨by decide, by decide⟩
  have hlead : ¬ LeadsJoined unit.toList := by decide
  have hlaps : (List.range 3).mapM (scope.lap "v in vs" "v.Ok" binds) 0 = .ok laps 2 := rfl
  obtain ⟨-, -, hrender⟩ := render_filtered scope {} "v in vs" "v.Ok" binds 1 hconj hne hbare hlead
  obtain ⟨-, hok⟩ := hrender 0 3 0 laps 2 rfl hlaps
  have hsql : "WHERE " ++ (" " ++ "OR" ++ " ").intercalate (List.replicate 2 (unescape unit)) =
      "WHERE @k = ? and OR @k = ? and" := by decide +kernel
  refine ⟨hconj, hne, hbare, hlead, rfl, hlaps, hok.trans ?_⟩
  rw [← hsql]
  rfl

end QueryTemplate
