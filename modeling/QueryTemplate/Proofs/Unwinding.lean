import Mathlib.Logic.Function.Iterate
import QueryTemplate.Proofs.Levels
import QueryTemplate.Template

/-!
# Loops left open

A rendering against bindings opens a scope for each loop that it enters, and takes it away when
the loop is done. So a rendering that succeeds leaves the bindings as they were. One that fails
within loops does not: these loops stay open, and the named values of their iterations stay in
front of all others (`render_error_shadows`). Nothing else has changed, and leaving as many loops
as are open gives the bindings back.

* `openLoops`: how many loops calls have entered and not left;
* `Bindings.within`: the bindings with loops opened;
* `Bindings.levels_recorded`: every call leaves the bindings within the loops that are open;
* `render_ok_eq`: a rendering that succeeds leaves the bindings as they were;
* `render_error_within`: a rendering that fails leaves them within the loops that are open then.
-/

namespace QueryTemplate

open Rendering

variable {σ : Type}

/-! ## Loops that calls leave open -/

/-- The number of open loops after a call, if it is `level` before. -/
def Call.levelAfter (level : Nat) : Call → Nat
  | enterLoop _ (.ok _) => level + 1
  | exitLoop _ => level - 1
  | _ => level

/-- How many loops calls have entered and not left. -/
def openLoops (calls : List Call) : Nat :=
  calls.foldl Call.levelAfter 0

section

variable {α : Type} {call : Except RenderError α → Call} {x : Rendering σ α} {s s' : σ}
  {calls : List Call}

theorem recordAs_ok {a : α} (h : x s = .ok a s') :
    recordAs call x (s, calls) = .ok a (s', calls ++ [call (.ok a)]) := by
  rw [recordAs, h]

theorem recordAs_error {e : RenderError} (h : x s = .error e s') :
    recordAs call x (s, calls) = .error e (s', calls ++ [call (.error e)]) := by
  rw [recordAs, h]

end

theorem openLoops_concat (calls : List Call) (call : Call) :
    openLoops (calls ++ [call]) = call.levelAfter (openLoops calls) := by
  rw [openLoops, List.foldl_concat, openLoops]

namespace Bindings

/-- The bindings with loops opened, the innermost first, each with the named values of one of its
    iterations. -/
def within (b : Bindings) (opened : List (ActiveLoop × List (String × Value))) : Bindings :=
  { b with
    scopes := opened.map Prod.snd ++ b.scopes
    loops := opened.map Prod.fst ++ b.loops }

variable {b : Bindings} {opened : List (ActiveLoop × List (String × Value))}

@[simp] theorem exitLoop_within (top : ActiveLoop × List (String × Value)) :
    (b.within (top :: opened)).exitLoop = b.within opened := rfl

theorem iteration_within (top : ActiveLoop × List (String × Value)) (header : String)
    (index : Nat) : (b.within (top :: opened)).iteration header index =
      .ok (b.within ((top.1, ActiveLoop.vars top.1 index) :: opened)) := rfl

theorem exitLoop_iterate_within (b : Bindings)
    (opened : List (ActiveLoop × List (String × Value))) :
    exitLoop^[opened.length] (b.within opened) = b := by
  induction opened with
  | nil => rfl
  | cons top opened ih =>
    rw [List.length_cons, Function.iterate_succ_apply, exitLoop_within, ih]

/-- Entering a loop opens it on top of the others. -/
theorem exists_of_enterLoop {header : String} {count : Nat} {inner : Bindings}
    (h : b.enterLoop header = .ok (count, inner)) :
    ∃ active : ActiveLoop, inner = b.within [(active, [])] ∧ count = active.items.length ∧
      LoopHeader.read? header = some active.header ∧
      b.items active.header.path = .ok active.items := by
  rw [enterLoop] at h
  cases hread : LoopHeader.read? header with
  | none =>
    rw [hread] at h
    cases h
  | some parts =>
    simp only [hread] at h
    cases hitems : b.items parts.path with
    | error e =>
      rw [hitems] at h
      cases h
    | ok items =>
      rw [hitems] at h
      cases h
      exact ⟨⟨parts, items⟩, rfl, rfl, rfl, hitems⟩

/-! ## Calls against bindings -/

theorem answer_apply {α : Type} (f : Bindings → Except RenderError α) (b : Bindings) :
    answer f b =
      match f b with
      | .ok a => .ok a b
      | .error e => .error e b := by
  have hget : answer f b =
      (match f b with | .ok a => pure a | .error e => throw e : Rendering Bindings α) b := rfl
  rw [hget]
  cases f b with
  | ok a => rfl
  | error e => rfl

theorem answer_ok {α : Type} {f : Bindings → Except RenderError α} {a : α} (h : f b = .ok a) :
    answer f b = .ok a b := by
  rw [answer_apply, h]

theorem answer_error {α : Type} {f : Bindings → Except RenderError α} {e : RenderError}
    (h : f b = .error e) : answer f b = .error e b := by
  rw [answer_apply, h]

theorem scope_enterLoop_ok {header : String} {count : Nat} {inner : Bindings}
    (h : b.enterLoop header = .ok (count, inner)) :
    scope.enterLoop header b = .ok count inner := by
  have hbind : scope.enterLoop header b = _ := bind_ok (answer_ok h)
  exact hbind

theorem scope_enterLoop_error {header : String} {e : RenderError}
    (h : b.enterLoop header = .error e) : scope.enterLoop header b = .error e b :=
  bind_error (answer_error h)

theorem scope_iteration_ok {header : String} {index : Nat} {inner : Bindings}
    (h : b.iteration header index = .ok inner) :
    scope.iteration header index b = .ok () inner :=
  bind_ok (answer_ok h)

theorem scope_iteration_error {header : String} {index : Nat} {e : RenderError}
    (h : b.iteration header index = .error e) : scope.iteration header index b = .error e b :=
  bind_error (answer_error h)

/-- The bindings are `b` within as many loops as the calls have left open. -/
def Opened (b : Bindings) (level : Nat) (s : Bindings × List Call) : Prop :=
  openLoops s.2 = level ∧ ∃ opened, opened.length = level ∧ s.1 = b.within opened

/-- A call that is answered from the bindings leaves them and the open loops alone. -/
theorem leads_answer {α : Type} (f : Bindings → Except RenderError α)
    (call : Except RenderError α → Call) (hcall : ∀ r level, (call r).levelAfter level = level)
    (b : Bindings) (level : Nat) :
    Leads (b.Opened level) (b.Opened level) (fun _ s => ∃ level, b.Opened level s)
      (recordAs call (answer f)) := by
  rintro ⟨b', calls⟩ ⟨hlevel, hopened⟩
  have hstay (r : Except RenderError α) : b.Opened level (b', calls ++ [call r]) :=
    ⟨by rw [openLoops_concat, hcall, hlevel], hopened⟩
  cases hanswer : f b' with
  | ok a =>
    rw [recordAs_ok (answer_ok hanswer)]
    exact hstay (.ok a)
  | error e =>
    rw [recordAs_error (answer_error hanswer)]
    exact ⟨level, hstay (.error e)⟩

/-- Every call leaves the bindings within the loops that are open. -/
theorem levels_recorded (b : Bindings) :
    scope.recorded.Levels b.Opened fun _ s => ∃ level, b.Opened level s where
  condition _ level := leads_answer _ _ (fun _ _ => rfl) b level
  value _ level := leads_answer _ _ (fun _ _ => rfl) b level
  enterLoop header level := by
    rintro ⟨_, calls⟩ ⟨hlevel, opened, hlength, rfl⟩
    cases henter : (b.within opened).enterLoop header with
    | error e =>
      -- A loop that cannot be entered is not opened.
      have hcall : scope.recorded.enterLoop header (b.within opened, calls) = _ :=
        recordAs_error (scope_enterLoop_error henter)
      rw [hcall]
      refine ⟨level, ?_, opened, hlength, rfl⟩
      rw [openLoops_concat]
      exact hlevel
    | ok entered =>
      obtain ⟨count, inner⟩ := entered
      obtain ⟨active, rfl, -⟩ := exists_of_enterLoop henter
      have hcall : scope.recorded.enterLoop header (b.within opened, calls) = _ :=
        recordAs_ok (scope_enterLoop_ok henter)
      rw [hcall]
      refine ⟨?_, (active, []) :: opened, congrArg (· + 1) hlength, rfl⟩
      rw [openLoops_concat]
      exact congrArg (· + 1) hlevel
  iteration header index level := by
    rintro ⟨_, calls⟩ ⟨hlevel, opened, hlength, rfl⟩
    -- Within a loop, an iteration cannot fail: there are a loop and a scope for it.
    obtain ⟨top, outer, rfl⟩ := List.exists_cons_of_length_eq_add_one hlength
    have hcall : scope.recorded.iteration header index (b.within (top :: outer), calls) = _ :=
      recordAs_ok (scope_iteration_ok (iteration_within top header index))
    rw [hcall]
    refine ⟨?_, (top.1, ActiveLoop.vars top.1 index) :: outer, hlength, rfl⟩
    rw [openLoops_concat]
    exact hlevel
  exitLoop header level := by
    rintro ⟨_, calls⟩ ⟨hlevel, opened, hlength, rfl⟩
    obtain ⟨top, outer, rfl⟩ := List.exists_cons_of_length_eq_add_one hlength
    refine ⟨?_, outer, Nat.succ.inj hlength, rfl⟩
    rw [Scope.recorded, openLoops_concat, Call.levelAfter, hlevel, Nat.add_sub_cancel]

theorem opened_zero (b : Bindings) : b.Opened 0 (b, []) :=
  ⟨rfl, [], rfl, rfl⟩

end Bindings

open Bindings

/-! ## Renderings against bindings -/

/-- A rendering that succeeds leaves the bindings as they were. -/
theorem render_ok_eq {p : Program} {b b' : Bindings} {out : Query Value}
    (h : p.render Bindings.scope b = .ok out b') : b' = b := by
  cases hjumps : Jumps.ofCode p.code with
  | error pc =>
    rw [render_of_ofCode_error hjumps] at h
    cases h
  | ok jumps =>
    obtain ⟨calls, hcalls⟩ := render_recorded Bindings.scope p b
    have hlevels := b.levels_recorded.render hjumps 0 (b, []) b.opened_zero
    rw [hcalls, h] at hlevels
    obtain ⟨-, opened, hlength, hb'⟩ := hlevels
    rwa [List.eq_nil_of_length_eq_zero hlength] at hb'

/-- A rendering that fails leaves the bindings within the loops that are open then. -/
theorem exists_within_of_error {p : Program} {b b' : Bindings} {e : RenderError}
    (h : p.render Bindings.scope b = .error e b') :
    ∃ calls opened, p.render Bindings.scope.recorded (b, []) = .error e (b', calls) ∧
      opened.length = openLoops calls ∧ b' = b.within opened := by
  obtain ⟨calls, hcalls⟩ := render_recorded Bindings.scope p b
  rw [h] at hcalls
  cases hjumps : Jumps.ofCode p.code with
  | error pc =>
    rw [render_of_ofCode_error hjumps] at h hcalls
    cases h
    cases hcalls
    exact ⟨[], [], render_of_ofCode_error hjumps _ _, rfl, rfl⟩
  | ok jumps =>
    have hlevels := b.levels_recorded.render hjumps 0 (b, []) b.opened_zero
    rw [hcalls] at hlevels
    obtain ⟨level, hlevel, opened, hlength, hb'⟩ := hlevels
    exact ⟨calls, opened, hcalls, hlength.trans hlevel.symm, hb'⟩

/-- What a failed rendering leaves of the bindings. The loops that its calls have entered and not
    left are open, on top of those before, with as many scopes; all else is as it was. So the scopes
    and loops are the same as before exactly if the failure is outside of all loops, and in any case
    leaving the open loops gives the bindings back. -/
theorem render_error_within (t : Template) (b b' : Bindings) (e : RenderError)
    (h : t.render Bindings.scope b = .error e b') :
    ∃ calls opened, t.render Bindings.scope.recorded (b, []) = .error e (b', calls) ∧
      opened.length = openLoops calls ∧ b' = b.within opened ∧
      (b'.scopes = b.scopes ∧ b'.loops = b.loops ↔ openLoops calls = 0) ∧
      exitLoop^[openLoops calls] b' = b := by
  obtain ⟨calls, opened, hcalls, hlength, rfl⟩ := exists_within_of_error h
  refine ⟨calls, opened, hcalls, hlength, rfl, ?_, hlength ▸ exitLoop_iterate_within b opened⟩
  simp [← hlength, within]

/-- A placeholder without a value in the second of two nested loops: both loops stay open. -/
theorem render_error_within_nested :
    let source := "\x7b\x7bfor x in xs\x7d\x7d\x7b\x7bfor y in x\x7d\x7d@z" ++
      "\x7b\x7bend\x7d\x7d\x7b\x7bend\x7d\x7d"
    let b := Bindings.empty.insert "xs" (.list [.list [.int 1]])
    ∃ t e b' calls, Template.compile source = .ok t ∧
      t.render Bindings.scope b = .error e b' ∧
      t.render Bindings.scope.recorded (b, []) = .error e (b', calls) ∧ openLoops calls = 2 ∧
      ¬ (b'.scopes = b.scopes ∧ b'.loops = b.loops) ∧ b'.exitLoop.exitLoop = b := by
  intro source b
  have hcalls :
      (match Template.compile source with
        | .ok t =>
          match t.render Bindings.scope.recorded (b, []) with
          | .error _ (_, calls) => openLoops calls == 2
          | .ok _ _ => false
        | .error _ => false) = true := by decide +kernel
  have herror :
      (match Template.compile source with
        | .ok t =>
          match t.render Bindings.scope b with
          | .error _ _ => true
          | .ok _ _ => false
        | .error _ => false) = true := by decide +kernel
  cases ht : Template.compile source with
  | error e =>
    rw [ht] at herror
    cases herror
  | ok t =>
    rw [ht] at hcalls herror
    cases hresult : t.render Bindings.scope b with
    | ok out b' =>
      simp only [hresult] at herror
      cases herror
    | error e b' =>
      obtain ⟨calls, opened, hrecorded, -, -, hsame, hexit⟩ := render_error_within t b b' e hresult
      simp only [hrecorded, beq_iff_eq] at hcalls
      rw [hcalls] at hsame hexit
      exact ⟨t, e, b', calls, rfl, hresult, hrecorded, hcalls,
        fun h => absurd (hsame.1 h) (by decide), hexit⟩

/-- After a rendering that fails within a loop, the item of the loop stands in front of the value
    that was given for its name. -/
theorem render_error_shadows :
    let source := "\x7b\x7bfor x in xs\x7d\x7d@y\x7b\x7bend\x7d\x7d"
    let b := (Bindings.empty.insert "x" (.text "outer")).insert "xs" (.list [.int 1])
    ∃ t e b', Template.compile source = .ok t ∧ t.render Bindings.scope b = .error e b' ∧
      b.scopes.length = 1 ∧ b.loops.length = 0 ∧ b'.scopes.length = 2 ∧ b'.loops.length = 1 ∧
      (b.lookup "x").bind Value.text? = some "outer" ∧
      (b'.lookup "x").bind Value.int? = some 1 := by
  intro source b
  have hresult :
      (match Template.compile source with
        | .ok t =>
          match t.render Bindings.scope b with
          | .error _ b' => b'.scopes.length == 2 && b'.loops.length == 1 &&
            (b'.lookup "x").bind Value.int? == some 1
          | .ok _ _ => false
        | .error _ => false) = true := by decide +kernel
  cases ht : Template.compile source with
  | error e =>
    rw [ht] at hresult
    cases hresult
  | ok t =>
    rw [ht] at hresult
    cases herror : t.render Bindings.scope b with
    | ok out b' =>
      simp only [herror] at hresult
      cases hresult
    | error e b' =>
      simp only [herror, Bool.and_eq_true, beq_iff_eq] at hresult
      obtain ⟨⟨hscopes, hloops⟩, hx⟩ := hresult
      exact ⟨t, e, b', rfl, herror, rfl, rfl, hscopes, hloops, by decide +kernel, hx⟩

end QueryTemplate
