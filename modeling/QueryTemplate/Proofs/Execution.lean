import QueryTemplate.Proofs.Nesting
import QueryTemplate.Render

/-!
# Running nested code

Nested code has a meaning that follows its tree and knows of no places: a branch
is taken or not, a loop runs its body again and again, a clause collects its body
apart. Running the flat code from place to place, with the help of a jump table
that is right about it, comes to the same.

* `Nest.exec`: the meaning of nested code;
* `choose_arms`: looking for the branch of a conditional, from place to place, and
  running it is trying the branches one after the other;
* `run_nests`: running the places that nested code takes up is its meaning;
* `render_code`: so is rendering a program of nested code.
-/

namespace QueryTemplate

open Nest

variable {σ : Type}

namespace Nest

mutual

/-- The effect of a piece on the query so far. -/
def execOf (scope : Scope σ) : Nest → Query Value → Rendering σ (Query Value)
  | literal sql, out => pure (out.write sql)
  | bind binds, out => do
    let params ← scope.params binds
    return out.addParams params
  | cond condition body arms, out => do
    if ← scope.condition condition then exec scope body out else execArms scope arms out
  | loop header body, out => do
    let count ← scope.enterLoop header
    let out ← scope.iterate header (fun out => exec scope body out) count 0 out
    modify (scope.exitLoop header)
    return out
  | clause _ body kind, out => do
    let clause ← exec scope body {}
    return out.addClause kind clause

/-- The effect of pieces on the query so far. -/
def exec (scope : Scope σ) : List Nest → Query Value → Rendering σ (Query Value)
  | [], out => pure out
  | nest :: nests, out => do
    let out ← execOf scope nest out
    exec scope nests out

/-- The effect of the branches after the first on the query so far, if none before
    them is taken. -/
def execArms (scope : Scope σ) : List Arm → Query Value → Rendering σ (Query Value)
  | [], out => pure out
  | .mk (some condition) body :: arms, out => do
    if ← scope.condition condition then exec scope body out else execArms scope arms out
  | .mk none body :: _, out => exec scope body out

end

end Nest

/-! ## Places of code -/

/-- The code has the given instructions from `pc` on. -/
def CodeAt (code : List Instr) (pc : Nat) (instrs : List Instr) : Prop :=
  instrs <+: code.drop pc

namespace CodeAt

variable {code instrs more : List Instr} {pc : Nat} {instr : Instr}

theorem head (h : CodeAt code pc (instr :: instrs)) : code[pc]? = some instr := by
  obtain ⟨rest, hrest⟩ := h
  rw [← List.head?_drop, ← hrest]
  rfl

theorem tail (h : CodeAt code pc (instr :: instrs)) : CodeAt code (pc + 1) instrs := by
  obtain ⟨rest, hrest⟩ := h
  exact ⟨rest, by rw [← List.drop_drop, ← hrest]; rfl⟩

theorem left (h : CodeAt code pc (instrs ++ more)) : CodeAt code pc instrs :=
  (List.prefix_append _ _).trans h

theorem right (h : CodeAt code pc (instrs ++ more)) : CodeAt code (pc + instrs.length) more := by
  induction instrs generalizing pc with
  | nil => exact h
  | cons _ instrs ih =>
    have hmore := ih h.tail
    rwa [Nat.add_right_comm] at hmore

theorem lt_length (h : CodeAt code pc (instr :: instrs)) : pc < code.length :=
  (List.getElem?_eq_some_iff.1 h.head).1

end CodeAt

/-! ## Conditionals -/

variable {scope : Scope σ} {code : List Instr} {jumps : Jumps}

/-- What follows once the branch at `arm` is chosen of the conditional at `pc`: the
    branch is run, and then what comes after the conditional. -/
def runArm (scope : Scope σ) (code : List Instr) (jumps : Jumps) (pc stop : Nat)
    (out : Query Value) (arm : Nat) : Rendering σ (Query Value) :=
  let last := jumps.last pc
  if pc ≤ arm ∧ arm ≤ last ∧ last < stop then
    if arm = last then run scope code jumps (last + 1) stop out
    else if jumps.next arm ≤ last then do
      let out ← run scope code jumps (arm + 1) (jumps.next arm) out
      run scope code jumps (last + 1) stop out
    else throw (.malformedProgram arm)
  else throw (.malformedProgram pc)

theorem run_beginIf {pc stop : Nat} {condition : String} {out : Query Value} (hpc : pc < stop)
    (hcode : code[pc]? = some (.beginIf condition)) :
    run scope code jumps pc stop out =
      scope.choose code jumps pc >>= runArm scope code jumps pc stop out := by
  rw [run, if_pos hpc]
  simp only [hcode]
  rfl

/-- A branch that ends within its conditional is run up to the next one. -/
theorem runArm_eq {pc stop arm : Nat} {out : Query Value} (hpc : pc ≤ arm)
    (hnext : arm < jumps.next arm) (hlast : jumps.next arm ≤ jumps.last pc)
    (hstop : jumps.last pc < stop) :
    runArm scope code jumps pc stop out arm =
      run scope code jumps (arm + 1) (jumps.next arm) out >>=
        run scope code jumps (jumps.last pc + 1) stop := by
  rw [runArm, if_pos (by omega), if_neg (by omega), if_pos hlast]

/-- A branch with a condition is chosen if that holds; else the next one is looked at. -/
theorem choose_eq {arm : Nat} {condition : String}
    (hcode : code[arm]? = some (.beginIf condition) ∨ code[arm]? = some (.elseIf condition))
    (hnext : arm < jumps.next arm) (hlen : jumps.next arm < code.length) :
    scope.choose code jumps arm = (do
      if ← scope.condition condition then return arm
      else scope.choose code jumps (jumps.next arm)) := by
  rw [Scope.choose]
  rcases hcode with hcode | hcode
  · simp only [hcode, if_pos (And.intro hnext hlen)]
  · simp only [hcode, if_pos (And.intro hnext hlen)]

/-- A branch with a condition is chosen and run if that holds; else the next one is
    looked at. -/
theorem choose_condition {pc stop arm : Nat} {condition : String} {out : Query Value}
    (hcode : code[arm]? = some (.beginIf condition) ∨ code[arm]? = some (.elseIf condition))
    (hlen : jumps.next arm < code.length) (hpc : pc ≤ arm) (hnext : arm < jumps.next arm)
    (hlast : jumps.next arm ≤ jumps.last pc) (hstop : jumps.last pc < stop) :
    scope.choose code jumps arm >>= runArm scope code jumps pc stop out = (do
      if ← scope.condition condition then
        run scope code jumps (arm + 1) (jumps.next arm) out >>=
          run scope code jumps (jumps.last pc + 1) stop
      else scope.choose code jumps (jumps.next arm) >>= runArm scope code jumps pc stop out) := by
  rw [choose_eq hcode hnext hlen, bind_assoc]
  refine bind_congr fun taken => ?_
  cases taken with
  | true => exact (pure_bind ..).trans (runArm_eq hpc hnext hlast hstop)
  | false => rfl

theorem choose_last {pc : Nat} (hcode : code[pc]? = some .otherwise ∨ code[pc]? = some .endIf) :
    scope.choose code jumps pc = pure pc := by
  rw [Scope.choose]
  rcases hcode with hcode | hcode
  · simp only [hcode]
  · simp only [hcode]

/-! ## Runs -/

theorem run_of_le {pc stop : Nat} {out : Query Value} (h : stop ≤ pc) :
    run scope code jumps pc stop out = pure out := by
  rw [run, if_neg (Nat.not_lt.2 h)]

mutual

theorem run_nest :
    (nest : Nest) → {pc stop : Nat} → (out : Query Value) → CodeAt code pc (codeOf nest) →
      LinkedOf jumps pc nest → pc + (codeOf nest).length ≤ stop →
      run scope code jumps pc stop out =
        execOf scope nest out >>= run scope code jumps (pc + (codeOf nest).length) stop
  | .literal sql, pc, stop, out, hcode, _, hstop => by
    have hpc : pc < stop := hstop
    rw [run, if_pos hpc, execOf, pure_bind]
    simp only [hcode.head]
    rfl
  | .bind binds, pc, stop, out, hcode, _, hstop => by
    have hpc : pc < stop := hstop
    rw [run, if_pos hpc, execOf]
    simp only [hcode.head, bind_assoc, pure_bind]
    rfl
  | .cond condition body arms, pc, stop, out, hcode, ⟨hnext, hlast, hbody, harms⟩, hstop => by
    rw [length_cond] at hstop ⊢
    have hrest := hcode.tail.right
    have hend := hrest.right.lt_length
    have hafter :
        pc + ((Nest.code body).length + (armCode arms).length + 2) = jumps.last pc + 1 := by
      omega
    rw [hafter, run_beginIf (by omega) hcode.head, choose_condition (.inl hcode.head) (by omega)
      (Nat.le_refl pc) (by omega) (by omega) (by omega), execOf, bind_assoc]
    refine bind_congr fun taken => ?_
    cases taken with
    | true =>
      simp only [if_true]
      rw [hnext, run_nests body out hcode.tail.left hbody]
    | false =>
      simp only [Bool.false_eq_true, if_false]
      rw [hnext]
      exact choose_arms arms out hrest (hlast ▸ harms) (by omega) (by omega) (by omega)
  | .loop header body, pc, stop, out, hcode, ⟨hnext, _, hbody⟩, hstop => by
    rw [length_loop] at hstop ⊢
    have hafter : pc + ((Nest.code body).length + 2) = jumps.next pc + 1 := by omega
    have hrun : ∀ out, run scope code jumps (pc + 1) (jumps.next pc) out = exec scope body out :=
      fun out => hnext ▸ run_nests body out hcode.tail.left hbody
    rw [run, if_pos (by omega), execOf, hafter]
    simp only [hcode.head, hrun, bind_assoc, pure_bind]
    rw [if_pos (by omega)]
  | .clause kind body closing, pc, stop, out, hcode, ⟨hclose, hbody⟩, hstop => by
    rw [length_clause] at hstop ⊢
    have hafter : pc + ((Nest.code body).length + 2) = jumps.close pc + 1 := by omega
    have hend : code[jumps.close pc]? = some (.endClause closing) := hclose ▸ hcode.tail.right.head
    rw [run, if_pos (by omega), execOf, hafter]
    simp only [hcode.head, hend, bind_assoc, pure_bind]
    rw [if_pos (by omega), hclose, run_nests body {} hcode.tail.left hbody]

/-- Running the places that nested code takes up has the effect of the code. -/
theorem run_nests :
    (nests : List Nest) → {pc : Nat} → (out : Query Value) → CodeAt code pc (Nest.code nests) →
      Linked jumps pc nests →
      run scope code jumps pc (pc + (Nest.code nests).length) out = exec scope nests out
  | [], _, _, _, _ => run_of_le (Nat.le_refl _)
  | nest :: nests, pc, out, hcode, ⟨hnest, hnests⟩ => by
    rw [Nest.code] at hcode
    rw [length_code_cons, run_nest nest out hcode.left hnest (by omega), exec]
    refine bind_congr fun out => ?_
    rw [← Nat.add_assoc]
    exact run_nests nests out hcode.right hnests

/-- Looking for the branch to take of a conditional at `first`, from place to place,
    and running it is trying the branches one after the other. -/
theorem choose_arms :
    (arms : List Arm) → {first pc stop : Nat} → (out : Query Value) →
      CodeAt code pc (armCode arms ++ [.endIf]) → LinkedArms jumps pc (jumps.last first) arms →
      first ≤ pc → pc + (armCode arms).length = jumps.last first → jumps.last first < stop →
      scope.choose code jumps pc >>= runArm scope code jumps first stop out =
        execArms scope arms out >>= run scope code jumps (jumps.last first + 1) stop
  | [], first, pc, stop, out, hcode, _, hfirst, hlast, hstop => by
    have hpc : pc = jumps.last first := hlast
    rw [choose_last (.inr hcode.head), pure_bind, execArms, pure_bind, runArm, if_pos (by omega),
      if_pos hpc]
  | .mk none body :: arms, first, pc, stop, out, hcode, ⟨hnext, _, hbody, _⟩, hfirst, hlast,
      hstop => by
    rw [length_armCode_cons] at hlast
    rw [armCode, List.cons_append, List.append_assoc] at hcode
    -- A branch without a condition is taken, whatever comes after it.
    rw [choose_last (.inl hcode.head), pure_bind, execArms,
      runArm_eq hfirst (by omega) (by omega) hstop, hnext, run_nests body out hcode.tail.left hbody]
  | .mk (some condition) body :: arms, first, pc, stop, out, hcode, ⟨hnext, _, hbody, harms⟩,
      hfirst, hlast, hstop => by
    rw [length_armCode_cons] at hlast
    rw [armCode, List.cons_append, List.append_assoc] at hcode
    have hend := hcode.tail.right.right.lt_length
    rw [choose_condition (.inr hcode.head) (by omega) hfirst (by omega) (by omega) hstop, execArms,
      bind_assoc]
    refine bind_congr fun taken => ?_
    cases taken with
    | true =>
      simp only [if_true]
      rw [hnext, run_nests body out hcode.tail.left hbody]
    | false =>
      simp only [Bool.false_eq_true, if_false]
      rw [hnext]
      exact choose_arms arms out hcode.tail.right harms (by omega) (by omega) hstop

end

/-- Rendering a program of nested code has the effect of the code. -/
theorem render_code (nests : List Nest) (capacity : Nat) :
    (Program.mk (Nest.code nests) capacity).render scope = exec scope nests {} := by
  obtain ⟨jumps, hjumps, hlinked⟩ := ofCode_code nests
  have hcode : CodeAt (Nest.code nests) 0 (Nest.code nests) := List.prefix_refl _
  simp only [Program.render, hjumps]
  rw [← run_nests nests {} hcode hlinked, Nat.zero_add]

end QueryTemplate
