import QueryTemplate.Proofs.Levels

/-!
# A machine with places

Rendering runs a block as a whole. The same can be done by a machine that knows no blocks, only
the place that it is at, the loops that it is in and the queries that it writes, and that goes from
place to place with the help of the jump table. Each of its turns relies on something that the code
does not show at that place: at the end of a loop, that it is in a loop, and that the table leads
back to the start of one; at the end of a clause, that there is a query to add the clause to; and
after the code, that one query is left. A turn for which this does not hold fails as malformed.

On code with a jump table, this never happens. Between the places of a piece of nested code, the
machine is in the loops and writes the queries around that piece, and it comes to its end just when
rendering does, with the same query and the same state of the scope. As a loop runs as often as the
scope has said, the machine gets there.

* `Machine`, `Machine.turn`: the machine and what it does at a place, `Machine.turns` many times;
* `Machine.Safe`: what the next turn relies on holds;
* `Simulates`: the machine goes through safe turns to where a computation leads;
* `simulates_nests`: it does so for the effect of nested code;
* `render_never_malformed`: with a jump table, rendering never fails as malformed by itself, and the
  machine comes to the same result by safe turns.
-/

namespace QueryTemplate

open Nest Rendering

variable {σ : Type}

/-- The iterations of a loop: the present one, and how many there are. -/
structure Lap where
  /-- The index of the present iteration. -/
  index : Nat
  /-- How many iterations there are. -/
  count : Nat

/-- A machine that runs code from place to place. -/
structure Machine where
  /-- The place that it is at. -/
  pc : Nat := 0
  /-- The loops that it is in, the innermost first. -/
  loops : List Lap := []
  /-- The queries that it writes: that of the innermost clause first, the whole query last. -/
  buffers : List (Query Value) := [{}]

namespace Machine

/-- The machine after an instruction. -/
def step (scope : Scope σ) (code : List Instr) (jumps : Jumps) (m : Machine) (instr : Instr) :
    Rendering σ Machine :=
  match m.buffers with
  | [] => throw (.malformedProgram m.pc)
  | current :: outer =>
    match instr with
    | .literal sql => return { m with pc := m.pc + 1, buffers := current.write sql :: outer }
    | .bind binds => do
      let params ← scope.params binds
      return { m with pc := m.pc + 1, buffers := current.addParams params :: outer }
    | .beginIf _ => do
      let arm ← scope.choose code jumps m.pc
      return { m with pc := arm + 1 }
    -- The branch before this one has been run to its end.
    | .elseIf _ | .otherwise => return { m with pc := jumps.last m.pc + 1 }
    | .endIf => return { m with pc := m.pc + 1 }
    | .beginLoop header => do
      let count ← scope.enterLoop header
      if count = 0 then
        modify (scope.exitLoop header)
        return { m with pc := jumps.next m.pc + 1 }
      else
        scope.iteration header 0
        return { m with pc := m.pc + 1, loops := ⟨0, count⟩ :: m.loops }
    | .endLoop =>
      match code[jumps.next m.pc]?, m.loops with
      | some (.beginLoop header), lap :: loops =>
        if lap.index + 1 < lap.count then do
          scope.iteration header (lap.index + 1)
          return { m with pc := jumps.next m.pc + 1, loops := ⟨lap.index + 1, lap.count⟩ :: loops }
        else do
          modify (scope.exitLoop header)
          return { m with pc := m.pc + 1, loops := loops }
      | _, _ => throw (.malformedProgram m.pc)
    | .beginClause _ => return { m with pc := m.pc + 1, buffers := {} :: current :: outer }
    | .endClause kind =>
      match outer with
      | [] => throw (.malformedProgram m.pc)
      | out :: outer =>
        return { m with pc := m.pc + 1, buffers := out.addClause kind current :: outer }

/-- The query of a machine that is done. -/
def finish (m : Machine) : Rendering σ (Query Value) :=
  match m.buffers with
  | [out] => return out
  | _ => throw (.malformedProgram m.pc)

/-- A turn: the machine executes the instruction at its place, or is done after the last one. -/
def turn (scope : Scope σ) (code : List Instr) (jumps : Jumps) (m : Machine) :
    Rendering σ (Machine ⊕ Query Value) :=
  match code[m.pc]? with
  | some instr => do return .inl (← m.step scope code jumps instr)
  | none => do return .inr (← m.finish)

/-- The machine after a number of turns, or its query if it is done before. -/
def turns (scope : Scope σ) (code : List Instr) (jumps : Jumps) :
    Nat → Machine → Rendering σ (Machine ⊕ Query Value)
  | 0, m => return .inl m
  | n + 1, m => do
    match ← m.turn scope code jumps with
    | .inl m => turns scope code jumps n m
    | .inr out => return .inr out

end Machine

/-- The place is one of the conditional at `first`: a branch starts there, or it ends there. -/
def IsArm (code : List Instr) (jumps : Jumps) (first arm : Nat) : Prop :=
  first ≤ arm ∧ arm ≤ jumps.last first ∧ code[jumps.last first]? = some .endIf ∧
    (arm = jumps.last first ∨
      jumps.last arm = jumps.last first ∧ ∃ instr, code[arm]? = some instr ∧ instr.startsBranch)

/-- What the next turn of the machine relies on holds. There is a query to write. At a conditional,
    whichever branch is chosen is one of that conditional, or the end of it; from a later branch
    the table leads to the end of a conditional, and from one end of a loop to the other. At the
    end of a loop the machine is in one, and at the end of a clause it writes a query around that
    of the clause. After the code it is in no loop, and there is one query. -/
def Machine.Safe (scope : Scope σ) (code : List Instr) (jumps : Jumps) (m : Machine) : Prop :=
  m.buffers ≠ [] ∧
    match code[m.pc]? with
    | some (.beginIf _) =>
      ∀ s arm s', scope.choose code jumps m.pc s = .ok arm s' → IsArm code jumps m.pc arm
    | some (.elseIf _) | some .otherwise => code[jumps.last m.pc]? = some .endIf
    | some (.beginLoop _) => code[jumps.next m.pc]? = some .endLoop
    | some .endLoop =>
      m.loops ≠ [] ∧ ∃ header, code[jumps.next m.pc]? = some (.beginLoop header)
    | some (.endClause _) => ∃ clause out outer, m.buffers = clause :: out :: outer
    | some _ => True
    | none => m.pc = code.length ∧ m.loops = [] ∧ ∃ out, m.buffers = [out]

/-! ## Simulations -/

/-- From a state of the scope, the machine goes through safe turns to a result: another machine, or
    the query that it is done with, or a failure. -/
inductive Passes (scope : Scope σ) (code : List Instr) (jumps : Jumps) :
    Machine → σ → EStateM.Result RenderError σ (Machine ⊕ Query Value) → Prop where
  /-- No turn is made. -/
  | here {m : Machine} {s : σ} : Passes scope code jumps m s (.ok (.inl m) s)
  /-- A turn is made, and then others. -/
  | turn {m m' : Machine} {s s' : σ} {r : EStateM.Result RenderError σ (Machine ⊕ Query Value)} :
    m.Safe scope code jumps → m.turn scope code jumps s = .ok (.inl m') s' →
      Passes scope code jumps m' s' r → Passes scope code jumps m s r
  /-- The machine is done. -/
  | done {m : Machine} {s s' : σ} {out : Query Value} :
    m.Safe scope code jumps → m.turn scope code jumps s = .ok (.inr out) s' →
      Passes scope code jumps m s (.ok (.inr out) s')
  /-- A turn fails. -/
  | fail {m : Machine} {s s' : σ} {e : RenderError} :
    m.Safe scope code jumps → m.turn scope code jumps s = .error e s' →
      Passes scope code jumps m s (.error e s')

/-- The machine goes through safe turns to where the computation leads. -/
def Simulates (scope : Scope σ) (code : List Instr) (jumps : Jumps) (m : Machine)
    (y : Rendering σ (Machine ⊕ Query Value)) : Prop :=
  ∀ s, Passes scope code jumps m s (y s)

/-- The computation `x` gives a machine that goes through safe turns to where `y` leads; or both
    fail in the same way. -/
def Follows (scope : Scope σ) (code : List Instr) (jumps : Jumps) (x : Rendering σ Machine)
    (y : Rendering σ (Machine ⊕ Query Value)) : Prop :=
  ∀ s,
    match x s with
    | .ok m s' => Passes scope code jumps m s' (y s)
    | .error e s' => y s = .error e s'

section Simulations

variable {scope : Scope σ} {code : List Instr} {jumps : Jumps} {m : Machine}
  {y : Rendering σ (Machine ⊕ Query Value)}

theorem Passes.trans {m' : Machine} {s s' : σ}
    {r : EStateM.Result RenderError σ (Machine ⊕ Query Value)}
    (h : Passes scope code jumps m s (.ok (.inl m') s')) (h' : Passes scope code jumps m' s' r) :
    Passes scope code jumps m s r := by
  generalize hr : EStateM.Result.ok (Sum.inl m') s' = r' at h
  induction h with
  | here =>
    cases hr
    exact h'
  | turn hsafe hturn _ ih => exact .turn hsafe hturn (ih hr)
  | done _ _ => cases hr
  | fail _ _ => cases hr

namespace Follows

theorem of_simulates (h : Simulates scope code jumps m y) :
    Follows scope code jumps (pure m) y :=
  h

theorem bind {α : Type} {x : Rendering σ α} {f : α → Rendering σ Machine}
    {g : α → Rendering σ (Machine ⊕ Query Value)} (h : ∀ a, Follows scope code jumps (f a) (g a)) :
    Follows scope code jumps (x >>= f) (x >>= g) := by
  intro s
  cases hx : x s with
  | ok a s' =>
    rw [bind_ok hx, bind_ok hx]
    exact h a s'
  | error e s' =>
    rw [bind_error hx, bind_error hx]

end Follows

namespace Simulates

theorem here : Simulates scope code jumps m (pure (.inl m)) :=
  fun _ => .here

/-- A turn at an instruction, and what follows it. -/
theorem step {instr : Instr} (hcode : code[m.pc]? = some instr) (hsafe : m.Safe scope code jumps)
    (h : Follows scope code jumps (m.step scope code jumps instr) y) :
    Simulates scope code jumps m y := by
  intro s
  have hturn : m.turn scope code jumps = (do
      return .inl (← m.step scope code jumps instr)) := by
    rw [Machine.turn, hcode]
  have hstep := h s
  cases hx : m.step scope code jumps instr s with
  | ok m' s' =>
    rw [hx] at hstep
    exact .turn hsafe (by rw [hturn, bind_ok hx]; rfl) hstep
  | error e s' =>
    rw [hx] at hstep
    rw [hstep]
    exact .fail hsafe (by rw [hturn, bind_error hx])

theorem trans {α : Type} {x : Rendering σ α} {g : α → Machine}
    {f : α → Rendering σ (Machine ⊕ Query Value)}
    (h : Simulates scope code jumps m (x >>= fun a => pure (.inl (g a))))
    (h' : ∀ a, Simulates scope code jumps (g a) (f a)) :
    Simulates scope code jumps m (x >>= f) := by
  intro s
  have hx := h s
  cases hresult : x s with
  | ok a s' =>
    rw [bind_ok hresult] at hx ⊢
    exact Passes.trans hx (h' a s')
  | error e s' =>
    rw [bind_error hresult] at hx ⊢
    exact hx

end Simulates

/-! ## Conditionals -/

/-- Whichever branch of a conditional is chosen from the one at `pc` on, it is one of that
    conditional, or the end of it. -/
theorem isArm_of_choose :
    (arms : List Arm) → {first pc : Nat} → CodeAt code pc (armCode arms ++ [.endIf]) →
      LinkedArms jumps pc (jumps.last first) arms → first ≤ pc →
      pc + (armCode arms).length = jumps.last first → {s s' : σ} → {arm : Nat} →
      scope.choose code jumps pc s = .ok arm s' → IsArm code jumps first arm
  | [], first, pc, hcode, _, hfirst, hlast, s, s', arm, h => by
    rw [choose_last (.inr hcode.head)] at h
    cases h
    have hpc : pc = jumps.last first := hlast
    exact ⟨hfirst, hpc.le, hpc ▸ hcode.head, .inl hpc⟩
  | .mk none body :: arms, first, pc, hcode, ⟨_, hlast', _, _⟩, hfirst, hlast, s, s', arm, h => by
    have hend := hlast ▸ hcode.right.head
    rw [armCode, List.cons_append, List.append_assoc] at hcode
    rw [choose_last (.inl hcode.head)] at h
    cases h
    exact ⟨hfirst, by omega, hend, .inr ⟨hlast', _, hcode.head, rfl⟩⟩
  | .mk (some condition) body :: arms, first, pc, hcode, ⟨hnext, hlast', _, harms⟩, hfirst, hlast,
      s, s', arm, h => by
    have hend := hlast ▸ hcode.right.head
    rw [length_armCode_cons] at hlast
    rw [armCode, List.cons_append, List.append_assoc] at hcode
    have hlen := hcode.tail.right.right.lt_length
    rw [choose_eq (.inr hcode.head) (by omega) (by omega)] at h
    cases hcondition : scope.condition condition s with
    | error e s₁ => cases (bind_error hcondition).symm.trans h
    | ok taken s₁ =>
      rw [bind_ok hcondition] at h
      cases taken with
      | true =>
        cases h
        exact ⟨hfirst, by omega, hend, .inr ⟨hlast', _, hcode.head, rfl⟩⟩
      | false =>
        rw [hnext] at h
        exact isArm_of_choose arms hcode.tail.right harms (by omega) (by omega) h

/-- At the end of a branch, the next one or the end of the conditional sends the machine behind the
    conditional. -/
theorem simulates_leave (arms : List Arm) {pc last : Nat} {loops : List Lap} {out : Query Value}
    {outer : List (Query Value)} (hcode : CodeAt code pc (armCode arms ++ [.endIf]))
    (hlinked : LinkedArms jumps pc last arms) (hlast : pc + (armCode arms).length = last) :
    Simulates scope code jumps ⟨pc, loops, out :: outer⟩
      (pure (.inl ⟨last + 1, loops, out :: outer⟩)) := by
  cases arms with
  | nil =>
    obtain rfl : pc = last := hlast
    refine .step hcode.head ⟨List.cons_ne_nil _ _, ?_⟩ (.of_simulates .here)
    simp only [hcode.head]
  | cons arm arms =>
    obtain ⟨condition, body⟩ := arm
    have hend := hlast ▸ hcode.right.head
    rw [armCode, List.cons_append] at hcode
    obtain ⟨-, hlast', -⟩ := hlinked
    -- The next branch does the same with a condition and without: it is not looked at.
    have hsafe : Machine.Safe scope code jumps ⟨pc, loops, out :: outer⟩ := by
      refine ⟨List.cons_ne_nil _ _, ?_⟩
      cases condition <;> simp only [hcode.head, Arm.start, hlast', hend]
    have hstep : Machine.step scope code jumps ⟨pc, loops, out :: outer⟩ (Arm.start condition) =
        pure ⟨last + 1, loops, out :: outer⟩ := by
      rw [← hlast']
      cases condition <;> rfl
    refine .step hcode.head hsafe ?_
    rw [hstep]
    exact .of_simulates .here

/-- Whichever branch of a conditional is chosen, it is one of that conditional, or the end of it. -/
theorem isArm_of_choose_cond {condition : String} {body : List Nest} {arms : List Arm} {pc : Nat}
    (hcode : CodeAt code pc (codeOf (.cond condition body arms)))
    (hlinked : LinkedOf jumps pc (.cond condition body arms)) {s s' : σ} {arm : Nat}
    (h : scope.choose code jumps pc s = .ok arm s') : IsArm code jumps pc arm := by
  obtain ⟨hnext, hlast, -, harms⟩ := hlinked
  have hrest := hcode.tail.right
  have hend : code[jumps.last pc]? = some .endIf := hlast ▸ hrest.right.head
  have hlen := hrest.right.lt_length
  rw [choose_eq (.inl hcode.head) (by omega) (by omega)] at h
  cases hcondition : scope.condition condition s with
  | error e s₁ => cases (bind_error hcondition).symm.trans h
  | ok taken s₁ =>
    rw [bind_ok hcondition] at h
    cases taken with
    | true =>
      cases h
      exact ⟨Nat.le_refl _, by omega, hend, .inr ⟨rfl, _, hcode.head, rfl⟩⟩
    | false =>
      rw [hnext] at h
      exact isArm_of_choose arms hrest (hlast ▸ harms) (by omega) (by omega) h

/-! ## Loops -/

/-- Within a loop, the machine runs the body in the present iteration and in those that are left,
    and leaves the loop. -/
theorem simulates_laps {header : String} {head last : Nat} {loops : List Lap}
    {outer : List (Query Value)} {body : Query Value → Rendering σ (Query Value)}
    (hhead : code[head]? = some (.beginLoop header)) (hlast : code[last]? = some .endLoop)
    (hback : jumps.next last = head)
    (hbody : ∀ lap out, Simulates scope code jumps ⟨head + 1, lap :: loops, out :: outer⟩
      (body out >>= fun out => pure (.inl ⟨last, lap :: loops, out :: outer⟩)))
    (left index : Nat) (out : Query Value) :
    Simulates scope code jumps ⟨head + 1, ⟨index, index + left + 1⟩ :: loops, out :: outer⟩ (do
      let out ← body out
      let out ← scope.iterate header body left (index + 1) out
      modify (scope.exitLoop header)
      return .inl ⟨last + 1, loops, out :: outer⟩) := by
  have hsafe (lap : Lap) (out : Query Value) :
      Machine.Safe scope code jumps ⟨last, lap :: loops, out :: outer⟩ := by
    refine ⟨List.cons_ne_nil _ _, ?_⟩
    simp only [hlast, hback, hhead]
    exact ⟨List.cons_ne_nil _ _, header, rfl⟩
  -- By induction on the iterations that are left: each jump back leaves one less.
  induction left generalizing index out with
  | zero =>
    refine .trans (hbody _ out) fun out => .step hlast (hsafe _ out) ?_
    simp only [Machine.step, hback, hhead, Nat.add_zero, Nat.lt_irrefl, if_false, Scope.iterate,
      pure_bind]
    exact .bind fun _ => .of_simulates .here
  | succ left ih =>
    have hlt : index + 1 < index + (left + 1) + 1 := by omega
    have hcount : index + (left + 1) + 1 = index + 1 + left + 1 := by omega
    refine .trans (hbody _ out) fun out => .step hlast (hsafe _ out) ?_
    simp only [Machine.step, hback, hhead, hlt, if_true, Scope.iterate, bind_assoc]
    rw [hcount]
    exact .bind fun _ => .of_simulates (ih (index + 1) out)

/-! ## Nested code -/

mutual

theorem simulates_nest :
    (nest : Nest) → {pc : Nat} → (loops : List Lap) → (out : Query Value) →
      (outer : List (Query Value)) → CodeAt code pc (codeOf nest) → LinkedOf jumps pc nest →
      Simulates scope code jumps ⟨pc, loops, out :: outer⟩
        (execOf scope nest out >>= fun out =>
          pure (.inl ⟨pc + (codeOf nest).length, loops, out :: outer⟩))
  | .literal sql, pc, loops, out, outer, hcode, _ => by
    rw [execOf, pure_bind]
    refine .step hcode.head ⟨List.cons_ne_nil _ _, ?_⟩ (.of_simulates .here)
    simp only [hcode.head]
  | .bind binds, pc, loops, out, outer, hcode, _ => by
    rw [execOf, bind_assoc]
    simp only [pure_bind]
    refine .step hcode.head ⟨List.cons_ne_nil _ _, ?_⟩ (.bind fun _ => .of_simulates .here)
    simp only [hcode.head]
  | .cond condition body arms, pc, loops, out, outer, hcode, hlinked => by
    have hsafe : Machine.Safe scope code jumps ⟨pc, loops, out :: outer⟩ := by
      refine ⟨List.cons_ne_nil _ _, ?_⟩
      simp only [hcode.head]
      exact fun s arm s' => isArm_of_choose_cond hcode hlinked
    obtain ⟨hnext, hlast, hbody, harms⟩ := hlinked
    have hrest := hcode.tail.right
    have hlen := hrest.right.lt_length
    have hafter : pc + (codeOf (.cond condition body arms)).length =
        pc + 1 + (Nest.code body).length + (armCode arms).length + 1 := by
      rw [length_cond]
      omega
    rw [hafter, execOf, bind_assoc]
    refine .step hcode.head hsafe ?_
    simp only [Machine.step]
    rw [choose_eq (.inl hcode.head) (by omega) (by omega), bind_assoc]
    refine .bind fun taken => ?_
    cases taken with
    | true =>
      -- The machine lands in the first branch, and leaves it where the next one starts.
      simp only [if_true, pure_bind]
      exact .of_simulates (.trans (simulates_nests body loops out outer hcode.tail.left hbody)
        fun out => simulates_leave arms hrest harms rfl)
    | false =>
      simp only [Bool.false_eq_true, if_false]
      rw [hnext]
      exact follows_arms arms loops out outer hrest harms rfl
  | .loop header body, pc, loops, out, outer, hcode, ⟨hnext, hback, hbody⟩ => by
    have hend : code[pc + 1 + (Nest.code body).length]? = some .endLoop := hcode.tail.right.head
    have hafter : pc + (codeOf (.loop header body)).length =
        pc + 1 + (Nest.code body).length + 1 := by
      rw [length_loop]
      omega
    rw [hafter, execOf, bind_assoc]
    simp only [bind_assoc, pure_bind]
    refine .step hcode.head ⟨List.cons_ne_nil _ _, ?_⟩ (.bind fun count => ?_)
    · simp only [hcode.head, hnext, hend]
    · cases count with
      | zero =>
        -- A loop that does not run is left at once, behind its end.
        simp only [if_true, Scope.iterate, pure_bind, hnext]
        exact .bind fun _ => .of_simulates .here
      | succ count =>
        have hlaps := simulates_laps hcode.head hend hback
          (fun lap out => simulates_nests body (lap :: loops) out outer hcode.tail.left hbody)
          count 0 out
        rw [Nat.zero_add] at hlaps
        simp only [Nat.add_eq_zero_iff, Nat.one_ne_zero, and_false, if_false, Scope.iterate,
          bind_assoc]
        exact .bind fun _ => .of_simulates hlaps
  | .clause kind body closing, pc, loops, out, outer, hcode, ⟨_, hbody⟩ => by
    have hend : code[pc + 1 + (Nest.code body).length]? = some (.endClause closing) :=
      hcode.tail.right.head
    have hafter : pc + (codeOf (.clause kind body closing)).length =
        pc + 1 + (Nest.code body).length + 1 := by
      rw [length_clause]
      omega
    rw [hafter, execOf, bind_assoc]
    simp only [pure_bind]
    refine .step hcode.head ⟨List.cons_ne_nil _ _, ?_⟩ (.of_simulates ?_)
    · simp only [hcode.head]
    · -- The body is written to a query of its own, with that of the clause around it next.
      refine .trans (simulates_nests body loops {} (out :: outer) hcode.tail.left hbody) ?_
      intro clause
      refine .step hend ⟨List.cons_ne_nil _ _, ?_⟩ (.of_simulates .here)
      simp only [hend]
      exact ⟨clause, out, outer, rfl⟩

/-- From the start of nested code, the machine goes through safe turns to the end of it, with the
    effect of the code; it is in the same loops then, and the other queries are the same. -/
theorem simulates_nests :
    (nests : List Nest) → {pc : Nat} → (loops : List Lap) → (out : Query Value) →
      (outer : List (Query Value)) → CodeAt code pc (Nest.code nests) → Linked jumps pc nests →
      Simulates scope code jumps ⟨pc, loops, out :: outer⟩
        (exec scope nests out >>= fun out =>
          pure (.inl ⟨pc + (Nest.code nests).length, loops, out :: outer⟩))
  | [], pc, loops, out, outer, _, _ => by
    rw [exec, pure_bind]
    exact .here
  | nest :: nests, pc, loops, out, outer, hcode, ⟨hnest, hnests⟩ => by
    rw [Nest.code] at hcode
    rw [length_code_cons, ← Nat.add_assoc, exec, bind_assoc]
    exact .trans (simulates_nest nest loops out outer hcode.left hnest)
      fun out => simulates_nests nests loops out outer hcode.right hnests

/-- Choosing a branch and running it has the effect of trying the branches one after the other. -/
theorem follows_arms :
    (arms : List Arm) → {pc last : Nat} → (loops : List Lap) → (out : Query Value) →
      (outer : List (Query Value)) → CodeAt code pc (armCode arms ++ [.endIf]) →
      LinkedArms jumps pc last arms → pc + (armCode arms).length = last →
      Follows scope code jumps
        (scope.choose code jumps pc >>= fun arm => pure ⟨arm + 1, loops, out :: outer⟩)
        (execArms scope arms out >>= fun out => pure (.inl ⟨last + 1, loops, out :: outer⟩))
  | [], pc, last, loops, out, outer, hcode, _, hlast => by
    obtain rfl : pc = last := hlast
    rw [choose_last (.inr hcode.head), pure_bind, execArms, pure_bind]
    exact .of_simulates .here
  | .mk none body :: arms, pc, last, loops, out, outer, hcode, ⟨_, _, hbody, harms⟩, hlast => by
    rw [length_armCode_cons] at hlast
    rw [armCode, List.cons_append, List.append_assoc] at hcode
    rw [choose_last (.inl hcode.head), pure_bind, execArms]
    exact .of_simulates (.trans (simulates_nests body loops out outer hcode.tail.left hbody)
      fun out => simulates_leave arms hcode.tail.right harms (by omega))
  | .mk (some condition) body :: arms, pc, last, loops, out, outer, hcode,
      ⟨hnext, _, hbody, harms⟩, hlast => by
    rw [length_armCode_cons] at hlast
    rw [armCode, List.cons_append, List.append_assoc] at hcode
    have hlen := hcode.tail.right.right.lt_length
    rw [choose_eq (.inr hcode.head) (by omega) (by omega), execArms, bind_assoc, bind_assoc]
    refine .bind fun taken => ?_
    cases taken with
    | true =>
      simp only [if_true, pure_bind]
      exact .of_simulates (.trans (simulates_nests body loops out outer hcode.tail.left hbody)
        fun out => simulates_leave arms hcode.tail.right harms (by omega))
    | false =>
      simp only [Bool.false_eq_true, if_false]
      rw [hnext]
      exact follows_arms arms loops out outer hcode.tail.right harms (by omega)

end

/-! ## Runs -/

namespace Machine

theorem turns_of_inl {m' : Machine} {s s' : σ} (h : m.turn scope code jumps s = .ok (.inl m') s')
    (n : Nat) : m.turns scope code jumps (n + 1) s = m'.turns scope code jumps n s' := by
  rw [turns, bind_ok h]

theorem turns_of_inr {out : Query Value} {s s' : σ}
    (h : m.turn scope code jumps s = .ok (.inr out) s') (n : Nat) :
    m.turns scope code jumps (n + 1) s = .ok (.inr out) s' := by
  rw [turns, bind_ok h]
  rfl

theorem turns_of_error {e : RenderError} {s s' : σ} (h : m.turn scope code jumps s = .error e s')
    (n : Nat) : m.turns scope code jumps (n + 1) s = .error e s' := by
  rw [turns, bind_error h]

end Machine

/-- After any number of turns the machine is under way and safe, or has come to its result; and it
    does come to it. -/
theorem turns_of_passes {s : σ} {r : EStateM.Result RenderError σ (Machine ⊕ Query Value)}
    (h : Passes scope code jumps m s r) (hr : ∀ m' s', r ≠ .ok (.inl m') s') :
    (∀ n, (∃ m' s', m.turns scope code jumps n s = .ok (.inl m') s' ∧ m'.Safe scope code jumps) ∨
      m.turns scope code jumps n s = r) ∧ ∃ n, m.turns scope code jumps n s = r := by
  induction h with
  | here => exact absurd rfl (hr _ _)
  | turn hsafe hturn _ ih =>
    obtain ⟨hway, n, hend⟩ := ih hr
    refine ⟨fun n => ?_, n + 1, (Machine.turns_of_inl hturn n).trans hend⟩
    cases n with
    | zero => exact .inl ⟨_, _, rfl, hsafe⟩
    | succ n =>
      rw [Machine.turns_of_inl hturn]
      exact hway n
  | done hsafe hturn =>
    refine ⟨fun n => ?_, 1, Machine.turns_of_inr hturn 0⟩
    cases n with
    | zero => exact .inl ⟨_, _, rfl, hsafe⟩
    | succ n => exact .inr (Machine.turns_of_inr hturn n)
  | fail hsafe hturn =>
    refine ⟨fun n => ?_, 1, Machine.turns_of_error hturn 0⟩
    cases n with
    | zero => exact .inl ⟨_, _, rfl, hsafe⟩
    | succ n => exact .inr (Machine.turns_of_error hturn n)

end Simulations

/-- On code with a jump table, the machine goes through safe turns to the result of rendering. -/
theorem simulates_render (scope : Scope σ) {p : Program} {jumps : Jumps}
    (h : Jumps.ofCode p.code = .ok jumps) :
    Simulates scope p.code jumps {} (p.render scope >>= fun out => pure (.inr out)) := by
  obtain ⟨instrs, capacity⟩ := p
  obtain ⟨nests, rfl, hlinked⟩ := exists_nests_of_ofCode h
  have hcode : CodeAt (Nest.code nests) 0 (Nest.code nests) := List.prefix_refl _
  rw [render_code]
  refine .trans (simulates_nests nests [] {} [] hcode hlinked) fun out s => ?_
  have hend : (Nest.code nests)[0 + (Nest.code nests).length]? = none := by simp
  refine .done ⟨List.cons_ne_nil _ _, ?_⟩ ?_
  · simp only [hend]
    exact ⟨Nat.zero_add _, trivial, out, rfl⟩
  · rw [Machine.turn, hend]
    rfl

/-! ## Malformed programs -/

namespace Rendering

/-- The computation never fails as malformed. -/
def NeverMalformed {α : Type} (x : Rendering σ α) : Prop :=
  ∀ s pc s', x s ≠ .error (.malformedProgram pc) s'

theorem NeverMalformed.leads {α : Type} {x : Rendering σ α} (h : NeverMalformed x) :
    Leads (fun _ => True) (fun _ => True) (fun e _ => ∀ pc, e ≠ .malformedProgram pc) x := by
  intro s _
  cases hx : x s with
  | ok a s' => trivial
  | error e s' =>
    rintro pc rfl
    exact h s pc s' hx

end Rendering

/-- No call of the scope fails as malformed. -/
structure Scope.NeverMalformed (scope : Scope σ) : Prop where
  condition (condition : String) : Rendering.NeverMalformed (scope.condition condition)
  enterLoop (header : String) : Rendering.NeverMalformed (scope.enterLoop header)
  iteration (header : String) (index : Nat) :
    Rendering.NeverMalformed (scope.iteration header index)
  value (expr : String) : Rendering.NeverMalformed (scope.value expr)

theorem Scope.NeverMalformed.levels {scope : Scope σ} (h : scope.NeverMalformed) :
    scope.Levels (fun _ _ => True) fun e _ => ∀ pc, e ≠ .malformedProgram pc where
  condition condition _ := (h.condition condition).leads
  enterLoop header _ := (h.enterLoop header).leads
  iteration header index _ := (h.iteration header index).leads
  exitLoop _ _ _ _ := trivial
  value expr _ := (h.value expr).leads

/-- Of code with a jump table, whatever instructions it has, and with a scope that does not fail as
    malformed itself, rendering never fails as malformed. The machine that goes from place to place
    comes to the same result after some number of turns; and before that, all that its turns rely
    on holds, so that none of its checks fails either. -/
theorem render_never_malformed (scope : Scope σ) (hscope : scope.NeverMalformed) (p : Program)
    (jumps : Jumps) (hjumps : Jumps.ofCode p.code = .ok jumps) :
    Rendering.NeverMalformed (p.render scope) ∧
      ∀ s,
        let result := (p.render scope >>= fun out => pure (.inr out)) s
        (∀ n, (∃ m s', Machine.turns scope p.code jumps n {} s = .ok (.inl m) s' ∧
            m.Safe scope p.code jumps) ∨
          Machine.turns scope p.code jumps n {} s = result) ∧
        ∃ n, Machine.turns scope p.code jumps n {} s = result := by
  refine ⟨fun s pc s' herror => ?_, fun s => ?_⟩
  · have hlevels := hscope.levels.render hjumps 0 s trivial
    rw [herror] at hlevels
    exact hlevels pc rfl
  · refine turns_of_passes (simulates_render scope hjumps s) fun m s' hresult => ?_
    -- Rendering ends with a query, not with a machine under way.
    cases hrender : p.render scope s with
    | ok out s₁ => cases (bind_ok hrender).symm.trans hresult
    | error e s₁ => cases (bind_error hrender).symm.trans hresult

/-- A loop around a conditional whose branch without a condition comes before one with a condition,
    and a clause that is closed as one of another kind. -/
theorem render_never_malformed_arms :
    let scope : Scope Nat :=
      { condition := fun _ => do return (← get) % 2 = 0
        enterLoop := fun _ => pure 3
        iteration := fun _ _ => modify (· + 1)
        exitLoop := fun _ s => s
        value := fun expr => throw (.unknownVariable expr) }
    let p : Program :=
      { code := [.beginClause .conditions, .beginLoop "x in xs", .beginIf "a", .literal "a = 1",
          .otherwise, .literal "or ", .elseIf "b", .bind [.value "b"], .endIf, .endLoop,
          .endClause .assignments]
        capacity := 0 }
    ∃ jumps, Jumps.ofCode p.code = .ok jumps ∧ Rendering.NeverMalformed (p.render scope) ∧
      ∃ n, Machine.turns scope p.code jumps n {} 0 =
        (p.render scope >>= fun out => pure (.inr out)) 0 := by
  intro scope p
  have hscope : scope.NeverMalformed :=
    ⟨fun _ _ _ _ => nofun, fun _ _ _ _ => nofun, fun _ _ _ _ _ => nofun, fun _ _ _ _ => nofun⟩
  have hok : (Jumps.ofCode p.code).isOk = true := by decide
  cases hjumps : Jumps.ofCode p.code with
  | error pc =>
    rw [hjumps] at hok
    cases hok
  | ok jumps =>
    obtain ⟨hnever, hturns⟩ := render_never_malformed scope hscope p jumps hjumps
    exact ⟨jumps, rfl, hnever, (hturns 0).2⟩

end QueryTemplate
