import QueryTemplate.Proofs.Balance
import QueryTemplate.Proofs.Relating

/-!
# Loop levels

While a program is rendered, the calls of its scope open and close loops like brackets: the scope
is one level deeper between the start of a loop and its end, and back at the level before when the
loop is done. In between, the iterations that are started are those of this loop, and no more than
it runs. If each call of a scope leads from one level to the next as it should, then so does a whole
rendering: it ends on the level that it starts on, or fails on the way, in a state that a failing
call has left.

* `Rendering.Leads`: which states a computation leads to, also when it fails;
* `Scope.Stacks`: the calls of a scope open and close loops, and `Scope.Stacks.render`: rendering
  ends within the loops that it starts in;
* `Scope.Levels`: the same by the number of loops alone, and `Scope.Levels.render`;
* `Correspondence.Scopes.exec`: rendering with corresponding scopes corresponds, so that a
  rendering that keeps the calls comes to the same end (`render_recorded`).
-/

namespace QueryTemplate

open Nest

variable {σ τ : Type}

/-! ## States that computations lead to -/

namespace Rendering

/-- From a state with `P` the computation leads to one with `Q`, or fails in one with `E`. -/
def Leads {α : Type} (P Q : σ → Prop) (E : RenderError → σ → Prop) (x : Rendering σ α) : Prop :=
  ∀ s, P s →
    match x s with
    | .ok _ s' => Q s'
    | .error e s' => E e s'

/-- From a state with `P` the computation leads to one that has `Q` with its result, or fails in one
    with `E`. -/
def LeadsBy {α : Type} (P : σ → Prop) (Q : α → σ → Prop) (E : RenderError → σ → Prop)
    (x : Rendering σ α) : Prop :=
  ∀ s, P s →
    match x s with
    | .ok a s' => Q a s'
    | .error e s' => E e s'

namespace Leads

variable {α β : Type} {P Q R : σ → Prop} {E : RenderError → σ → Prop} {x : Rendering σ α}
  {f : α → Rendering σ β}

protected theorem pure (a : α) : Leads P P E (pure a : Rendering σ α) :=
  fun _ h => h

/-- What comes next may depend on the result. -/
theorem bind_result {Q : α → σ → Prop} (hx : LeadsBy P Q E x) (hf : ∀ a, Leads (Q a) R E (f a)) :
    Leads P R E (x >>= f) := by
  intro s hs
  have hx := hx s hs
  cases hresult : x s with
  | ok a s' =>
    rw [hresult] at hx
    rw [bind_ok hresult]
    exact hf a s' hx
  | error e s' =>
    rw [hresult] at hx
    rw [bind_error hresult]
    exact hx

protected theorem bind (hx : Leads P Q E x) (hf : ∀ a, Leads Q R E (f a)) :
    Leads P R E (x >>= f) :=
  bind_result hx hf

protected theorem ite {taken : Rendering σ Bool} {y : Rendering σ α} (htaken : Leads P Q E taken)
    (hx : Leads Q R E x) (hy : Leads Q R E y) : Leads P R E (do if ← taken then x else y) := by
  refine htaken.bind fun b => ?_
  cases b with
  | true => exact hx
  | false => exact hy

end Leads

end Rendering

open Rendering

/-- A loop that is being rendered. -/
structure OpenLoop where
  /-- Its header. -/
  header : String
  /-- How often it runs. -/
  count : Nat

/-- The calls of a scope open and close loops, where `I loops` holds of the states within `loops`,
    the innermost first, and fail in states with `E`. An iteration is started only of the innermost
    loop, and only if there are that many. -/
structure Scope.Stacks (scope : Scope σ) (I : List OpenLoop → σ → Prop)
    (E : RenderError → σ → Prop) : Prop where
  condition (condition : String) (loops : List OpenLoop) :
    Leads (I loops) (I loops) E (scope.condition condition)
  enterLoop (header : String) (loops : List OpenLoop) :
    LeadsBy (I loops) (fun count => I (⟨header, count⟩ :: loops)) E (scope.enterLoop header)
  iteration {loop : OpenLoop} {i : Nat} (loops : List OpenLoop) : i < loop.count →
    Leads (I (loop :: loops)) (I (loop :: loops)) E (scope.iteration loop.header i)
  exitLoop (loop : OpenLoop) (loops : List OpenLoop) {s : σ} : I (loop :: loops) s →
    I loops (scope.exitLoop loop.header s)
  value (expr : String) (loops : List OpenLoop) : Leads (I loops) (I loops) E (scope.value expr)

namespace Scope.Stacks

variable {scope : Scope σ} {I : List OpenLoop → σ → Prop} {E : RenderError → σ → Prop}

theorem param (h : scope.Stacks I E) (loops : List OpenLoop) (b : Bind) :
    Leads (I loops) (I loops) E (scope.param b) := by
  cases b with
  | table => exact .pure _
  | raw expr => exact (h.value expr loops).bind fun value => .pure _
  | value expr => exact h.value expr loops

theorem params (h : scope.Stacks I E) (loops : List OpenLoop) (binds : List Bind) :
    Leads (I loops) (I loops) E (scope.params binds) := by
  induction binds with
  | nil => exact .pure _
  | cons b binds ih => exact (h.param loops b).bind fun value => ih.bind fun values => .pure _

/-- The iterations of a loop that are left stay within it, if its body does. -/
theorem iterate (h : scope.Stacks I E) (loop : OpenLoop) (loops : List OpenLoop)
    {body : Query Value → Rendering σ (Query Value)}
    (hbody : ∀ out, Leads (I (loop :: loops)) (I (loop :: loops)) E (body out)) {count index : Nat}
    (hcount : index + count = loop.count) (out : Query Value) :
    Leads (I (loop :: loops)) (I (loop :: loops)) E
      (scope.iterate loop.header body count index out) := by
  induction count generalizing index out with
  | zero => exact .pure _
  | succ count ih =>
    exact (h.iteration loops (by omega)).bind fun _ => (hbody out).bind fun out =>
      ih (by omega) out

mutual

theorem execOf (h : scope.Stacks I E) :
    (nest : Nest) → (loops : List OpenLoop) → (out : Query Value) →
      Leads (I loops) (I loops) E (Nest.execOf scope nest out)
  | .literal _, _, _ => by
    rw [Nest.execOf]
    exact .pure _
  | .bind binds, loops, _ => by
    rw [Nest.execOf]
    exact (h.params loops binds).bind fun _ => .pure _
  | .cond condition body arms, loops, out => by
    rw [Nest.execOf]
    exact .ite (h.condition condition loops) (exec h body loops out) (execArms h arms loops out)
  | .loop header body, loops, out => by
    rw [Nest.execOf]
    refine .bind_result (h.enterLoop header loops) fun count => ?_
    let loop : OpenLoop := ⟨header, count⟩
    -- Between the ends of the loop, the body is within it.
    refine (h.iterate loop loops (exec h body (loop :: loops)) (Nat.zero_add count) out).bind
      fun out => ?_
    have hexit : Leads (I (loop :: loops)) (I loops) E (modify (scope.exitLoop header)) :=
      fun s hs => h.exitLoop loop loops hs
    exact hexit.bind fun _ => .pure _
  | .clause _ body _, loops, _ => by
    rw [Nest.execOf]
    exact (exec h body loops {}).bind fun _ => .pure _

/-- Nested code ends within the loops that it starts in. -/
theorem exec (h : scope.Stacks I E) :
    (nests : List Nest) → (loops : List OpenLoop) → (out : Query Value) →
      Leads (I loops) (I loops) E (Nest.exec scope nests out)
  | [], _, _ => by
    rw [Nest.exec]
    exact .pure _
  | nest :: nests, loops, out => by
    rw [Nest.exec]
    exact (execOf h nest loops out).bind fun out => exec h nests loops out

theorem execArms (h : scope.Stacks I E) :
    (arms : List Arm) → (loops : List OpenLoop) → (out : Query Value) →
      Leads (I loops) (I loops) E (Nest.execArms scope arms out)
  | [], _, _ => by
    rw [Nest.execArms]
    exact .pure _
  | .mk (some condition) body :: arms, loops, out => by
    rw [Nest.execArms]
    exact .ite (h.condition condition loops) (exec h body loops out) (execArms h arms loops out)
  | .mk none body :: _, loops, out => by
    rw [Nest.execArms]
    exact exec h body loops out

end

end Scope.Stacks

/-- A program with a jump table has the effect of nested code. -/
theorem exists_exec_of_ofCode {p : Program} {jumps : Jumps} (h : Jumps.ofCode p.code = .ok jumps) :
    ∃ nests, ∀ {σ : Type} (scope : Scope σ), p.render scope = exec scope nests {} := by
  obtain ⟨instrs, capacity⟩ := p
  obtain ⟨nests, rfl, -⟩ := exists_nests_of_ofCode h
  exact ⟨nests, fun _ => render_code nests capacity⟩

/-- A rendering ends within the loops that it starts in, if the program has a jump table. -/
theorem Scope.Stacks.render {scope : Scope σ} {I : List OpenLoop → σ → Prop}
    {E : RenderError → σ → Prop} (h : scope.Stacks I E) {p : Program} {jumps : Jumps}
    (hjumps : Jumps.ofCode p.code = .ok jumps) (loops : List OpenLoop) :
    Leads (I loops) (I loops) E (p.render scope) := by
  obtain ⟨nests, hnests⟩ := exists_exec_of_ofCode hjumps
  rw [hnests]
  exact h.exec nests loops {}

/-- The calls of a scope lead from level to level, where `I k` holds of the states `k` loops deep,
    and fail in states with `E`. -/
structure Scope.Levels (scope : Scope σ) (I : Nat → σ → Prop) (E : RenderError → σ → Prop) :
    Prop where
  condition (condition : String) (k : Nat) : Leads (I k) (I k) E (scope.condition condition)
  enterLoop (header : String) (k : Nat) : Leads (I k) (I (k + 1)) E (scope.enterLoop header)
  iteration (header : String) (i k : Nat) :
    Leads (I (k + 1)) (I (k + 1)) E (scope.iteration header i)
  exitLoop (header : String) (k : Nat) {s : σ} : I (k + 1) s → I k (scope.exitLoop header s)
  value (expr : String) (k : Nat) : Leads (I k) (I k) E (scope.value expr)

namespace Scope.Levels

variable {scope : Scope σ} {I : Nat → σ → Prop} {E : RenderError → σ → Prop}

/-- The level is the number of loops. -/
theorem toStacks (h : scope.Levels I E) : scope.Stacks (fun loops => I loops.length) E where
  condition condition loops := h.condition condition loops.length
  enterLoop header loops := h.enterLoop header loops.length
  iteration {loop i} loops _ := h.iteration loop.header i loops.length
  exitLoop loop loops _ := h.exitLoop loop.header loops.length
  value expr loops := h.value expr loops.length

/-- A rendering ends on the level that it starts on, if the program has a jump table. -/
theorem render (h : scope.Levels I E) {p : Program} {jumps : Jumps}
    (hjumps : Jumps.ofCode p.code = .ok jumps) (k : Nat) :
    Leads (I k) (I k) E (p.render scope) := by
  have hrender := h.toStacks.render hjumps (List.replicate k ⟨"", 0⟩)
  rwa [List.length_replicate] at hrender

end Scope.Levels

/-! ## Corresponding scopes -/

namespace Correspondence.Scopes

variable {L : Correspondence σ τ} {scope : Scope σ} {scope' : Scope τ}

theorem params (h : L.Scopes id scope scope') (binds : List Bind) :
    L.rel Eq (scope.params binds) (scope'.params binds) := by
  induction binds with
  | nil => exact L.pure rfl
  | cons b binds ih =>
    refine L.bind (h.param b) ?_
    rintro value _ rfl
    refine L.bind ih ?_
    rintro values _ rfl
    exact L.pure rfl

theorem iterate (h : L.Scopes id scope scope') (header : String)
    {body : Query Value → Rendering σ (Query Value)}
    {body' : Query Value → Rendering τ (Query Value)}
    (hbody : ∀ out, L.rel Eq (body out) (body' out)) (count index : Nat) (out : Query Value) :
    L.rel Eq (scope.iterate header body count index out)
      (scope'.iterate header body' count index out) := by
  induction count generalizing index out with
  | zero => exact L.pure rfl
  | succ count ih =>
    refine L.bind (h.iteration header index) fun _ _ _ => L.bind (hbody out) ?_
    rintro out _ rfl
    exact ih (index + 1) out

mutual

theorem execOf (h : L.Scopes id scope scope') :
    (nest : Nest) → (out : Query Value) →
      L.rel Eq (Nest.execOf scope nest out) (Nest.execOf scope' nest out)
  | .literal _, _ => by
    rw [Nest.execOf, Nest.execOf]
    exact L.pure rfl
  | .bind binds, _ => by
    rw [Nest.execOf, Nest.execOf]
    refine L.bind (h.params binds) ?_
    rintro values _ rfl
    exact L.pure rfl
  | .cond condition body arms, out => by
    rw [Nest.execOf, Nest.execOf]
    exact L.bind (h.condition condition) fun _ _ htaken =>
      L.ite htaken (exec h body out) (execArms h arms out)
  | .loop header body, out => by
    rw [Nest.execOf, Nest.execOf]
    refine L.bind (h.enterLoop header) ?_
    rintro count _ rfl
    refine L.bind (h.iterate header (exec h body) count 0 out) ?_
    rintro out _ rfl
    exact L.bind (h.exitLoop header) fun _ _ _ => L.pure rfl
  | .clause _ body _, _ => by
    rw [Nest.execOf, Nest.execOf]
    refine L.bind (exec h body {}) ?_
    rintro clause _ rfl
    exact L.pure rfl

/-- The effects of nested code with corresponding scopes correspond. -/
theorem exec (h : L.Scopes id scope scope') :
    (nests : List Nest) → (out : Query Value) →
      L.rel Eq (Nest.exec scope nests out) (Nest.exec scope' nests out)
  | [], _ => by
    rw [Nest.exec, Nest.exec]
    exact L.pure rfl
  | nest :: nests, out => by
    rw [Nest.exec, Nest.exec]
    refine L.bind (execOf h nest out) ?_
    rintro out _ rfl
    exact exec h nests out

theorem execArms (h : L.Scopes id scope scope') :
    (arms : List Arm) → (out : Query Value) →
      L.rel Eq (Nest.execArms scope arms out) (Nest.execArms scope' arms out)
  | [], _ => by
    rw [Nest.execArms, Nest.execArms]
    exact L.pure rfl
  | .mk (some condition) body :: arms, out => by
    rw [Nest.execArms, Nest.execArms]
    exact L.bind (h.condition condition) fun _ _ htaken =>
      L.ite htaken (exec h body out) (execArms h arms out)
  | .mk none body :: _, out => by
    rw [Nest.execArms, Nest.execArms]
    exact exec h body out

end

end Correspondence.Scopes

/-- A rendering that keeps the calls comes to the same end as one that does not. -/
theorem render_recorded (scope : Scope σ) (p : Program) (s : σ) :
    ∃ calls, p.render scope.recorded (s, []) =
      match p.render scope s with
      | .ok out s' => .ok out (s', calls)
      | .error e s' => .error e (s', calls) := by
  cases hjumps : Jumps.ofCode p.code with
  | error pc =>
    refine ⟨[], ?_⟩
    rw [render_of_ofCode_error hjumps scope, render_of_ofCode_error hjumps scope.recorded]
  | ok jumps =>
    obtain ⟨nests, hnests⟩ := exists_exec_of_ofCode hjumps
    obtain ⟨calls, hcalls⟩ := (Correspondence.scopes_recorded scope).exec nests {} s []
    refine ⟨calls, ?_⟩
    rw [hnests, hnests]
    cases hresult : exec scope nests {} s with
    | error e s' =>
      rw [hresult] at hcalls
      exact hcalls
    | ok out s' =>
      rw [hresult] at hcalls
      obtain ⟨_, hrecorded, rfl⟩ := hcalls
      exact hrecorded

end QueryTemplate
