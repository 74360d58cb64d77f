import QueryTemplate.Proofs.Estimates
import QueryTemplate.Proofs.Levels

/-!
# Estimates that suffice

The estimate of a program counts every placeholder, as if all branches were taken and every loop
ran as often as the multiplier says. A rendering takes one branch of a conditional at most, and
drops the parameters of a clause that nothing is left of. So if no loop runs more often than it is
taken to, however often it is entered, the estimate is enough for the parameters of the query.

That a loop runs no more often than that may be known of the scope, or of the calls of one rendering
alone. What is known of calls is known once they are all made; it is taken back from the end of a
rendering to its start.

* `Rendering.Returns`: what a computation that ends well has started from and results in;
* `Scope.Limits`: a scope that ends well only if its loops have run a limited number of times;
* `Scope.Limits.eval`: the number of parameters that a tree adds;
* `params_le_capacity`: the estimate of a program suffices.
-/

namespace QueryTemplate

open Rendering Capacity

variable {σ : Type}

/-! ## Computations that end well -/

namespace Rendering

/-- If the computation succeeds in a state with `G`, then it has started in one, and its result
    has `R`. -/
def Returns {α : Type} (G : σ → Prop) (R : α → Prop) (x : Rendering σ α) : Prop :=
  ∀ s a s', x s = .ok a s' → G s' → G s ∧ R a

namespace Returns

variable {α β : Type} {G : σ → Prop} {R : α → Prop} {T : β → Prop} {x : Rendering σ α}
  {f : α → Rendering σ β}

protected theorem pure {a : α} (h : R a) : Returns G R (pure a : Rendering σ α) := by
  intro s _ s' hpure hG
  cases hpure
  exact ⟨hG, h⟩

/-- What the second computation returns may depend on the result of the first one, of which more is
    known only when both have ended. -/
protected theorem bind {S : α → β → Prop} (hx : Returns G R x) (hf : ∀ a, Returns G (S a) (f a))
    (h : ∀ a b, R a → S a b → T b) : Returns G T (x >>= f) := by
  intro s b s' hbind hG
  cases hresult : x s with
  | error e s₁ => cases (bind_error hresult).symm.trans hbind
  | ok a s₁ =>
    obtain ⟨hG₁, hb⟩ := hf a s₁ b s' ((bind_ok hresult).symm.trans hbind) hG
    obtain ⟨hG₀, ha⟩ := hx s a s₁ hresult hG₁
    exact ⟨hG₀, h a b ha hb⟩

theorem mono {S : α → Prop} (hx : Returns G R x) (h : ∀ a, R a → S a) : Returns G S x :=
  fun s a s' hresult hG => (hx s a s' hresult hG).imp_right (h a)

end Returns

end Rendering

/-! ## Limited scopes -/

/-- The calls of the scope end in a state with `G` only if they start in one, and no loop runs more
    than `bound` times then. -/
structure Scope.Limits (scope : Scope σ) (bound : Nat) (G : σ → Prop) : Prop where
  condition (condition : String) : Returns G (fun _ => True) (scope.condition condition)
  enterLoop (header : String) : Returns G (· ≤ bound) (scope.enterLoop header)
  iteration (header : String) (i : Nat) : Returns G (fun _ => True) (scope.iteration header i)
  exitLoop (header : String) {s : σ} : G (scope.exitLoop header s) → G s
  value (expr : String) : Returns G (fun _ => True) (scope.value expr)

/-- The second query has at most `n` parameters more than the first one. -/
def Query.Gains {α : Type} (out : Query α) (n : Nat) (out' : Query α) : Prop :=
  out'.params.length ≤ out.params.length + n

theorem Query.length_addClause_le {α : Type} (query : Query α) (kind : ClauseKind)
    (clause : Query α) :
    (query.addClause kind clause).params.length ≤ query.params.length + clause.params.length := by
  rw [addClause, addClause?]
  cases kind.finish clause.sql with
  | none => exact Nat.le_add_right ..
  | some text => exact (List.length_append ..).le

namespace Scope.Limits

variable {scope : Scope σ} {bound : Nat} {G : σ → Prop}

theorem param (h : scope.Limits bound G) (b : Bind) :
    Returns G (fun _ => True) (scope.param b) := by
  cases b with
  | table => exact .pure trivial
  | raw expr => exact (h.value expr).bind (fun _ => .pure trivial) fun _ _ _ h => h
  | value expr => exact h.value expr

theorem mapM_param (h : scope.Limits bound G) (binds : List Bind) :
    Returns G (fun values => values.length = binds.length) (binds.mapM scope.param) := by
  induction binds with
  | nil => exact .pure rfl
  | cons b binds ih =>
    rw [List.mapM_cons]
    refine (h.param b).bind (fun value => ih.bind (T := (·.length = binds.length + 1))
      (fun values => .pure rfl) ?_) fun _ _ _ hvalues => hvalues
    rintro values _ hlength rfl
    exact congrArg (· + 1) hlength

/-- The iterations of a loop add as many times what its body adds. -/
theorem foldlM (h : scope.Limits bound G) (header : String) {n : Nat}
    {body : Query Value → Rendering σ (Query Value)}
    (hbody : ∀ out, Returns G (out.Gains n) (body out)) (l : List Nat) (out : Query Value) :
    Returns G (out.Gains (l.length * n))
      (l.foldlM (fun out i => do
        scope.iteration header i
        body out) out) := by
  induction l generalizing out with
  | nil => exact .pure (Nat.le_add_right ..)
  | cons i l ih =>
    rw [List.foldlM_cons]
    have hiteration : Returns G (out.Gains n) (do
        scope.iteration header i
        body out) :=
      (h.iteration header i).bind (fun _ => hbody out) fun _ _ _ hout => hout
    refine hiteration.bind ih fun out₁ out₂ h₁ h₂ => ?_
    rw [Query.Gains] at h₁ h₂ ⊢
    rw [List.length_cons, Nat.succ_mul]
    omega

end Scope.Limits

/-! ## Texts within one more loop -/

namespace Node

/-- A text with one more loop around it. -/
def deeper (text : Fragment × Nat) : Fragment × Nat :=
  (text.1, text.2 + 1)

mutual

theorem textsOf_succ :
    (depth : Nat) → (node : Node) → textsOf (depth + 1) node = (textsOf depth node).map deeper
  | _, .text _ => rfl
  | depth, .clause _ body => texts_succ depth body
  | depth, .loop _ body => texts_succ (depth + 1) body
  | depth, .cond branches none => branchTexts_succ depth branches
  | depth, .cond branches (some body) => by
    rw [textsOf, textsOf, List.map_append, branchTexts_succ depth branches, texts_succ depth body]

/-- Nodes with one more loop around them have the same texts, each with one more loop. -/
theorem texts_succ :
    (depth : Nat) → (nodes : List Node) → texts (depth + 1) nodes = (texts depth nodes).map deeper
  | _, [] => rfl
  | depth, node :: nodes => by
    rw [texts, texts, List.map_append, textsOf_succ depth node, texts_succ depth nodes]

theorem branchTexts_succ :
    (depth : Nat) → (branches : List Branch) →
      branchTexts (depth + 1) branches = (branchTexts depth branches).map deeper
  | _, [] => rfl
  | depth, .mk _ body :: branches => by
    rw [branchTexts, branchTexts, List.map_append, texts_succ depth body,
      branchTexts_succ depth branches]

end

end Node

theorem Capacity.exact_deeper (multiplier : Nat) (texts : List (Fragment × Nat)) :
    exact multiplier (texts.map Node.deeper) = multiplier * exact multiplier texts := by
  induction texts with
  | nil => rfl
  | cons text texts ih =>
    rw [List.map_cons, exact_cons, exact_cons, ih, Nat.mul_add, Node.deeper, Nat.pow_succ',
      Nat.mul_left_comm]

/-! ## Parameters of trees -/

namespace Scope.Limits

variable {scope : Scope σ} {bound : Nat} {G : σ → Prop}

mutual

theorem evalOf (h : scope.Limits bound G) :
    (node : Node) → (out : Query Value) →
      Returns G (out.Gains (exact bound (Node.textsOf 0 node))) (Node.evalOf scope node out)
  | .text fragment, out => by
    rw [Node.evalOf_text, Node.textsOf]
    refine (h.mapM_param fragment.binds).bind (fun values => .pure rfl) ?_
    rintro values _ hvalues rfl
    simp [Query.Gains, exact, hvalues]
  | .clause kind body, out => by
    rw [Node.evalOf, Node.textsOf]
    refine (eval h body {}).bind (fun clause => .pure rfl) ?_
    rintro clause _ hclause rfl
    have hlength := Query.length_addClause_le out kind clause
    rw [Query.Gains, List.length_nil, Nat.zero_add] at hclause
    exact hlength.trans (Nat.add_le_add_left hclause _)
  | .loop header body, out => by
    rw [Node.evalOf, Node.textsOf, Node.texts_succ, exact_deeper]
    refine (h.enterLoop header).bind (fun count => ?_) (fun _ _ hcount hout => ?_)
      (S := fun count out' => out.Gains (count * exact bound (Node.texts 0 body)) out')
    · have hexit (out' : Query Value) : Returns G (· = out') (do
          modify (scope.exitLoop header)
          return out') := by
        intro s _ s' hresult hG
        cases hresult
        exact ⟨h.exitLoop header hG, rfl⟩
      refine (h.foldlM header (eval h body) (List.range count) out).bind hexit ?_
      rintro out' _ hout' rfl
      rwa [List.length_range] at hout'
    · exact hout.trans (Nat.add_le_add_left (Nat.mul_le_mul_right _ hcount) _)
  | .cond branches none, out => by
    rw [Node.evalOf, Node.textsOf]
    exact evalBranches h branches out (n := 0) (.pure (Nat.le_refl _))
  | .cond branches (some body), out => by
    rw [Node.evalOf, Node.textsOf, exact_append]
    exact evalBranches h branches out (eval h body out)

/-- A tree adds at most as many parameters as its placeholders count, if every loop around them
    runs `bound` times. -/
theorem eval (h : scope.Limits bound G) :
    (nodes : List Node) → (out : Query Value) →
      Returns G (out.Gains (exact bound (Node.texts 0 nodes))) (Node.eval scope nodes out)
  | [], out => by
    rw [Node.eval]
    exact .pure (Nat.le_refl _)
  | node :: nodes, out => by
    rw [Node.eval, Node.texts, exact_append]
    refine (evalOf h node out).bind (eval h nodes) fun out₁ out₂ h₁ h₂ => ?_
    rw [Query.Gains] at h₁ h₂ ⊢
    omega

/-- Branches add at most what they all add together, and what is taken when none of them is. -/
theorem evalBranches (h : scope.Limits bound G) :
    (branches : List Branch) → (out : Query Value) → {n : Nat} →
      {otherwise : Rendering σ (Query Value)} → Returns G (out.Gains n) otherwise →
      Returns G (out.Gains (exact bound (Node.branchTexts 0 branches) + n))
        (Node.evalBranches scope branches out otherwise)
  | [], out, n, _, hotherwise => by
    rw [Node.evalBranches, Node.branchTexts]
    exact hotherwise.mono fun _ h => h.trans (Nat.add_le_add_left (Nat.le_add_left ..) _)
  | .mk condition body :: branches, out, n, _, hotherwise => by
    rw [Node.evalBranches, Node.branchTexts, exact_append]
    refine (h.condition condition).bind (fun taken => ?_) fun _ _ _ hout => hout
    cases taken with
    | true =>
      exact (eval h body out).mono fun _ hout => hout.trans (by omega)
    | false =>
      exact (evalBranches h branches out hotherwise).mono fun _ hout => hout.trans (by omega)

end

/-- The parameters of a rendering that ends well are no more than the estimate, unless that has
    come to its limit. -/
theorem params_le {multiplier : Nat} (h : scope.Limits (max multiplier 1) G) {nodes : List Node}
    (hproper : Node.Proper nodes) {s s' : σ} {out : Query Value}
    (hrender : (Program.ofNodes multiplier nodes).render scope s = .ok out s') (hG : G s') :
    out.params.length ≤ (Program.ofNodes multiplier nodes).capacity ∨
      (Program.ofNodes multiplier nodes).capacity = limit := by
  rw [render_ofNodes multiplier hproper] at hrender
  have hparams := (h.eval nodes {} s out s' hrender hG).2
  rw [Query.Gains, List.length_nil, Nat.zero_add] at hparams
  have hcapacity : (Program.ofNodes multiplier nodes).capacity = _ :=
    ofNodes_eq_cap (max multiplier 1) 0 nodes
  rw [hcapacity, cap]
  omega

end Scope.Limits

/-! ## Known limits -/

theorem Scope.limits_of_forall {scope : Scope σ} {bound : Nat}
    (h : ∀ header s count s', scope.enterLoop header s = .ok count s' → count ≤ bound) :
    scope.Limits bound fun _ => True where
  condition _ _ _ _ _ _ := ⟨trivial, trivial⟩
  enterLoop header s count s' henter _ := ⟨trivial, h header s count s' henter⟩
  iteration _ _ _ _ _ _ _ := ⟨trivial, trivial⟩
  exitLoop _ _ _ := trivial
  value _ _ _ _ _ _ := ⟨trivial, trivial⟩

/-- No loop that the calls have entered runs more than `bound` times. -/
def LoopsWithin (bound : Nat) (calls : List Call) : Prop :=
  ∀ header count, .enterLoop header (.ok count) ∈ calls → count ≤ bound

/-- A call that is kept is among the calls in the end. -/
theorem returns_recordAs {α : Type} {bound : Nat} {R : α → Prop}
    {call : Except RenderError α → Call} (x : Rendering σ α)
    (h : ∀ a, LoopsWithin bound [call (.ok a)] → R a) :
    Returns (fun s => LoopsWithin bound s.2) R (recordAs call x) := by
  rintro ⟨s, calls⟩ a ⟨s', calls'⟩ hrecord hwithin
  rw [recordAs] at hrecord
  cases hx : x s with
  | error e s₁ =>
    simp only [hx] at hrecord
    cases hrecord
  | ok b s₁ =>
    simp only [hx] at hrecord
    cases hrecord
    exact ⟨fun header count hmem => hwithin header count (List.mem_append_left _ hmem),
      h a fun header count hmem => hwithin header count (List.mem_append_right _ hmem)⟩

theorem Scope.limits_recorded (scope : Scope σ) (bound : Nat) :
    scope.recorded.Limits bound fun s => LoopsWithin bound s.2 where
  condition _ := returns_recordAs _ fun _ _ => trivial
  enterLoop header := returns_recordAs _ fun count h => h header count (List.mem_singleton.2 rfl)
  iteration _ _ := returns_recordAs _ fun _ _ => trivial
  exitLoop _ _ h := fun header count hmem => h header count (List.mem_append_left _ hmem)
  value _ := returns_recordAs _ fun _ _ => trivial

/-- The estimate of the program of a tree is enough for the parameters of every query that is
    rendered from it, unless the estimate is the largest word, if no loop runs more often than the
    multiplier says, nor more than once if that is zero. This may be so of every loop that the scope
    is asked for, in whatever state, or of those alone that the rendering has entered. -/
theorem params_le_capacity (scope : Scope σ) (multiplier : Nat) (nodes : List Node)
    (hproper : Node.Proper nodes) (s s' : σ) (out : Query Value)
    (hrender : (Program.ofNodes multiplier nodes).render scope s = .ok out s') :
    let p := Program.ofNodes multiplier nodes
    ((∀ header s count s', scope.enterLoop header s = .ok count s' → count ≤ max multiplier 1) →
      out.params.length ≤ p.capacity ∨ p.capacity = 2 ^ 64 - 1) ∧
    ∃ calls, p.render scope.recorded (s, []) = .ok out (s', calls) ∧
      (LoopsWithin (max multiplier 1) calls →
        out.params.length ≤ p.capacity ∨ p.capacity = 2 ^ 64 - 1) := by
  intro p
  refine ⟨fun h => (Scope.limits_of_forall h).params_le hproper hrender trivial, ?_⟩
  obtain ⟨calls, hcalls⟩ := render_recorded scope p s
  rw [hrender] at hcalls
  exact ⟨calls, hcalls, (scope.limits_recorded _).params_le hproper hcalls⟩

/-- A loop that is entered twice runs once and then twice within another one, and a clause with a
    placeholder comes to nothing. -/
theorem params_le_capacity_nested :
    let scope : Scope Nat :=
      { condition := fun _ => do return (← get) % 2 = 0
        enterLoop := fun _ => do
          modify (· + 1)
          return (← get) % 2 + 1
        iteration := fun _ _ => pure ()
        exitLoop := fun _ s => s
        value := fun expr => pure (.text expr) }
    let nodes : List Node :=
      [.loop "x in xs"
        [.loop "y in x" [.cond [.mk "a" [.text ⟨"?", [.value "y"], 1⟩]] (some [])],
          .clause .conditions [.text ⟨" ", [.value "x"], 2⟩]],
        .text ⟨"?", [.table], 3⟩]
    let p := Program.ofNodes 2 nodes
    Node.Proper nodes ∧ p.capacity = 7 ∧
      (∀ header s count s', scope.enterLoop header s = .ok count s' → count ≤ max 2 1) ∧
      ∃ out s', p.render scope 0 = .ok out s' ∧
        (out.params.length ≤ p.capacity ∨ p.capacity = 2 ^ 64 - 1) := by
  intro scope nodes p
  have hproper : Node.Proper nodes := by
    simp [nodes, Node.Proper, Node.ProperOf, Node.ProperBranches]
  have hloops (header : String) (s count s' : Nat)
      (henter : scope.enterLoop header s = .ok count s') : count ≤ max 2 1 := by
    cases henter
    omega
  have hresult : (match p.render scope 0 with
      | .ok _ _ => true
      | .error _ _ => false) = true := by decide +kernel
  refine ⟨hproper, by decide, hloops, ?_⟩
  cases hrender : p.render scope 0 with
  | error e s' =>
    rw [hrender] at hresult
    cases hresult
  | ok out s' =>
    exact ⟨out, s', rfl, (params_le_capacity scope 2 nodes hproper 0 s' out hrender).1 hloops⟩

end QueryTemplate
