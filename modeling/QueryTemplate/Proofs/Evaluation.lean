import QueryTemplate.Proofs.Execution
import QueryTemplate.Proofs.Recording
import QueryTemplate.Settings

/-!
# Evaluating template trees

A template tree can be made into a query directly, by going through its nodes. The
program of the tree does the same: rendering it gives the query that evaluating
the tree gives, or fails as that does, asks the scope the same questions in the
same order, and leaves it in the same state.

* `Node.eval`: the query of a tree;
* `Node.Proper`: every conditional of a tree has a branch;
* `Node.nests`: the nested code of a tree, whose flat writing is the program
  (`code_nests`) and whose effect is the value of the tree (`exec_nests`);
* `render_eq_eval`: rendering the program of a tree is evaluating the tree.
-/

namespace QueryTemplate

variable {σ : Type}

namespace Node

mutual

/-- Adds a node to the query so far. -/
def evalOf (scope : Scope σ) : Node → Query Value → Rendering σ (Query Value)
  | text fragment, out => do
    let values ← fragment.binds.mapM fun bind =>
      match bind with
      | .table => pure .table
      | .raw expr => Value.toRaw <$> scope.value expr
      | .value expr => scope.value expr
    return { sql := out.sql ++ unescape fragment.sql, params := out.params ++ values }
  | clause kind body, out => do
    let clause ← eval scope body {}
    return out.addClause kind clause
  | loop header body, out => do
    let count ← scope.enterLoop header
    let out ← (List.range count).foldlM (fun out i => do
      scope.iteration header i
      eval scope body out) out
    modify (scope.exitLoop header)
    return out
  | cond branches none, out => evalBranches scope branches out (pure out)
  | cond branches (some body), out => evalBranches scope branches out (eval scope body out)

/-- Adds nodes to the query so far, one after the other. -/
def eval (scope : Scope σ) : List Node → Query Value → Rendering σ (Query Value)
  | [], out => pure out
  | node :: nodes, out => do
    let out ← evalOf scope node out
    eval scope nodes out

/-- Adds the first branch whose condition holds to the query so far; if there is
    none, the outcome is `otherwise`. -/
def evalBranches (scope : Scope σ) :
    List Branch → Query Value → Rendering σ (Query Value) → Rendering σ (Query Value)
  | [], _, otherwise => otherwise
  | .mk condition body :: branches, out, otherwise => do
    if ← scope.condition condition then eval scope body out
    else evalBranches scope branches out otherwise

end

mutual

/-- Every conditional at or below a node has a branch. -/
def ProperOf : Node → Prop
  | text _ => True
  | clause _ body => Proper body
  | loop _ body => Proper body
  | cond branches none => branches ≠ [] ∧ ProperBranches branches
  | cond branches (some body) => branches ≠ [] ∧ ProperBranches branches ∧ Proper body

/-- Every conditional among nodes or below them has a branch. -/
def Proper : List Node → Prop
  | [] => True
  | node :: nodes => ProperOf node ∧ Proper nodes

/-- Every conditional below branches has a branch. -/
def ProperBranches : List Branch → Prop
  | [] => True
  | .mk _ body :: branches => Proper body ∧ ProperBranches branches

end

/-! ## Nested code of trees -/

mutual

/-- The nested code of a node. -/
def nestsOf : Node → List Nest
  | text fragment =>
    .literal (unescape fragment.sql) ::
      if fragment.binds.isEmpty then [] else [.bind fragment.binds]
  | clause kind body => [.clause kind (nests body) kind]
  | loop header body => [.loop header (nests body)]
  | cond [] _ => []
  | cond (.mk condition body :: branches) none => [.cond condition (nests body) (arms branches)]
  | cond (.mk condition body :: branches) (some last) =>
    [.cond condition (nests body)
      (arms branches ++ if last.isEmpty then [] else [.mk none (nests last)])]

/-- The nested code of nodes. -/
def nests : List Node → List Nest
  | [] => []
  | node :: nodes => nestsOf node ++ nests nodes

/-- The nested code of branches after the first. -/
def arms : List Branch → List Arm
  | [] => []
  | .mk condition body :: branches => .mk (some condition) (nests body) :: arms branches

end

end Node

open Node

theorem armCode_append (arms more : List Arm) :
    Nest.armCode (arms ++ more) = Nest.armCode arms ++ Nest.armCode more := by
  induction arms with
  | nil => rfl
  | cons arm arms ih =>
    obtain ⟨condition, body⟩ := arm
    rw [List.cons_append, Nest.armCode, Nest.armCode, ih, List.cons_append, List.append_assoc]

mutual

theorem code_nestsOf : (node : Node) → ProperOf node → Instr.ofNode node = Nest.code (nestsOf node)
  | .text fragment, _ => by
    rw [Instr.ofNode, nestsOf]
    by_cases hbinds : fragment.binds.isEmpty
    · rw [if_pos hbinds, if_pos hbinds]
      rfl
    · rw [if_neg hbinds, if_neg hbinds]
      rfl
  | .clause kind body, h => by
    rw [ProperOf] at h
    rw [Instr.ofNode, nestsOf, code_nests body h, Nest.code, Nest.codeOf, Nest.code,
      List.append_nil]
  | .loop header body, h => by
    rw [ProperOf] at h
    rw [Instr.ofNode, nestsOf, code_nests body h, Nest.code, Nest.codeOf, Nest.code,
      List.append_nil]
  | .cond [] none, h => absurd rfl h.1
  | .cond [] (some _), h => absurd rfl h.1
  | .cond (.mk condition body :: branches) none, ⟨_, hbody, hbranches⟩ => by
    rw [Instr.ofNode, nestsOf, Instr.ofBranches, code_nests body hbody,
      armCode_arms branches hbranches, Nest.code, Nest.codeOf, Nest.code, List.append_nil,
      if_pos rfl, List.cons_append, List.append_assoc]
  | .cond (.mk condition body :: branches) (some last), ⟨_, ⟨hbody, hbranches⟩, hlast⟩ => by
    have hcode : (if last.isEmpty then [] else Instr.otherwise :: Instr.ofNodes last) =
        Nest.armCode (if last.isEmpty then [] else [.mk none (nests last)]) := by
      split
      · rfl
      · rw [code_nests last hlast, Nest.armCode, Nest.armCode, List.append_nil]
        rfl
    rw [Instr.ofNode, nestsOf, Instr.ofBranches, code_nests body hbody,
      armCode_arms branches hbranches, hcode, Nest.code, Nest.codeOf, Nest.code, List.append_nil,
      if_pos rfl, List.cons_append, List.append_assoc, armCode_append, List.append_assoc]

/-- The instructions of a tree are its nested code. -/
theorem code_nests :
    (nodes : List Node) → Proper nodes → Instr.ofNodes nodes = Nest.code (nests nodes)
  | [], _ => rfl
  | node :: nodes, ⟨hnode, hnodes⟩ => by
    rw [Instr.ofNodes, nests, Nest.code_append, code_nestsOf node hnode, code_nests nodes hnodes]

theorem armCode_arms :
    (branches : List Branch) → ProperBranches branches →
      Instr.ofBranches false branches = Nest.armCode (arms branches)
  | [], _ => rfl
  | .mk condition body :: branches, ⟨hbody, hbranches⟩ => by
    rw [Instr.ofBranches, arms, Nest.armCode, code_nests body hbody,
      armCode_arms branches hbranches]
    rfl

end

/-! ## The effect of the nested code -/

variable {scope : Scope σ}

theorem Node.evalOf_text (fragment : Fragment) (out : Query Value) :
    evalOf scope (.text fragment) out = (do
      let values ← fragment.binds.mapM scope.param
      return { sql := out.sql ++ unescape fragment.sql, params := out.params ++ values }) := by
  rw [evalOf]
  rfl

theorem params_eq_mapM (binds : List Bind) : scope.params binds = binds.mapM scope.param := by
  induction binds with
  | nil => rfl
  | cons bind binds ih => rw [Scope.params, List.mapM_cons, ih]

theorem iterate_eq_foldlM (header : String) (body : Query Value → Rendering σ (Query Value))
    (count index : Nat) (out : Query Value) :
    scope.iterate header body count index out =
      (List.range' index count).foldlM (fun out i => do
        scope.iteration header i
        body out) out := by
  induction count generalizing index out with
  | zero => rfl
  | succ count ih =>
    rw [Scope.iterate, List.range'_succ, List.foldlM_cons, bind_assoc]
    simp only [ih]

theorem exec_append (nests more : List Nest) (out : Query Value) :
    Nest.exec scope (nests ++ more) out = Nest.exec scope nests out >>= Nest.exec scope more := by
  induction nests generalizing out with
  | nil => rw [List.nil_append, Nest.exec, pure_bind]
  | cons nest nests ih =>
    rw [List.cons_append, Nest.exec, Nest.exec, bind_assoc]
    simp only [ih]

theorem exec_singleton (nest : Nest) (out : Query Value) :
    Nest.exec scope [nest] out = Nest.execOf scope nest out := by
  rw [Nest.exec]
  simp only [Nest.exec, bind_pure]

mutual

theorem exec_nestsOf :
    (node : Node) → ProperOf node → (out : Query Value) →
      Nest.exec scope (nestsOf node) out = evalOf scope node out
  | .text fragment, _, out => by
    rw [nestsOf, evalOf_text, Nest.exec, Nest.execOf, pure_bind]
    -- A text without placeholders has no instruction for them.
    by_cases hbinds : fragment.binds = []
    · simp only [hbinds, List.isEmpty_nil, if_true, Nest.exec, List.mapM_nil, pure_bind,
        List.append_nil]
      rfl
    · rw [if_neg (by rwa [List.isEmpty_iff]), exec_singleton, Nest.execOf, params_eq_mapM]
      rfl
  | .clause kind body, h, out => by
    rw [nestsOf, exec_singleton, Nest.execOf, evalOf, exec_nests body h]
  | .loop header body, h, out => by
    rw [nestsOf, exec_singleton, Nest.execOf, evalOf]
    simp only [exec_nests body h, iterate_eq_foldlM, List.range_eq_range']
  | .cond [] none, h, _ => absurd rfl h.1
  | .cond [] (some _), h, _ => absurd rfl h.1
  | .cond (.mk condition body :: branches) none, ⟨_, hbody, hbranches⟩, out => by
    have harms := execArms_arms branches hbranches [] out
    rw [List.append_nil] at harms
    rw [nestsOf, exec_singleton, Nest.execOf, evalOf, evalBranches, exec_nests body hbody, harms]
    rfl
  | .cond (.mk condition body :: branches) (some last), ⟨_, ⟨hbody, hbranches⟩, hlast⟩, out => by
    -- An empty last branch has no code; taking it or none is the same.
    have helse : Nest.execArms scope (if last.isEmpty then [] else [.mk none (nests last)]) out =
        eval scope last out := by
      cases last with
      | nil => rfl
      | cons node last =>
        rw [if_neg (by simp), Nest.execArms]
        exact exec_nests (node :: last) hlast out
    rw [nestsOf, exec_singleton, Nest.execOf, evalOf, evalBranches, exec_nests body hbody,
      execArms_arms branches hbranches, helse]

/-- The nested code of a tree has the effect of evaluating the tree. -/
theorem exec_nests :
    (nodes : List Node) → Proper nodes → (out : Query Value) →
      Nest.exec scope (nests nodes) out = eval scope nodes out
  | [], _, _ => rfl
  | node :: nodes, ⟨hnode, hnodes⟩, out => by
    rw [nests, exec_append, exec_nestsOf node hnode, eval]
    exact bind_congr fun out => exec_nests nodes hnodes out

theorem execArms_arms :
    (branches : List Branch) → ProperBranches branches → (more : List Arm) → (out : Query Value) →
      Nest.execArms scope (arms branches ++ more) out =
        evalBranches scope branches out (Nest.execArms scope more out)
  | [], _, _, _ => rfl
  | .mk condition body :: branches, ⟨hbody, hbranches⟩, more, out => by
    rw [arms, List.cons_append, Nest.execArms, evalBranches, exec_nests body hbody,
      execArms_arms branches hbranches]

end

/-- The program of a proper tree has the effect of evaluating the tree. -/
theorem render_ofNodes (multiplier : Nat) {nodes : List Node} (h : Proper nodes) :
    (Program.ofNodes multiplier nodes).render scope = eval scope nodes {} := by
  rw [Program.ofNodes, code_nests nodes h, render_code, exec_nests nodes h]

/-- Rendering the program of a tree is evaluating the tree: from every state of the
    scope, it comes to the same query or the same error and to the same state, by
    the same calls with the same answers. -/
theorem render_eq_eval (scope : Scope σ) (settings : Settings) (nodes : List Node)
    (h : Proper nodes) (s : σ) :
    (Program.ofNodes settings.loopMultiplier nodes).render scope s = eval scope nodes {} s ∧
      (Program.ofNodes settings.loopMultiplier nodes).render scope.recorded (s, []) =
        eval scope.recorded nodes {} (s, []) := by
  rw [render_ofNodes settings.loopMultiplier h, render_ofNodes settings.loopMultiplier h]
  exact ⟨rfl, rfl⟩

/-- A clause around a loop around a conditional, whose last branch is empty, for a
    scope that counts the iterations and takes every other branch. -/
theorem render_eq_eval_clause :
    let scope : Scope Nat :=
      { condition := fun _ => do return (← get) % 2 = 1
        enterLoop := fun _ => pure 3
        iteration := fun _ _ => modify (· + 1)
        exitLoop := fun _ s => s + 10
        value := fun expr => pure (.text expr) }
    let nodes : List Node :=
      [.clause .conditions [.loop "x in xs" [.cond
        [.mk "a" [.text ⟨"?.? = ? or ", [.table, .raw "c", .value "x"], 1⟩]] (some [])]]]
    let query : Query Value :=
      { sql := "WHERE ?.? = ? or ?.? = ?"
        params := [.table, .raw "c", .text "x", .table, .raw "c", .text "x"] }
    let values : List Call := [.value "c" (.ok (.text "c")), .value "x" (.ok (.text "x"))]
    let calls : List Call :=
      [.enterLoop "x in xs" (.ok 3)] ++
      [.iteration "x in xs" 0 (.ok ()), .condition "a" (.ok true)] ++ values ++
      [.iteration "x in xs" 1 (.ok ()), .condition "a" (.ok false)] ++
      [.iteration "x in xs" 2 (.ok ()), .condition "a" (.ok true)] ++ values ++
      [.exitLoop "x in xs"]
    Proper nodes ∧ (Program.ofNodes 4 nodes).render scope 0 = .ok query 13 ∧
      (Program.ofNodes 4 nodes).render scope.recorded (0, []) = .ok query (13, calls) := by
  intro scope nodes query values calls
  have h : Proper nodes := by simp [nodes, Proper, ProperOf, ProperBranches]
  have heval : eval scope nodes {} 0 = .ok query 13 := rfl
  have hcalls : eval scope.recorded nodes {} (0, []) = .ok query (13, calls) := rfl
  obtain ⟨hrender, hrecorded⟩ := render_eq_eval scope {} nodes h 0
  exact ⟨h, hrender.trans heval, hrecorded.trans hcalls⟩

end QueryTemplate
