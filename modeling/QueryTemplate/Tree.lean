import QueryTemplate.Placeholder
import QueryTemplate.Clause

/-!
# Template trees

A template read as a tree: texts with their placeholders, and the blocks that
directives open and close.

* `Node`: a text, a clause, a loop or a conditional;
* `Node.binds`: what the placeholders below a list of nodes bind;
* `Node.hasLoop`: whether there is a loop below a list of nodes.
-/

namespace QueryTemplate

/-- A text of a template. -/
structure Fragment where
  /-- Its SQL, with a `?` for every placeholder. -/
  sql : String
  /-- What its placeholders bind, from left to right. -/
  binds : List Bind
  /-- The line that it starts in. -/
  line : Nat
deriving DecidableEq

mutual

/-- A node of a template tree. -/
inductive Node where
  /-- A text. -/
  | text (fragment : Fragment)
  /-- A clause with its parts. -/
  | clause (kind : ClauseKind) (body : List Node)
  /-- A loop with its body. -/
  | loop (header : String) (body : List Node)
  /-- A conditional with its branches, and what is taken when none of them is. -/
  | cond (branches : List Branch) (otherwise : Option (List Node))

/-- A branch of a conditional. -/
inductive Branch where
  /-- The branch taken if the condition holds, and none before it does. -/
  | mk (condition : String) (body : List Node)

end

instance : Inhabited Node := ⟨.clause .conditions []⟩

namespace Node

mutual

/-- What the placeholders of a node bind, in the order of the template. -/
def bindsOf : Node → List Bind
  | text fragment => fragment.binds
  | clause _ body => binds body
  | loop _ body => binds body
  | cond branches none => branchBinds branches
  | cond branches (some body) => branchBinds branches ++ binds body

/-- What the placeholders of nodes bind, in the order of the template. -/
def binds : List Node → List Bind
  | [] => []
  | node :: nodes => node.bindsOf ++ binds nodes

/-- What the placeholders of branches bind, in the order of the template. -/
def branchBinds : List Branch → List Bind
  | [] => []
  | .mk _ body :: branches => binds body ++ branchBinds branches

end

mutual

/-- Whether a node is a loop or has one below it. -/
def hasLoopOf : Node → Bool
  | text _ => false
  | clause _ body => hasLoop body
  | loop _ _ => true
  | cond branches none => branchHasLoop branches
  | cond branches (some body) => branchHasLoop branches || hasLoop body

/-- Whether there is a loop among nodes or below them. -/
def hasLoop : List Node → Bool
  | [] => false
  | node :: nodes => node.hasLoopOf || hasLoop nodes

/-- Whether there is a loop below branches. -/
def branchHasLoop : List Branch → Bool
  | [] => false
  | .mk _ body :: branches => hasLoop body || branchHasLoop branches

end

end Node

end QueryTemplate
