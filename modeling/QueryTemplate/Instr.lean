import QueryTemplate.Tree

/-!
# Instructions

A template tree flattened into a list of instructions: blocks become pairs of
instructions that open and close them, with the conditions of the branches of a
conditional in between.

* `Instr`: the instructions;
* `Instr.ofNodes`: the instructions of a list of nodes.
-/

namespace QueryTemplate

/-- An instruction. -/
inductive Instr where
  /-- Writes SQL. -/
  | literal (sql : String)
  /-- Adds parameters. -/
  | bind (binds : List Bind)
  /-- Opens a conditional, with the condition of its first branch. -/
  | beginIf (condition : String)
  /-- Starts the next branch of a conditional. -/
  | elseIf (condition : String)
  /-- Starts the branch that needs no condition. -/
  | otherwise
  /-- Closes a conditional. -/
  | endIf
  /-- Opens a loop. -/
  | beginLoop (header : String)
  /-- Closes a loop. -/
  | endLoop
  /-- Opens a clause. -/
  | beginClause (kind : ClauseKind)
  /-- Closes a clause. -/
  | endClause (kind : ClauseKind)
deriving DecidableEq

namespace Instr

mutual

/-- The instructions of a node. -/
def ofNode : Node → List Instr
  | .text fragment =>
    literal (unescape fragment.sql) ::
      if fragment.binds.isEmpty then [] else [bind fragment.binds]
  | .clause kind body => beginClause kind :: (ofNodes body ++ [endClause kind])
  | .loop header body => beginLoop header :: (ofNodes body ++ [endLoop])
  | .cond branches none => ofBranches true branches ++ [endIf]
  | .cond branches (some body) =>
    ofBranches true branches ++
      ((if body.isEmpty then [] else otherwise :: ofNodes body) ++ [endIf])

/-- The instructions of nodes. -/
def ofNodes : List Node → List Instr
  | [] => []
  | node :: nodes => ofNode node ++ ofNodes nodes

/-- The instructions of the branches of a conditional; `first` says that none
    comes before them. -/
def ofBranches (first : Bool) : List Branch → List Instr
  | [] => []
  | .mk condition body :: branches =>
    (if first then beginIf condition else elseIf condition) ::
      (ofNodes body ++ ofBranches false branches)

end

end Instr

end QueryTemplate
