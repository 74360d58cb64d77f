import QueryTemplate.Instr

/-!
# Programs

The instructions of a template, with an estimate of how many parameters a query
made from it will have. The estimate counts each placeholder once, or a fixed
number of times for each loop around it, and stops at the largest word.

* `Program`: instructions with the estimate;
* `Capacity.ofNodes`: the estimate for a list of nodes;
* `Program.ofNodes`: the program of a template tree.
-/

namespace QueryTemplate

namespace Capacity

/-- The largest estimate: all of the sixty-four bits of a word are set. -/
def limit : Nat := 0xFFFFFFFFFFFFFFFF

/-- The sum of two estimates. -/
def add (a b : Nat) : Nat :=
  min (a + b) limit

/-- The product of two estimates. -/
def mul (a b : Nat) : Nat :=
  min (a * b) limit

mutual

/-- The estimate for a node whose placeholders count `weight` times each. -/
def ofNode (multiplier weight : Nat) : Node → Nat
  | .text fragment => mul fragment.binds.length weight
  | .clause _ body => ofNodes multiplier weight body
  | .loop _ body => ofNodes multiplier (mul weight multiplier) body
  | .cond branches none => ofBranches multiplier weight branches
  | .cond branches (some body) =>
    add (ofBranches multiplier weight branches) (ofNodes multiplier weight body)

/-- The estimate for nodes. -/
def ofNodes (multiplier weight : Nat) : List Node → Nat
  | [] => 0
  | node :: nodes => add (ofNode multiplier weight node) (ofNodes multiplier weight nodes)

/-- The estimate for branches. -/
def ofBranches (multiplier weight : Nat) : List Branch → Nat
  | [] => 0
  | .mk _ body :: branches =>
    add (ofNodes multiplier weight body) (ofBranches multiplier weight branches)

end

end Capacity

/-- The instructions of a template. -/
structure Program where
  /-- The instructions. -/
  code : List Instr
  /-- The estimate of the number of parameters. -/
  capacity : Nat
deriving DecidableEq

namespace Program

/-- What the instructions bind, in their order. -/
def binds (p : Program) : List Bind :=
  p.code.flatMap fun
    | .bind binds => binds
    | _ => []

/-- Whether a clause of the given kind is opened. -/
def hasClause (p : Program) (kind : ClauseKind) : Bool :=
  p.code.contains (.beginClause kind)

/-- The program of a template tree. A loop is taken to run `multiplier` times, at
    least once. -/
def ofNodes (multiplier : Nat) (nodes : List Node) : Program :=
  { code := Instr.ofNodes nodes
    capacity := Capacity.ofNodes (max multiplier 1) 1 nodes }

end Program

end QueryTemplate
