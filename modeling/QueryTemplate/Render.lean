import QueryTemplate.Instr.Jumps
import QueryTemplate.Program
import QueryTemplate.Value

/-!
# Rendering

A program is rendered against a scope, which answers the questions that a query
depends on: whether a condition holds, how often a loop runs, and what the value
of an expression is. The result is SQL with its parameters.

The instructions between two places are run in order; a block within them is run
as a whole, from its own places in the jump table.

* `Scope`: what a program is rendered against;
* `RenderError`: why a program cannot be rendered;
* `run`: runs the instructions between two places;
* `Program.render`: renders a program.
-/

namespace QueryTemplate

/-- Why a program cannot be rendered. -/
inductive RenderError where
  /-- A path that leads to no value. -/
  | unknownVariable (path : String)
  /-- A loop over something that is not a list. -/
  | notIterable (path : String)
  /-- A loop header that the scope does not understand. -/
  | unsupportedLoopHeader (header : String)
  /-- A condition that the scope does not understand. -/
  | unsupportedCondition (condition : String)
  /-- An instruction that does not fit into the blocks around it. -/
  | malformedProgram (pc : Nat)
deriving DecidableEq

/-- The error in words. -/
def RenderError.message : RenderError → String
  | unknownVariable path => "unknown variable `" ++ path ++ "`"
  | notIterable path => "`" ++ path ++ "` is not a list"
  | unsupportedLoopHeader header => "unsupported loop header `" ++ header ++ "`"
  | unsupportedCondition condition =>
    "unsupported condition `" ++ condition ++ "` (register it with `Bindings::when`)"
  | malformedProgram pc => "malformed instruction program at op " ++ toString pc

/-- A computation that may change the state `σ` of a scope and may fail; the state
    is there also when it fails. -/
abbrev Rendering (σ : Type) := EStateM RenderError σ

/-- What a program is rendered against, with a state of type `σ`. -/
structure Scope (σ : Type) where
  /-- Whether a condition holds. -/
  condition : String → Rendering σ Bool
  /-- How often the loop with the given header runs. -/
  enterLoop : String → Rendering σ Nat
  /-- Called before each iteration of a loop, with its index. -/
  iteration : String → Nat → Rendering σ Unit
  /-- Called after the last iteration of a loop. -/
  exitLoop : String → σ → σ
  /-- The value of an expression. -/
  value : String → Rendering σ Value

variable {σ : Type}

namespace Scope

/-- The parameter for what a placeholder binds. -/
def param (scope : Scope σ) : Bind → Rendering σ Value
  | .table => pure .table
  | .raw expr => do return (← scope.value expr).toRaw
  | .value expr => scope.value expr

/-- The parameters for what placeholders bind, one after the other. -/
def params (scope : Scope σ) : List Bind → Rendering σ (List Value)
  | [] => pure []
  | bind :: binds => do
    let value ← scope.param bind
    let values ← scope.params binds
    return value :: values

/-- Runs the body of a loop `count` more times, from the iteration `index` on. -/
def iterate (scope : Scope σ) (header : String)
    (body : Query Value → Rendering σ (Query Value)) :
    (count index : Nat) → Query Value → Rendering σ (Query Value)
  | 0, _, out => pure out
  | count + 1, index, out => do
    scope.iteration header index
    let out ← body out
    scope.iterate header body count (index + 1) out

/-- The branch that is taken of the conditional with a branch at `pc`, if none
    before that is: the first whose condition holds. If there is none, the place
    where the conditional is closed. -/
def choose (scope : Scope σ) (code : List Instr) (jumps : Jumps) (pc : Nat) : Rendering σ Nat :=
  match code[pc]? with
  | some (.beginIf condition) | some (.elseIf condition) => do
    if ← scope.condition condition then return pc
    if pc < jumps.next pc ∧ jumps.next pc < code.length then
      scope.choose code jumps (jumps.next pc)
    else throw (.malformedProgram pc)
  | some .otherwise | some .endIf => pure pc
  | _ => throw (.malformedProgram pc)
termination_by code.length - pc

end Scope

/-- The query with SQL written at its end. -/
def Query.write {α : Type} (query : Query α) (sql : String) : Query α :=
  { query with sql := query.sql ++ sql }

/-- The query with parameters added. -/
def Query.addParams {α : Type} (query : Query α) (params : List α) : Query α :=
  { query with params := query.params ++ params }

/-- Runs the instructions from `pc` up to `stop`. -/
def run (scope : Scope σ) (code : List Instr) (jumps : Jumps) (pc stop : Nat)
    (out : Query Value) : Rendering σ (Query Value) :=
  if pc < stop then
    match code[pc]? with
    | some (.literal sql) => run scope code jumps (pc + 1) stop (out.write sql)
    | some (.bind binds) => do
      let params ← scope.params binds
      run scope code jumps (pc + 1) stop (out.addParams params)
    | some (.beginIf _) => do
      let arm ← scope.choose code jumps pc
      let last := jumps.last pc
      if pc ≤ arm ∧ arm ≤ last ∧ last < stop then
        if arm = last then run scope code jumps (last + 1) stop out
        else if jumps.next arm ≤ last then do
          let out ← run scope code jumps (arm + 1) (jumps.next arm) out
          run scope code jumps (last + 1) stop out
        else throw (.malformedProgram arm)
      else throw (.malformedProgram pc)
    | some (.beginLoop header) =>
      let last := jumps.next pc
      if pc < last ∧ last < stop then do
        let count ← scope.enterLoop header
        let out ←
          scope.iterate header (fun out => run scope code jumps (pc + 1) last out) count 0 out
        modify (scope.exitLoop header)
        run scope code jumps (last + 1) stop out
      else throw (.malformedProgram pc)
    | some (.beginClause _) =>
      let last := jumps.close pc
      if pc < last ∧ last < stop then
        match code[last]? with
        | some (.endClause kind) => do
          let clause ← run scope code jumps (pc + 1) last {}
          run scope code jumps (last + 1) stop (out.addClause kind clause)
        | _ => throw (.malformedProgram last)
      else throw (.malformedProgram pc)
    | _ => throw (.malformedProgram pc)
  else pure out
termination_by stop - pc

/-- Renders a program. Its estimate is not looked at: no room is made for the parameters
    beforehand, and the failure to make it, for an estimate that is too large for any
    memory, is left out. -/
def Program.render (scope : Scope σ) (p : Program) : Rendering σ (Query Value) :=
  match Jumps.ofCode p.code with
  | .ok jumps => run scope p.code jumps 0 p.code.length {}
  | .error pc => throw (.malformedProgram pc)

end QueryTemplate
