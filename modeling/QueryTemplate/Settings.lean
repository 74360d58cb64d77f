/-!
# Settings

What can be chosen about the code that is made from a template: the names of its
variables, how often a loop is taken to run, and where the support library is
found.
-/

namespace QueryTemplate

/-- The choices for the code made from a template. -/
structure Settings where
  /-- The variable that collects the SQL. -/
  bufferVar : String := "sb"
  /-- The variable that collects the parameters. -/
  paramsVar : String := "params"
  /-- The variable that collects a clause. -/
  scratchVar : String := "tmp"
  /-- How often a loop is taken to run. -/
  loopMultiplier : Nat := 4
  /-- The path of the support library. -/
  runtimePath : String := "::sqltmpl"

/-- The variables that collect SQL and parameters. -/
structure Sink where
  /-- The variable for the SQL. -/
  buffer : String := ""
  /-- The variable for the parameters. -/
  params : String := ""
deriving DecidableEq

namespace Settings

/-- The variables that collect a query. -/
def root (s : Settings) : Sink :=
  { buffer := s.bufferVar, params := s.paramsVar }

/-- The variables that collect a clause `depth` clauses deep. -/
def scratch (s : Settings) (depth : Nat) : Sink :=
  let suffix := if depth ≤ 1 then "" else toString depth
  { buffer := s.scratchVar ++ suffix, params := s.scratchVar ++ "Params" ++ suffix }

end Settings

end QueryTemplate
