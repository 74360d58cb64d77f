import QueryTemplate.Text.Blank
import QueryTemplate.Text.Split
import QueryTemplate.Target.GoSource

/-!
# Go methods

The body of a method that builds a query and then runs it, or adds it to a chain.

* `MethodShape`: what a method does with the query;
* `GoSource.method`: the statements with those that finish the method.
-/

namespace QueryTemplate

/-- What a method does with its query. -/
inductive MethodShape where
  /-- Runs it. -/
  | exec
  /-- Runs it and returns the rows as a value of the given type. -/
  | scan (resultType : String)
  /-- Adds it to a chain as a condition. -/
  | filter
  /-- Adds it to a chain as a selection. -/
  | select
deriving DecidableEq

namespace GoSource

/-- The statements that finish a method. -/
def tail (sink : Sink) : MethodShape → String
  | .exec => "return e.Exec(ctx, " ++ sink.buffer ++ ".String(), " ++ sink.params ++ "...)"
  | .scan resultType =>
    "var result " ++ resultType ++ "\nerr := e.Raw(" ++ sink.buffer ++ ".String(), " ++
      sink.params ++ "...).Scan(ctx, &result)\nreturn result, err"
  | .filter =>
    "e.Where(clause.Expr\x7bSQL: " ++ sink.buffer ++ ".String(), Vars: " ++ sink.params ++
      "\x7d)\n\nreturn e"
  | .select =>
    "e.Select(" ++ sink.buffer ++ ".String(), " ++ sink.params ++ "...)\n\nreturn e"

/-- The package that a method needs besides those of its statements. -/
def needs (shape : MethodShape) (p : Package) : Bool :=
  shape = .filter && p = .clause

/-- The statements with those that finish the method. -/
def method (g : GoSource) (shape : MethodShape) : GoSource :=
  { g with
    body := Text.trimEnd g.body ++ "\n" ++ tail g.sink shape ++ "\n"
    imports := Package.all.filter fun p => g.imports.contains p || needs shape p }

end GoSource

end QueryTemplate
