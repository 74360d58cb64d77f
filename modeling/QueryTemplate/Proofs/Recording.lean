import QueryTemplate.Render

/-!
# Recorded scopes

What a rendering asks of its scope, and what it is answered, can be written down:
a recorded scope answers as the scope it is made from, and keeps the calls in its
state beside the state of that scope. Two computations that are equal for a
recorded scope put the same questions in the same order.

* `Call`: a call of a scope, with the answer;
* `Scope.recorded`: a scope that keeps the calls.
-/

namespace QueryTemplate

/-- A call of a scope, with the answer or the failure. -/
inductive Call where
  /-- Whether a condition holds. -/
  | condition (condition : String) (answer : Except RenderError Bool)
  /-- How often a loop runs. -/
  | enterLoop (header : String) (answer : Except RenderError Nat)
  /-- The start of an iteration. -/
  | iteration (header : String) (index : Nat) (answer : Except RenderError Unit)
  /-- The end of a loop. -/
  | exitLoop (header : String)
  /-- The value of an expression. -/
  | value (expr : String) (answer : Except RenderError Value)

variable {σ α : Type}

/-- A computation that adds a call to those made before it, with its own result as
    the answer. -/
def recordAs (call : Except RenderError α → Call) (x : Rendering σ α) :
    Rendering (σ × List Call) α :=
  fun (s, calls) =>
    match x s with
    | .ok a s' => .ok a (s', calls ++ [call (.ok a)])
    | .error e s' => .error e (s', calls ++ [call (.error e)])

/-- A scope that answers as `scope` does and keeps the calls. -/
def Scope.recorded (scope : Scope σ) : Scope (σ × List Call) where
  condition c := recordAs (.condition c) (scope.condition c)
  enterLoop h := recordAs (.enterLoop h) (scope.enterLoop h)
  iteration h i := recordAs (.iteration h i) (scope.iteration h i)
  exitLoop h := fun (s, calls) => (scope.exitLoop h s, calls ++ [.exitLoop h])
  value e := recordAs (.value e) (scope.value e)

end QueryTemplate
