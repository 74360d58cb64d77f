/-!
# Errors of code

Why no code can be made from a program: a text in it is no host expression, or its
instructions do not fit together.

* `CodeError.Cause`: the five causes, each with a description and an advice;
* `CodeError`: a cause with the text that was found;
* `CodeError.message`: the error in words.
-/

namespace QueryTemplate

/-- The causes of errors. -/
inductive CodeError.Cause where
  /-- A condition that is no expression. -/
  | invalidCondition
  /-- A loop header that is none. -/
  | invalidLoopHeader
  /-- A placeholder whose expression is none. -/
  | invalidBindExpression
  /-- A path of the support library that is none. -/
  | invalidRuntimePath
  /-- Instructions that open and close blocks that do not match. -/
  | unbalancedProgram
deriving DecidableEq

namespace CodeError.Cause

/-- A cause in words. -/
def description : Cause → String
  | invalidCondition => "invalid condition expression"
  | invalidLoopHeader => "invalid loop header"
  | invalidBindExpression => "invalid placeholder expression"
  | invalidRuntimePath => "invalid runtime path"
  | unbalancedProgram => "unbalanced block instructions (this is a bug)"

/-- How the error is mended. -/
def suggestion? : Cause → Option String
  | invalidCondition => some "write the condition as a Rust boolean expression"
  | invalidLoopHeader => some "write the header as `item in items`"
  | invalidBindExpression => some "use a path such as @user.name"
  | invalidRuntimePath => some "use a path such as ::sqltmpl"
  | unbalancedProgram => none

end CodeError.Cause

/-- Why no code can be made. -/
structure CodeError where
  /-- The cause. -/
  cause : CodeError.Cause
  /-- The text that was found. -/
  found : Option String := none
  /-- What is wrong with it. -/
  detail : Option String := none
deriving DecidableEq

namespace CodeError

/-- The error of a text that cannot be read, with what is wrong with it. -/
def unreadable (cause : Cause) (found detail : String) : CodeError :=
  { cause := cause, found := some found, detail := some detail }

/-- The error in words. -/
def message (e : CodeError) : String :=
  e.cause.description ++
    (e.found.map fun found => " `" ++ found ++ "`").getD "" ++
    (e.detail.map fun detail => ": " ++ detail).getD "" ++
    (e.cause.suggestion?.map fun help => " (help: " ++ help ++ ")").getD ""

end CodeError

end QueryTemplate
