import QueryTemplate.Bindings
import QueryTemplate.DocComment
import QueryTemplate.Report
import QueryTemplate.Target.RustBlock
import QueryTemplate.Tree.Builder

/-!
# Templates

A template that has been read: its tree and its program, from which queries and
code are made.

* `Template.compile`: reads a template;
* `Template.render`: makes a query;
* `Template.toGo`, `Template.toGoMethod`, `Template.toRust`: make code;
* `goMethod`: the code for the SQL in a doc comment.
-/

namespace QueryTemplate

/-- A template that has been read. -/
structure Template where
  /-- Its text. -/
  source : String
  /-- Its tree. -/
  nodes : List Node
  /-- Its program. -/
  program : Program
  /-- The choices for the code made from it. -/
  settings : Settings

namespace Template

/-- Reads a template. -/
def compile (source : String) (settings : Settings := {}) : Except SyntaxError Template := do
  let nodes ← Node.ofTemplate source
  return {
    source := source
    nodes := nodes
    program := Program.ofNodes settings.loopMultiplier nodes
    settings := settings }

/-- Makes a query, with the answers of a scope. -/
def render {σ : Type} (t : Template) (scope : Scope σ) : Rendering σ (Query Value) :=
  t.program.render scope

/-- Makes statements in Go. -/
def toGo (t : Template) : GoSource :=
  GoSource.ofProgram t.settings t.program

/-- Makes the body of a method in Go. -/
def toGoMethod (t : Template) (shape : MethodShape) : GoSource :=
  t.toGo.method shape

/-- Makes a block in Rust; its texts are read as `host` reads them. -/
def toRust (t : Template) (host : HostSyntax := .rust) : Except RustBlock.Failure CodeToken :=
  RustBlock.ofProgram t.settings t.program host

end Template

/-- Why no method can be made from a doc comment. -/
inductive DocError where
  /-- The results of the method do not fit. -/
  | signature (error : SignatureError)
  /-- The template in the comment is wrong. -/
  | template (error : SyntaxError)
deriving DecidableEq

/-- The body of the method with a doc comment: none if there is no SQL in it. -/
def goMethod (comment method : String) (results : List String) :
    Except DocError (Option GoSource) := do
  let sql := DocSql.ofComment comment method
  match sql.template? with
  | none => return none
  | some source =>
    let shape ← (sql.shape results).mapError DocError.signature
    let template ← (Template.compile source).mapError DocError.template
    return some (template.toGoMethod shape)

end QueryTemplate
