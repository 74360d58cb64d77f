import QueryTemplate.Host.Grammar

/-!
# Host syntax

Some texts of a template are code of the host language. For the code made from the template it
does not matter how they are read, but only which of them can be, and what tokens they consist of.

* `HostSyntax`: a way to read such texts;
* `HostSyntax.rust`: the syntax of Rust.
-/

namespace QueryTemplate

/-- A way to read texts of the host language. Each reader gives the tokens of a text, or says
    what is wrong with it. -/
structure HostSyntax where
  /-- Reads a path. -/
  path : String → Except String (List CodeToken)
  /-- Reads an expression. -/
  expr : String → Except String (List CodeToken)
  /-- Reads the header of a loop: its pattern and its items. -/
  loop : String → Except String (List CodeToken × List CodeToken)

namespace HostSyntax

/-- What was read, or that nothing could be. -/
def orProblem {α : Type} : Option α → Except String α
  | some a => .ok a
  | none => .error "not part of the language"

/-- The syntax of Rust. -/
def rust : HostSyntax where
  path text := orProblem (HostPath.read? text)
  expr text := orProblem ((HostExpr.read? text).map HostExpr.tokens)
  loop header := orProblem ((HostLoop.read? header).map fun loop =>
    (loop.pattern, loop.items.tokens))

end HostSyntax

end QueryTemplate
