import QueryTemplate.Host.Grammar.Expr

/-!
# Host texts

What the texts in a template spell in the host language.

* `HostExpr.read?`: the expression that a condition or placeholder spells;
* `HostPath.read?`: the path that a setting spells;
* `HostLoop.read?`: the pattern and the items that a loop header spells.
-/

namespace QueryTemplate

namespace Grammar

/-- A bound on the depth of calls that is large enough for any text of this many
    characters: each of them takes part in only a few calls. -/
def depthFor (text : String) : Nat :=
  32 * text.length + 64

end Grammar

open Grammar

/-- The expression that a text spells. -/
def HostExpr.read? (text : String) : Option HostExpr := do
  Reader.whole (hostExpr true (depthFor text)) (← Lexeme.ofText? text)

/-- The tokens of the path that a text spells. -/
def HostPath.read? (text : String) : Option (List CodeToken) := do
  let depth := depthFor text
  let path ← Reader.whole (path (inner depth) true depth) (← Lexeme.ofText? text)
  return path.tokens

/-- The pattern and the expression of a loop. -/
structure HostLoop where
  /-- The pattern that each item is matched with. -/
  pattern : List CodeToken
  /-- The expression for the items. -/
  items : HostExpr

/-- The loop that a header spells: it is read as that of a loop with an empty body. -/
def HostLoop.read? (header : String) : Option HostLoop := do
  let text := "for " ++ header ++ " \x7b\x7d"
  let depth := depthFor text
  let reader : Reader HostLoop := do
    let _ ← Reader.word "for"
    let pattern ← Grammar.pattern (inner depth) depth
    let _ ← Reader.word "in"
    let items ← hostExpr false depth
    let _ ← block (inner depth) depth
    return { pattern := pattern.tokens, items := items }
  Reader.whole reader (← Lexeme.ofText? text)

end QueryTemplate
