import QueryTemplate.Host.Grammar.Type

/-!
# Patterns

The grammar of the patterns that the items of a loop, the arguments of closures and
the values of conditions are matched with. They are kept as the tokens that they are
written with.

* `Grammar.pattern`: a pattern, or alternatives separated by `|`;
* `Grammar.simplePattern`: a pattern without alternatives.
-/

namespace QueryTemplate

namespace Grammar

open Reader

/-- The forms of patterns that the grammar tells apart. -/
inductive PatternForm where
  /-- A range with only one end. -/
  | halfRange
  /-- Any other. -/
  | other
deriving DecidableEq

/-- A pattern. -/
structure PatternRead where
  /-- Its form. -/
  form : PatternForm := .other
  /-- Its tokens. -/
  tokens : List CodeToken

/-- Whether a pattern that comes next is or begins with a path. -/
def peekPathPattern : Reader Bool := do
  match ← get with
  | .name text :: rest =>
    let goesOn := startsOp "::" rest || startsOp "!" rest || startsOp ".." rest ||
      startsGroup .paren rest || startsGroup .brace rest
    return (startsIdent [.name text] && goesOn) || (text = "self" && startsOp "::" rest) ||
      ["Self", "super", "crate"].contains text
  | lexemes => return startsOp "::" lexemes || startsOp "<" lexemes

/-- Whether a range in a pattern has no end. -/
def peekRangeEnd : Reader Bool := do
  return (← atEnd) || (← peekOp "|") || (← peekOp "=") ||
    ((← peekOp ":") && !(← peekOp "::")) || (← peekOp ",") || (← peekOp ";") ||
    (← peekWord "if")

/-- Whether another alternative comes next. -/
def peekAlternative : Reader Bool := do
  return (← peekOp "|") && !(← peekOp "||") && !(← peekOp "|=")

/-- Takes the dots of a range; three dots are an old way to write `..=`. -/
def patternDots : Reader CodeToken := do
  if ← peekOp "..=" then op "..="
  else if ← peekOp "..." then
    let _ ← op "..."
    return .word "..="
  else op ".."

/-- The name or place of a field. -/
def fieldName : Reader (CodeToken × Bool) := do
  match ← get with
  | .literal value :: rest =>
    match value.place? with
    | some place =>
      set rest
      return (.word (toString place), false)
    | none => failure
  | _ => return (← ident, true)

variable (expr : Reader (List CodeToken))

/-- The end of a range in a pattern: a literal or a path, if there is one. -/
def rangeBound (fuel : Nat) : Reader (List CodeToken) := do
  if ← peekRangeEnd then return []
  if ← peekLiteral then literal
  else if ← peekPath then return (← qualifiedPath expr false fuel).tokens
  else failure

/-- The rest of a range from its dots on. -/
def rangeRest (start : List CodeToken) (fuel : Nat) : Reader PatternRead := do
  let dots ← if start.isEmpty then (do if ← peekOp "..." then failure else patternDots)
    else patternDots
  let stop ← rangeBound expr fuel
  match stop, dots with
  | [], .word "..=" => failure
  | [], _ =>
    return {
      form := if start.isEmpty then .other else .halfRange
      tokens := start ++ [dots] }
  | _, _ =>
    return {
      form := if start.isEmpty then .halfRange else .other
      tokens := start ++ dots :: stop }

mutual

/-- A pattern: alternatives separated by `|`. -/
def pattern : (fuel : Nat) → Reader PatternRead
  | 0 => failure
  | fuel + 1 => do
    let leading ← op? "|"
    let first ← simplePattern fuel
    let rest ← alternatives fuel
    return {
      form := if leading.isEmpty && rest.isEmpty then first.form else .other
      tokens := leading ++ first.tokens ++ rest }

/-- The alternatives after the first. -/
def alternatives : (fuel : Nat) → Reader (List CodeToken)
  | 0 => failure
  | fuel + 1 => do
    if ← peekAlternative then
      let bar ← op "|"
      let next ← simplePattern fuel
      return bar :: next.tokens ++ (← alternatives fuel)
    else return []

/-- A pattern that begins with a path. -/
def pathPattern : (fuel : Nat) → Reader PatternRead
  | 0 => failure
  | fuel + 1 => do
    let path ← qualifiedPath expr false fuel
    if ← peekMacro path then return { tokens := path.tokens ++ (← macroRest) }
    if ← peekGroup .brace then
      return { tokens := path.tokens ++ [← group .brace (fieldPatterns fuel)] }
    if ← peekGroup .paren then
      let elements := commaList (do return (← pattern fuel).tokens) fuel
      return { tokens := path.tokens ++ [← group .paren elements] }
    if ← peekOp ".." then return ← rangeRest expr path.tokens fuel
    return { tokens := path.tokens }

/-- The patterns of fields, and dots for those left out. -/
def fieldPatterns : (fuel : Nat) → Reader (List CodeToken)
  | 0 => failure
  | fuel + 1 => do
    if ← atEnd then return []
    if ← peekOp ".." then return [← op ".."]
    let first ← fieldPattern fuel
    if ← atEnd then return first
    let comma ← op ","
    return first ++ comma :: (← fieldPatterns fuel)

/-- The pattern of a field: its name, or its name and a pattern. -/
def fieldPattern : (fuel : Nat) → Reader (List CodeToken)
  | 0 => failure
  | fuel + 1 => do
    let boxed ← word? "box"
    let byRef ← word? "ref"
    let mutability ← word? "mut"
    let words := boxed ++ byRef ++ mutability
    let (name, named) ← if words.isEmpty then fieldName else do pure (← ident, true)
    if !named || (words.isEmpty && (← peekOp ":")) then
      let colon ← op ":"
      return name :: colon :: (← pattern fuel).tokens
    else return words ++ [name]

/-- The elements of a slice; a range with one end needs brackets there. -/
def sliceElements : (fuel : Nat) → Reader (List CodeToken)
  | 0 => failure
  | fuel + 1 => do
    if ← atEnd then return []
    let first ← pattern fuel
    if first.form = .halfRange then failure
    if ← atEnd then return first.tokens
    let comma ← op ","
    return first.tokens ++ comma :: (← sliceElements fuel)

/-- A pattern without alternatives. -/
def simplePattern : (fuel : Nat) → Reader PatternRead
  | 0 => failure
  | fuel + 1 => do
    if ← peekPathPattern then return ← pathPattern fuel
    if ← peekWord "_" then return { tokens := [← word "_"] }
    if ← peekWord "box" then
      let keyword ← word "box"
      return { tokens := keyword :: (← simplePattern fuel).tokens }
    if (← peekOp "-") || (← peekLiteral) then
      let start ← literal
      if ← peekOp ".." then return ← rangeRest expr start fuel
      return { tokens := start }
    if (← peekWords ["ref", "mut", "self"]) || (← peekIdent) then
      let byRef ← word? "ref"
      let mutability ← word? "mut"
      let name ← if ← peekWord "self" then word "self" else ident
      let words := byRef ++ mutability ++ [name]
      if ← peekOp "@" then
        let sign ← op "@"
        return { tokens := words ++ sign :: (← simplePattern fuel).tokens }
      return { tokens := words }
    if ← peekOp "&" then
      let ampersand ← op "&"
      let mutability ← word? "mut"
      return { tokens := ampersand :: mutability ++ (← simplePattern fuel).tokens }
    if ← peekGroup .paren then
      let elements := commaList (do return (← pattern fuel).tokens) fuel
      return { tokens := [← group .paren elements] }
    if ← peekGroup .bracket then
      return { tokens := [← group .bracket (sliceElements fuel)] }
    if ← peekOp ".." then return ← rangeRest expr [] fuel
    failure

end

end Grammar

end QueryTemplate
