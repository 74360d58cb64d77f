import QueryTemplate.Host.Expr.Writing
import QueryTemplate.Host.Grammar.Pattern

/-!
# The grammar of expressions

The expressions of Rust that hold no statements: literals, paths, fields, calls,
indexing, the operators with their precedence, casts, ranges, assignments, tuples,
arrays, structures, closures, calls of macros, jumps and attributes.

* `Grammar.hostExpr`: an expression;
* `Grammar.operators`: the operators after an expression;
* `Grammar.unary`, `Grammar.trailers`, `Grammar.atom`: its operands.

Where braces open a body, `struct` is false and no structure may come before them.
Every reader has a bound on the depth of its calls.
-/

namespace QueryTemplate

namespace Grammar

open Reader

/-! ### What comes next -/

/-- The binary operator that comes next. -/
def peekBinary : Reader (Option BinaryOp) := do
  let lexemes ← get
  return BinaryOp.all.find? fun op => startsOp op.text lexemes

/-- Whether an assignment comes next: `=`, but not `=>`. -/
def peekAssign : Reader Bool := do
  return (← peekOp "=") && !(← peekOp "=>")

/-- The precedence of the operator that comes next. -/
def peekPrecedence : Reader Precedence := do
  if let some op ← peekBinary then return op.precedence
  if ← peekAssign then return .assign
  if ← peekOp ".." then return .range
  if ← peekWord "as" then return .cast
  return .least

/-- The operators that may not come after `..` as the start of its end. -/
def rangeStops : List String :=
  [",", ";", "?", "=", "+", "/", "%", "^", ">", "<=", "!=", "-=", "*=", "&=", "|=", "<<="]

/-- Whether a range ends right after `..`. -/
def peekRangeStop (struct : Bool) : Reader Bool := do
  let lexemes ← get
  return lexemes.isEmpty || rangeStops.any (startsOp · lexemes) ||
    (startsOp "." lexemes && !startsOp ".." lexemes) ||
    (!struct && startsGroup .brace lexemes) || startsWord "as" lexemes

/-- Whether an expression may come next. -/
def peekExpr : Reader Bool := do
  let lexemes ← get
  let starts := fun text (excluded : List String) =>
    startsOp text lexemes && !excluded.any (startsOp · lexemes)
  match lexemes with
  | .name text :: _ => return text != "as"
  | .literal _ :: _ | .group _ _ :: _ | .lifetime _ :: _ => return true
  | _ =>
    return starts "!" ["!="] || starts "-" ["-=", "->"] || starts "*" ["*="] ||
      starts "|" ["|="] || starts "&" ["&="] || starts ".." [] || starts "<" ["<=", "<<="] ||
      starts "::" [] || starts "#" []

/-- Whether a closure comes next. -/
def peekClosure : Reader Bool := do
  match ← get with
  | .name text :: rest =>
    return text = "move" || text = "static" ||
      (text = "const" && !startsGroup .brace rest) ||
      (text = "async" && (startsOp "|" rest ||
        (startsWord "move" rest && !startsGroup .brace rest.tail))) ||
      (text = "for" && startsOp "<" rest && (startsLifetime rest.tail || startsOp ">" rest.tail))
  | lexemes => return startsOp "|" lexemes

/-- Whether a cast is followed by what only an operand can be followed by. -/
def peekTrailer : Reader Bool := do
  return ((← peekOp ".") && !(← peekOp "..")) || (← peekOp "?") || (← peekGroup .bracket) ||
    (← peekGroup .paren)

/-! ### Fields -/

/-- What follows a dot that begins with a number with a decimal point: its places,
    with the dots between and after them, and whether a member has to follow. -/
def leadingPlaces : Reader (List CodeToken × Bool) := do
  match ← get with
  | .literal value :: rest =>
    if value.kind = .float then
      match value.places? with
      | some (places, dot) =>
        set rest
        let tokens := places.map fun place => CodeToken.word (toString place)
        return (tokens.intersperse (.word ".") ++ (if dot then [.word "."] else []), dot)
      | none => failure
    else return ([], true)
  | _ => return ([], true)

/-! ### Attributes -/

/-- The segments of an attribute's path after the first. -/
def attributeSegments : (fuel : Nat) → Reader (List CodeToken)
  | 0 => failure
  | fuel + 1 => do
    if ← peekOp "::" then
      let colons ← op "::"
      let next ← if ← peekWords ["super", "self", "Self", "crate"] then pure (.word (← name))
        else ident
      return colons :: next :: (← attributeSegments fuel)
    else return []

/-- The path of an attribute. -/
def attributePath (fuel : Nat) : Reader (List CodeToken) := do
  if ← peekWord "unsafe" then return [← word "unsafe"]
  let leading ← op? "::"
  let first ← if ← peekWords ["super", "self", "Self", "crate"] then pure (.word (← name))
    else ident
  return leading ++ first :: (← attributeSegments fuel)

section

variable (expr : Reader (List CodeToken))

/-- What an attribute says: a path, a path and a group, or a path and a value. -/
def attributeBody (fuel : Nat) : Reader (List CodeToken) := do
  let path ← attributePath fuel
  match ← get with
  | .group _ _ :: _ => return path ++ [← anyGroup]
  | _ =>
    if (← peekAssign) && !(← peekOp "==") then
      let equals ← op "="
      if ← peekOp "#" then failure
      return path ++ equals :: (← expr)
    else return path

/-- The attributes that come next. -/
def attributes : (fuel : Nat) → Reader (List CodeToken)
  | 0 => failure
  | fuel + 1 => do
    if ← peekOp "#" then
      let hash ← op "#"
      let body ← group .bracket (attributeBody expr fuel)
      return hash :: body :: (← attributes fuel)
    else return []

/-! ### Closures and structures -/

/-- The arguments of a closure up to the closing bar. -/
def closureArguments : (fuel : Nat) → Reader (List CodeToken)
  | 0 => failure
  | fuel + 1 => do
    if ← peekOp "|" then return []
    let attributes ← attributes expr fuel
    let argument ← simplePattern expr fuel
    let annotation ←
      if ← peekOp ":" then do
        let colon ← op ":"
        pure (colon :: (← type expr true fuel).tokens)
      else pure []
    let first := attributes ++ argument.tokens ++ annotation
    if ← peekOp "|" then return first
    let comma ← op ","
    return first ++ comma :: (← closureArguments fuel)

/-- What stands before the body of a closure. -/
def closureHead (fuel : Nat) : Reader (List CodeToken) := do
  let binder ← binder? fuel
  let constness ← word? "const"
  let movability ← word? "static"
  let asyncness ← word? "async"
  let capture ← word? "move"
  let opening ← op "|"
  let arguments ← closureArguments expr fuel
  let closing ← op "|"
  return binder ++ constness ++ movability ++ asyncness ++ capture ++
    opening :: arguments ++ [closing]

/-- The fields of a structure, and the expression that gives the others. -/
def structFields : (fuel : Nat) → Reader (List CodeToken)
  | 0 => failure
  | fuel + 1 => do
    if ← atEnd then return []
    if ← peekOp ".." then
      let dots ← op ".."
      if ← atEnd then return [dots] else return dots :: (← expr)
    let attributes ← attributes expr fuel
    let (name, named) ← fieldName
    let value ←
      if !named || (← peekOp ":") then do
        let colon ← op ":"
        pure (colon :: (← expr))
      else pure []
    let first := attributes ++ name :: value
    if ← atEnd then return first
    let comma ← op ","
    return first ++ comma :: (← structFields fuel)

/-- The elements of an array, or its element and their number. -/
def arrayElements (fuel : Nat) : Reader (List CodeToken) := do
  if ← atEnd then return []
  let first ← expr
  if ← peekOp ";" then
    let semicolon ← op ";"
    return first ++ semicolon :: (← expr)
  if ← atEnd then return first
  let comma ← op ","
  return first ++ comma :: (← commaList expr fuel)

/-- A path, a call of a macro or a structure. -/
def pathAtom (struct : Bool) (fuel : Nat) : Reader (List CodeToken) := do
  let path ← qualifiedPath expr false fuel
  if ← peekMacro path then return path.tokens ++ (← macroRest)
  if struct && (← peekGroup .brace) then
    return path.tokens ++ [← group .brace (structFields expr fuel)]
  return path.tokens

/-- What follows a dot: a field, a call of a method, or `await`. -/
def fieldTail (fuel : Nat) : Reader (List CodeToken) := do
  let (places, goesOn) ← leadingPlaces
  if !goesOn then return places
  if ← peekWord "await" then return places ++ [← word "await"]
  let (name, named) ← fieldName
  if named && (← peekOp "::") then
    let colons ← op "::"
    let generics ← generics expr fuel
    let arguments ← group .paren (commaList expr fuel)
    return places ++ name :: colons :: generics ++ [arguments]
  if named && (← peekGroup .paren) then
    return places ++ [name, ← group .paren (commaList expr fuel)]
  return places ++ [name]

end

/-! ### Expressions -/

mutual

/-- An expression. -/
def hostExpr (struct : Bool) : (fuel : Nat) → Reader HostExpr
  | 0 => failure
  | fuel + 1 => do
    let left ← unary struct fuel
    operators left .least struct fuel

/-- The tokens of an expression in brackets of its own. -/
def inner : (fuel : Nat) → Reader (List CodeToken)
  | 0 => failure
  | fuel + 1 => do
    return (← hostExpr true fuel).tokens

/-- The expression with the operators after `left` that bind at least as tightly as
    `base`. -/
def operators (left : HostExpr) (base : Precedence) (struct : Bool) :
    (fuel : Nat) → Reader HostExpr
  | 0 => failure
  | fuel + 1 => do
    if left.isRange then return left
    match ← peekBinary with
    | some operator =>
      if operator.precedence < base then return left
      if operator.precedence = .compare && left.isComparison then failure
      let _ ← op operator.text
      let right ← operand operator.precedence struct fuel
      operators (.binary left operator right) base struct fuel
    | none =>
      if base ≤ .assign && (← peekAssign) then
        let _ ← op "="
        let right ← operand .assign struct fuel
        operators (.assign left right) base struct fuel
      else if base ≤ .range && (← peekOp "..") then
        let range ← rangeTail (some left) struct fuel
        operators range base struct fuel
      else if base ≤ .cast && (← peekWord "as") then
        let _ ← word "as"
        let type ← type (inner fuel) false fuel
        if ← peekTrailer then failure
        operators (.cast left type.tokens type.bare) base struct fuel
      else return left

/-- The right operand of an operator. -/
def operand (precedence : Precedence) (struct : Bool) : (fuel : Nat) → Reader HostExpr
  | 0 => failure
  | fuel + 1 => do
    let right ← unary struct fuel
    tighter right precedence struct fuel

/-- The right operand of an operator, with the operators after it that bind more
    tightly; an assignment takes those that bind as tightly, too. -/
def tighter (right : HostExpr) (precedence : Precedence) (struct : Bool) :
    (fuel : Nat) → Reader HostExpr
  | 0 => failure
  | fuel + 1 => do
    let next ← peekPrecedence
    if precedence < next || (next = precedence && precedence = .assign) then
      if right.isRange then return right
      let right ← operators right next struct fuel
      tighter right precedence struct fuel
    else return right

/-- The rest of a range from its dots on. -/
def rangeTail (start : Option HostExpr) (struct : Bool) : (fuel : Nat) → Reader HostExpr
  | 0 => failure
  | fuel + 1 => do
    if ← peekOp "..." then failure
    let closed ← peekOp "..="
    let dots ← op (if closed then "..=" else "..")
    if !closed && (← peekRangeStop struct) then
      match start with
      | some start => return .rangeFrom start dots
      | none => return .range dots
    let stop ← operand .range struct fuel
    match start with
    | some start => return .rangeBetween start dots stop
    | none => return .rangeTo dots stop

/-- An expression with its attributes and the operators before it. -/
def unary (struct : Bool) : (fuel : Nat) → Reader HostExpr
  | 0 => failure
  | fuel + 1 => do
    let attributes ← attributes (inner fuel) fuel
    if ← peekOp "&" then
      let ampersand ← op "&"
      let rest ← get
      let raw := startsWord "raw" rest &&
        (startsWord "mut" rest.tail || startsWord "const" rest.tail)
      let words ← if raw then do pure [← word "raw", .word (← name)] else word? "mut"
      let operand ← unary struct fuel
      return (HostExpr.unary (ampersand :: words) operand).withAttributes attributes
    for text in ["*", "!", "-"] do
      if ← peekOp text then
        let operator ← op text
        let operand ← unary struct fuel
        return (HostExpr.unary [operator] operand).withAttributes attributes
    let atom ← atom struct fuel
    return (← trailers atom fuel).withAttributes attributes

/-- An expression with the calls, fields, indices and question marks after it. -/
def trailers (base : HostExpr) : (fuel : Nat) → Reader HostExpr
  | 0 => failure
  | fuel + 1 => do
    if ← peekGroup .paren then
      trailers (.applied base (← group .paren (commaList (inner fuel) fuel))) fuel
    else if (← peekOp ".") && !(← peekOp "..") && !base.isRange then
      let dot ← op "."
      trailers (.selected base (dot :: (← fieldTail (inner fuel) fuel))) fuel
    else if ← peekGroup .bracket then
      trailers (.applied base (← group .bracket (inner fuel))) fuel
    else if (← peekOp "?") && !base.isRange then
      trailers (.selected base [← op "?"]) fuel
    else return base

/-- A closure. -/
def closure (struct : Bool) : (fuel : Nat) → Reader HostExpr
  | 0 => failure
  | fuel + 1 => do
    let head ← closureHead (inner fuel) fuel
    if ← peekOp "->" then
      let arrow ← op "->"
      let result ← type (inner fuel) true fuel
      return .closed (head ++ arrow :: result.tokens ++ [← block (inner fuel) fuel])
    return .closure head (← hostExpr struct fuel)

/-- A condition `let` with its pattern and value. -/
def letCondition (struct : Bool) : (fuel : Nat) → Reader HostExpr
  | 0 => failure
  | fuel + 1 => do
    let keyword ← word "let"
    let pattern ← pattern (inner fuel) fuel
    let equals ← op "="
    let left ← unary struct fuel
    let value ← operators left .compare struct fuel
    return .matching (keyword :: pattern.tokens ++ [equals]) value

/-- A word that leaves a block, and the expression after it if there is one. -/
def jump (text : String) (struct : Bool) : (fuel : Nat) → Reader HostExpr
  | 0 => failure
  | fuel + 1 => do
    let keyword ← word text
    let label ← if text = "break" then lifetime? else pure []
    if !label.isEmpty && (← peekOp ":") then failure
    let words := keyword :: label
    if text = "break" && !struct && (← peekGroup .brace) then return .jump words
    if ← peekExpr then return .jumpWith words (← hostExpr true fuel)
    return .jump words

/-- An expression without operators. -/
def atom (struct : Bool) : (fuel : Nat) → Reader HostExpr
  | 0 => failure
  | fuel + 1 => do
    if ← peekLiteral then return .closed (← literal)
    if ← peekClosure then return ← closure struct fuel
    if (← peekPath) || ((← peekWord "try") &&
        (startsOp "!" (← get).tail || startsOp "::" (← get).tail)) then
      return .closed (← pathAtom (inner fuel) struct fuel)
    if ← peekGroup .paren then
      return .closed [← group .paren (commaList (inner fuel) fuel)]
    for text in ["break", "return", "yield"] do
      if ← peekWord text then return ← jump text struct fuel
    if ← peekWord "continue" then
      let keyword ← word "continue"
      return .closed (keyword :: (← lifetime?))
    if ← peekWord "become" then
      let keyword ← word "become"
      return .closed (keyword :: (← inner fuel))
    if ← peekGroup .bracket then
      return .closed [← group .bracket (arrayElements (inner fuel) fuel)]
    if ← peekWord "let" then return ← letCondition struct fuel
    if ← peekGroup .brace then return .closed [← block (inner fuel) fuel]
    if ← peekOp ".." then return ← rangeTail none struct fuel
    if ← peekWord "_" then return .closed [← word "_"]
    failure

end

end Grammar

end QueryTemplate
