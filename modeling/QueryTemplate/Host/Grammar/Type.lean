import QueryTemplate.Host.Reader

/-!
# Paths and types

The grammar of the paths and types in host expressions. They are kept as the tokens
that they are written with, together with what the grammar around them asks.

* `Grammar.path`, `Grammar.qualifiedPath`: paths, such as `a::b` and `<T as A>::b`;
* `Grammar.type`: types;
* `Grammar.macroRest`: the rest of a call of a macro after its path.

An array's length and a generic argument may hold expressions: every reader here is
given the one for them, and a bound on the depth of its calls.
-/

namespace QueryTemplate

namespace Grammar

open Reader

/-! ### Paths -/

/-- A segment of a path. -/
structure Segment where
  /-- Its tokens. -/
  tokens : List CodeToken
  /-- Whether it has no arguments. -/
  plain : Bool := true

/-- A path. -/
structure PathRead where
  /-- Its tokens. -/
  tokens : List CodeToken
  /-- Whether it belongs to a type, such as `<T>::N`. -/
  qualified : Bool := false
  /-- Whether it is one segment and nothing else. -/
  single : Bool := false
  /-- Whether no segment has arguments. -/
  plain : Bool := true
  /-- Whether the last segment has no arguments. -/
  bare : Bool := true

/-- Segments with the colons between them. -/
def Segment.join (segments : List Segment) : List CodeToken :=
  [CodeToken.word "::"].intercalate (segments.map (·.tokens))

/-- The path of segments, with colons in front or not. -/
def PathRead.ofSegments (leading : List CodeToken) (segments : List Segment) : PathRead :=
  { tokens := leading ++ Segment.join segments
    single := leading.isEmpty && segments.length = 1
    plain := segments.all (·.plain)
    bare := segments.getLast?.any (·.plain) }

/-- The words that may stand for a segment of a path and take no arguments. -/
def pathWords : List String := ["super", "self", "crate", "try"]

/-- Whether generic arguments come next: `<`, but neither `<=` nor `<<=`. -/
def peekGenerics : Reader Bool := do
  return (← peekOp "<") && !(← peekOp "<=") && !(← peekOp "<<=")

/-- Whether `::<` comes next. -/
def peekTurbofish : Reader Bool := do
  match afterOp? [':', ':'] (← get) with
  | some rest => return startsOp "<" rest
  | none => return false

/-- Whether `::` and round brackets come next. -/
def peekColonGroup : Reader Bool := do
  match afterOp? [':', ':'] (← get) with
  | some rest => return startsGroup .paren rest
  | none => return false

/-- Whether a path begins with what comes next. -/
def peekPath : Reader Bool := do
  return (← peekIdent) || (← peekWords ["super", "self", "Self", "crate"]) ||
    (← peekOp "::") || (← peekOp "<")

/-- Whether the mark of a macro's call comes next. -/
def peekMacro (path : PathRead) : Reader Bool := do
  return !path.qualified && path.plain && (← peekOp "!") && !(← peekOp "!=")

/-- The rest of a call of a macro after its path. -/
def macroRest : Reader (List CodeToken) := do
  let bang ← op "!"
  return [bang, ← anyGroup]

/-! ### Generic arguments -/

/-- A generic argument. -/
structure GenericArg where
  /-- Its tokens. -/
  tokens : List CodeToken
  /-- Whether it is a lifetime. -/
  isLifetime : Bool := false
  /-- Whether a comma follows it. -/
  comma : Bool := false

/-- Generic arguments with their commas; `separated` says that nothing stands before
    them from which a comma would have to part them. -/
def GenericArg.write : (separated : Bool) → List GenericArg → List CodeToken
  | _, [] => []
  | separated, arg :: args =>
    (if separated then [] else [CodeToken.word ","]) ++ arg.tokens ++
      (if arg.comma then [CodeToken.word ","] else []) ++ write arg.comma args

/-- Lifetimes with their commas. -/
def GenericArg.writeLifetimes (args : List GenericArg) : List CodeToken :=
  args.flatMap fun arg => arg.tokens ++ if arg.comma then [CodeToken.word ","] else []

/-- Generic arguments as they are written: the lifetimes come first. -/
def GenericArg.writeAll (args : List GenericArg) : List CodeToken :=
  let lifetimes := args.filter (·.isLifetime)
  let others := args.filter (!·.isLifetime)
  writeLifetimes lifetimes ++ write ((lifetimes.getLast?.map (·.comma)).getD true) others

/-! ### Types -/

/-- The forms of types that the grammar tells apart. -/
inductive TypeForm where
  /-- A path of a single segment. -/
  | segment
  /-- Any other path that does not belong to a type. -/
  | path
  /-- A single bound without `dyn`. -/
  | bound
  /-- Any other. -/
  | other
deriving DecidableEq

/-- A type. -/
structure TypeRead where
  /-- Its form. -/
  form : TypeForm := .other
  /-- Its tokens. -/
  tokens : List CodeToken
  /-- Whether it ends in a path to which generic arguments could be added. -/
  bare : Bool := false

/-- A bound of a type. -/
structure Bound where
  /-- Its tokens. -/
  tokens : List CodeToken
  /-- Whether it is a trait, and no lifetime. -/
  isTrait : Bool := true
  /-- Whether it ends in a path to which generic arguments could be added. -/
  bare : Bool := false

/-- Bounds with the plus signs between and, if `trailing`, after them. -/
structure Bounds where
  /-- The bounds. -/
  bounds : List Bound
  /-- Whether a plus sign follows the last one. -/
  trailing : Bool := false

/-- The tokens of bounds. -/
def Bounds.tokens (b : Bounds) : List CodeToken :=
  [CodeToken.word "+"].intercalate (b.bounds.map (·.tokens)) ++
    if b.trailing then [CodeToken.word "+"] else []

/-- The bounds with one more in front. -/
def Bounds.cons (first : Bound) (b : Bounds) : Bounds :=
  { b with bounds := first :: b.bounds, trailing := b.trailing || b.bounds.isEmpty }

/-- The type that consists of words and bounds. -/
def Bounds.toType (words : List CodeToken) (b : Bounds) : TypeRead :=
  { form := if words.isEmpty && b.bounds.length = 1 && !b.trailing then .bound else .other
    tokens := words ++ b.tokens
    bare := b.bounds.getLast?.any (·.bare) }

/-- Whether the start of another bound comes next. -/
def peekBound : Reader Bool := do
  match ← get with
  | .name _ :: _ | .lifetime _ :: _ | .group .paren _ :: _ => return true
  | lexemes => return startsOp "::" lexemes || startsOp "?" lexemes

/-- The bounds of a lifetime, up to a comma or angle bracket. -/
def lifetimeBounds : (fuel : Nat) → Reader (List CodeToken)
  | 0 => failure
  | fuel + 1 => do
    if (← atEnd) || (← peekOp ",") || (← peekOp ">") then return []
    let first ← lifetime
    if ← peekOp "+" then
      let plus ← op "+"
      return first :: plus :: (← lifetimeBounds fuel)
    else return [first]

/-- The lifetimes of a binder, up to the angle bracket. -/
def binderRest : (fuel : Nat) → Reader (List CodeToken)
  | 0 => failure
  | fuel + 1 => do
    if ← peekOp ">" then return [← op ">"]
    let name ← lifetime
    let bounds ←
      if ← peekOp ":" then do
        let colon ← op ":"
        let bounds ← lifetimeBounds fuel
        pure (if bounds.isEmpty then [] else colon :: bounds)
      else pure []
    if ← peekOp ">" then return name :: bounds ++ [← op ">"]
    let comma ← op ","
    return name :: bounds ++ comma :: (← binderRest fuel)

/-- The binder of lifetimes, if there is one. -/
def binder? (fuel : Nat) : Reader (List CodeToken) := do
  if ← peekWord "for" then
    let keyword ← word "for"
    let opening ← op "<"
    return keyword :: opening :: (← binderRest fuel)
  else return []

/-- The name of a function's argument before its type, if there is one. -/
def argumentName? : Reader (List CodeToken) := do
  match ← get with
  | .name text :: rest =>
    if (startsIdent [.name text] || text = "_" || text = "self") && startsOp ":" rest &&
        !startsOp "::" rest then
      let name ← name
      return [.word name, ← op ":"]
    else return []
  | _ => return []

variable (expr : Reader (List CodeToken))

/-- The statements of a block: expressions, each but the last with a semicolon. -/
def statements : (fuel : Nat) → Reader (List CodeToken)
  | 0 => failure
  | fuel + 1 => do
    if ← atEnd then return []
    if ← peekOp ";" then
      let semicolon ← op ";"
      return semicolon :: (← statements fuel)
    let first ← expr
    if ← atEnd then return first
    let semicolon ← op ";"
    return first ++ semicolon :: (← statements fuel)

/-- A block. -/
def block (fuel : Nat) : Reader CodeToken :=
  group .brace (statements expr fuel)

/-- A constant as a generic argument: a literal or a block. -/
def constArgument (fuel : Nat) : Reader (List CodeToken) := do
  if ← peekLiteral then literal else return [← block expr fuel]

mutual

/-- A path. Within a type, generic arguments need no `::` before them. -/
def path (inType : Bool) : (fuel : Nat) → Reader PathRead
  | 0 => failure
  | fuel + 1 => do
    let leading ← op? "::"
    let first ← segment inType fuel
    return .ofSegments leading (first :: (← segments inType fuel))

/-- The segments after the first. -/
def segments (inType : Bool) : (fuel : Nat) → Reader (List Segment)
  | 0 => failure
  | fuel + 1 => do
    if (← peekOp "::") && !(← peekColonGroup) then
      let _ ← op "::"
      let next ← segment inType fuel
      return next :: (← segments inType fuel)
    else return []

/-- A segment of a path. -/
def segment (inType : Bool) : (fuel : Nat) → Reader Segment
  | 0 => failure
  | fuel + 1 => do
    if ← peekWords pathWords then return { tokens := [.word (← name)] }
    let name ← if ← peekWord "Self" then word "Self" else ident
    if ← peekTurbofish then
      let colons ← op "::"
      return { tokens := name :: colons :: (← generics fuel), plain := false }
    else if inType && (← peekGenerics) then
      return { tokens := name :: (← generics fuel), plain := false }
    else return { tokens := [name] }

/-- A path that may belong to a type. -/
def qualifiedPath (inType : Bool) : (fuel : Nat) → Reader PathRead
  | 0 => failure
  | fuel + 1 => do
    if ← peekOp "<" then
      let opening ← op "<"
      let self ← type true fuel
      let trait ←
        if ← peekWord "as" then do
          let keyword ← word "as"
          pure (keyword :: (← path true fuel).tokens)
        else pure []
      let closing ← op ">"
      let colons ← op "::"
      let rest ← qualifiedRest inType fuel
      return { PathRead.ofSegments [] rest with
        tokens := opening :: self.tokens ++ trait ++ closing :: colons :: Segment.join rest
        qualified := true
        single := false }
    else path inType fuel

/-- The segments after the type that a path belongs to. -/
def qualifiedRest (inType : Bool) : (fuel : Nat) → Reader (List Segment)
  | 0 => failure
  | fuel + 1 => do
    let first ← segment inType fuel
    if ← peekOp "::" then
      let _ ← op "::"
      return first :: (← qualifiedRest inType fuel)
    else return [first]

/-- Generic arguments in their angle brackets. -/
def generics : (fuel : Nat) → Reader (List CodeToken)
  | 0 => failure
  | fuel + 1 => do
    let opening ← op "<"
    let args ← genericRest fuel
    let closing ← op ">"
    return opening :: GenericArg.writeAll args ++ [closing]

/-- Generic arguments up to the closing angle bracket. -/
def genericRest : (fuel : Nat) → Reader (List GenericArg)
  | 0 => failure
  | fuel + 1 => do
    if ← peekOp ">" then return []
    let arg ← genericArg fuel
    if ← peekOp ">" then return [arg]
    let _ ← op ","
    return { arg with comma := true } :: (← genericRest fuel)

/-- A generic argument: a lifetime, a constant, a type, or what is said of a type
    with a name. -/
def genericArg : (fuel : Nat) → Reader GenericArg
  | 0 => failure
  | fuel + 1 => do
    if (← peekLifetime) && !startsOp "+" (← get).tail then
      return { tokens := [← lifetime], isLifetime := true }
    if (← peekLiteral) || (← peekGroup .brace) then
      return { tokens := ← constArgument expr fuel }
    let argument ← type true fuel
    if argument.form = .segment && (← peekOp "=") then
      let equals ← op "="
      let value ←
        if (← peekLiteral) || (← peekGroup .brace) then constArgument expr fuel
        else do pure (← type true fuel).tokens
      return { tokens := argument.tokens ++ equals :: value }
    if argument.form = .segment && (← peekOp ":") then
      let colon ← op ":"
      return { tokens := argument.tokens ++ colon :: (← constraint fuel).tokens }
    return { tokens := argument.tokens }

/-- The bounds of a type with a name, up to a comma or angle bracket. -/
def constraint : (fuel : Nat) → Reader Bounds
  | 0 => failure
  | fuel + 1 => do
    if (← peekOp ",") || (← peekOp ">") then return { bounds := [] }
    let first ← bound fuel
    if ← peekOp "+" then
      let _ ← op "+"
      return .cons first (← constraint fuel)
    else return { bounds := [first] }

/-- A bound: a lifetime or a trait, which may be in brackets. -/
def bound : (fuel : Nat) → Reader Bound
  | 0 => failure
  | fuel + 1 => do
    if ← peekLifetime then return { tokens := [← lifetime], isTrait := false }
    if ← peekGroup .paren then
      let inner ← inGroup .paren (traitBound fuel)
      return { inner with tokens := [.parens inner.tokens] }
    traitBound fuel

/-- A trait as a bound. -/
def traitBound : (fuel : Nat) → Reader Bound
  | 0 => failure
  | fuel + 1 => do
    let binder ← binder? fuel
    let optional ← op? "?"
    if !binder.isEmpty && !optional.isEmpty then failure
    let inner ← binder? fuel
    let trait ← path true fuel
    let front := binder ++ optional ++ inner
    if trait.bare && ((← peekGroup .paren) || (← peekColonGroup)) then
      let _ ← op? "::"
      let arguments ← group .paren (commaList (do return (← type true fuel).tokens) fuel)
      let result ← result? fuel
      return { tokens := front ++ trait.tokens ++ arguments :: result.tokens, bare := result.bare }
    else return { tokens := front ++ trait.tokens, bare := trait.bare }

/-- Bounds; only if `plus` there may be more than one. -/
def bounds (plus : Bool) : (fuel : Nat) → Reader Bounds
  | 0 => failure
  | fuel + 1 => do
    let first ← bound fuel
    if plus && (← peekOp "+") then
      let _ ← op "+"
      if ← peekBound then return .cons first (← bounds plus fuel)
      else return { bounds := [first], trailing := true }
    else return { bounds := [first] }

/-- Further bounds, each after a plus sign. -/
def moreBounds : (fuel : Nat) → Reader (List Bound)
  | 0 => failure
  | fuel + 1 => do
    if ← peekOp "+" then
      let _ ← op "+"
      let next ← bound fuel
      return next :: (← moreBounds fuel)
    else return []

/-- A type that begins with words and goes on with bounds, one of them a trait. -/
def boundType (words : List CodeToken) (plus : Bool) : (fuel : Nat) → Reader TypeRead
  | 0 => failure
  | fuel + 1 => do
    let bounds ← bounds plus fuel
    if bounds.bounds.any (·.isTrait) then return bounds.toType words else failure

/-- The type of a function's result, if there is one. -/
def result? : (fuel : Nat) → Reader TypeRead
  | 0 => failure
  | fuel + 1 => do
    if ← peekOp "->" then
      let arrow ← op "->"
      let result ← type false fuel
      return { tokens := arrow :: result.tokens, bare := result.bare }
    else return { tokens := [] }

/-- The arguments of a type of functions. -/
def functionArguments : (fuel : Nat) → Reader (List CodeToken)
  | 0 => failure
  | fuel + 1 => do
    if ← atEnd then return []
    let name ← argumentName?
    if ← peekOp "..." then
      let dots ← op "..."
      return name ++ dots :: (← op? ",")
    let first ← type true fuel
    if ← atEnd then return name ++ first.tokens
    let comma ← op ","
    return name ++ first.tokens ++ comma :: (← functionArguments fuel)

/-- A type of functions after its binder. -/
def functionType (binder : List CodeToken) : (fuel : Nat) → Reader TypeRead
  | 0 => failure
  | fuel + 1 => do
    let safety ← word? "unsafe"
    let linkage ← word? "extern"
    let convention ←
      match ← get with
      | .literal value :: _ => if linkage.isEmpty || value.kind ≠ .string then pure [] else literal
      | _ => pure []
    let keyword ← word "fn"
    let arguments ← group .paren (functionArguments fuel)
    let result ← result? fuel
    return {
      tokens := binder ++ safety ++ linkage ++ convention ++ keyword :: arguments :: result.tokens
      bare := result.bare }

/-- What is in the round brackets of a type, and its form if it is a single type. -/
def bracketed : (fuel : Nat) → Reader (TypeForm × List CodeToken)
  | 0 => failure
  | fuel + 1 => do
    if ← atEnd then return (.other, [])
    if ← peekLifetime then return (.other, (← boundType [] true fuel).tokens)
    let first ← type true fuel
    if ← peekOp "," then
      let comma ← op ","
      let rest ← commaList (do return (← type true fuel).tokens) fuel
      return (.other, first.tokens ++ comma :: rest)
    return (first.form, first.tokens)

/-- A type in round brackets, a tuple, or a bound in brackets with more after it. -/
def parenType (plus : Bool) : (fuel : Nat) → Reader TypeRead
  | 0 => failure
  | fuel + 1 => do
    let optional :=
      match ← get with
      | .group .paren body :: _ => startsOp "?" body
      | _ => false
    if optional then
      let first ← bound fuel
      return Bounds.toType [] { bounds := first :: (← moreBounds fuel) }
    let (form, tokens) ← inGroup .paren (bracketed fuel)
    let inner := CodeToken.parens tokens
    if plus && form ≠ .other && (← peekOp "+") then
      return Bounds.toType [] { bounds := { tokens := [inner] } :: (← moreBounds fuel) }
    return { tokens := [inner] }

/-- A type that begins with a path. -/
def pathType (binder : List CodeToken) (plus : Bool) : (fuel : Nat) → Reader TypeRead
  | 0 => failure
  | fuel + 1 => do
    let path ← qualifiedPath true fuel
    if path.qualified then return { tokens := path.tokens, bare := path.bare }
    if ← peekMacro path then return { tokens := path.tokens ++ (← macroRest) }
    let first : Bound := { tokens := binder ++ path.tokens, bare := path.bare }
    if plus && (← peekOp "+") then
      let _ ← op "+"
      if ← peekBound then return Bounds.toType [] (.cons first (← bounds plus fuel))
      else return Bounds.toType [] { bounds := [first], trailing := true }
    if !binder.isEmpty then return Bounds.toType [] { bounds := [first] }
    return {
      form := if path.single then .segment else .path
      tokens := path.tokens
      bare := path.bare }

/-- A type; only if `plus` it may consist of several bounds. -/
def type (plus : Bool) : (fuel : Nat) → Reader TypeRead
  | 0 => failure
  | fuel + 1 => do
    let binder ← binder? fuel
    if ← peekWords ["fn", "unsafe", "extern"] then return ← functionType binder fuel
    if (← peekIdent) || (← peekWords ["super", "self", "Self", "crate"]) then
      return ← pathType binder plus fuel
    if !binder.isEmpty then failure
    if ← peekGroup .paren then return ← parenType plus fuel
    if (← peekOp "::") || (← peekOp "<") then return ← pathType [] plus fuel
    if ← peekWord "dyn" then return ← boundType [← word "dyn"] plus fuel
    if ← peekWord "impl" then return ← boundType [← word "impl"] plus fuel
    if ← peekGroup .bracket then return { tokens := [← group .bracket (arrayType fuel)] }
    if ← peekOp "*" then
      let star ← op "*"
      let mutability ← if ← peekWord "mut" then word "mut" else word "const"
      let target ← type false fuel
      return { tokens := star :: mutability :: target.tokens, bare := target.bare }
    if ← peekOp "&" then
      let ampersand ← op "&"
      let lifetime ← lifetime?
      let mutability ← word? "mut"
      let target ← type false fuel
      return {
        tokens := ampersand :: lifetime ++ mutability ++ target.tokens
        bare := target.bare }
    if ← peekOp "!" then return { tokens := [← op "!"] }
    if ← peekWord "_" then return { tokens := [← word "_"] }
    if ← peekLifetime then return ← boundType [] plus fuel
    failure

/-- The type of the elements of an array, and their number if it is given. -/
def arrayType : (fuel : Nat) → Reader (List CodeToken)
  | 0 => failure
  | fuel + 1 => do
    let element ← type true fuel
    if ← peekOp ";" then
      let semicolon ← op ";"
      return element.tokens ++ semicolon :: (← expr)
    return element.tokens

end

end Grammar

end QueryTemplate
