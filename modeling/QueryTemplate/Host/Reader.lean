import QueryTemplate.Host.Lexeme

/-!
# Reading lexemes

What readers of host expressions are made of. A reader takes lexemes from the front
of a list and gives back what they spell, or fails.

* `Reader`: the readers;
* `Reader.op`, `Reader.word`, `Reader.ident`, `Reader.literal`: readers of one token;
* `Reader.whole`: a reader that has to take all lexemes;
* `Reader.commaList`: elements separated by commas.
-/

namespace QueryTemplate

/-- A reader takes lexemes from the front of a list, or fails. -/
abbrev Reader := StateT (List Lexeme) Option

/-- The words that are no identifiers. -/
def reservedWords : List String :=
  ["abstract", "as", "async", "await", "become", "box", "break", "const", "continue", "crate",
    "do", "dyn", "else", "enum", "extern", "false", "final", "fn", "for", "if", "impl", "in",
    "let", "loop", "macro", "match", "mod", "move", "mut", "override", "priv", "pub", "ref",
    "return", "Self", "self", "static", "struct", "super", "trait", "true", "try", "type",
    "typeof", "unsafe", "unsized", "use", "virtual", "where", "while", "yield", "_"]

namespace Reader

variable {α : Type}

/-! ### What comes next -/

/-- What follows an operator that the lexemes begin with. All marks of it but the
    last have another one right behind them; what is behind the last does not matter. -/
def afterOp? : List Char → List Lexeme → Option (List Lexeme)
  | [], rest => some rest
  | [c], .mark d _ :: rest => if c = d then some rest else none
  | c :: cs, .mark d true :: rest => if c = d then afterOp? cs rest else none
  | _, _ => none

/-- Whether the lexemes begin with an operator. -/
def startsOp (op : String) (lexemes : List Lexeme) : Bool :=
  (afterOp? op.toList lexemes).isSome

/-- Whether the lexemes begin with a word. -/
def startsWord (word : String) : List Lexeme → Bool
  | .name text :: _ => text == word
  | _ => false

/-- Whether the lexemes begin with an identifier. -/
def startsIdent : List Lexeme → Bool
  | .name text :: _ => !reservedWords.contains text
  | _ => false

/-- Whether the lexemes begin with a lifetime. -/
def startsLifetime : List Lexeme → Bool
  | .lifetime _ :: _ => true
  | _ => false

/-- Whether the lexemes begin with a group in the given brackets. -/
def startsGroup (delimiter : Delimiter) : List Lexeme → Bool
  | .group d _ :: _ => d = delimiter
  | _ => false

/-- Whether a literal is a number. -/
def isNumber (value : Literal) : Bool :=
  value.kind = .int || value.kind = .float

/-- Whether the lexemes begin with a literal: the truth values are literals, and so
    is a number with a minus sign. -/
def startsLiteral : List Lexeme → Bool
  | .literal _ :: _ => true
  | .mark '-' _ :: .literal value :: _ => isNumber value
  | lexemes => startsWord "true" lexemes || startsWord "false" lexemes

/-- Whether an operator comes next. -/
def peekOp (op : String) : Reader Bool := do
  return startsOp op (← get)

/-- Whether a word comes next. -/
def peekWord (word : String) : Reader Bool := do
  return startsWord word (← get)

/-- Whether one of the words comes next. -/
def peekWords (words : List String) : Reader Bool := do
  return words.any (startsWord · (← get))

/-- Whether an identifier comes next. -/
def peekIdent : Reader Bool := do
  return startsIdent (← get)

/-- Whether a lifetime comes next. -/
def peekLifetime : Reader Bool := do
  return startsLifetime (← get)

/-- Whether a literal comes next. -/
def peekLiteral : Reader Bool := do
  return startsLiteral (← get)

/-- Whether a group in the given brackets comes next. -/
def peekGroup (delimiter : Delimiter) : Reader Bool := do
  return startsGroup delimiter (← get)

/-- Whether no lexeme is left. -/
def atEnd : Reader Bool := do
  return (← get).isEmpty

/-! ### Single tokens -/

/-- Takes an operator. -/
def op (text : String) : Reader CodeToken := do
  match afterOp? text.toList (← get) with
  | some rest =>
    set rest
    return .word text
  | none => failure

/-- Takes an operator, if it comes next. -/
def op? (text : String) : Reader (List CodeToken) := do
  if ← peekOp text then return [← op text] else return []

/-- Takes a name, reserved or not. -/
def name : Reader String := do
  match ← get with
  | .name text :: rest =>
    set rest
    return text
  | _ => failure

/-- Takes a word. -/
def word (text : String) : Reader CodeToken := do
  if (← name) = text then return .word text else failure

/-- Takes a word, if it comes next. -/
def word? (text : String) : Reader (List CodeToken) := do
  if ← peekWord text then return [← word text] else return []

/-- Takes an identifier. -/
def ident : Reader CodeToken := do
  if ← peekIdent then return .word (← name) else failure

/-- Takes a lifetime. -/
def lifetime : Reader CodeToken := do
  match ← get with
  | .lifetime text :: rest =>
    set rest
    return .word text
  | _ => failure

/-- Takes a lifetime, if it comes next. -/
def lifetime? : Reader (List CodeToken) := do
  if ← peekLifetime then return [← lifetime] else return []

/-- Takes a literal. -/
def literal : Reader (List CodeToken) := do
  match ← get with
  | .literal value :: rest =>
    set rest
    return [.word value.text]
  | .mark '-' _ :: .literal value :: rest =>
    if isNumber value then
      set rest
      return [.word "-", .word value.text]
    else failure
  | .name text :: rest =>
    if text = "true" || text = "false" then
      set rest
      return [.word text]
    else failure
  | _ => failure

/-! ### Groups and lists -/

/-- The result of a reader that takes all lexemes. -/
def whole (reader : Reader α) (lexemes : List Lexeme) : Option α :=
  match reader lexemes with
  | some (a, []) => some a
  | _ => none

/-- Takes a group in the given brackets; a reader takes all that is in it. -/
def inGroup (delimiter : Delimiter) (reader : Reader α) : Reader α := do
  match ← get with
  | .group d body :: rest =>
    if d = delimiter then
      match whole reader body with
      | some a =>
        set rest
        return a
      | none => failure
    else failure
  | _ => failure

/-- Takes a group in the given brackets, as a token. -/
def group (delimiter : Delimiter) (reader : Reader (List CodeToken)) : Reader CodeToken := do
  return .group delimiter (← inGroup delimiter reader)

/-- Takes a group in any brackets with whatever is in it. -/
def anyGroup : Reader CodeToken := do
  match ← get with
  | .group delimiter body :: rest =>
    set rest
    return .group delimiter (Lexeme.asWritten body)
  | _ => failure

/-- The elements that are left, separated by commas; there may be one at the end,
    too. There are at most `fuel` of them. -/
def commaList (element : Reader (List CodeToken)) : (fuel : Nat) → Reader (List CodeToken)
  | 0 => failure
  | fuel + 1 => do
    if ← atEnd then return []
    let first ← element
    if ← atEnd then return first
    let comma ← op ","
    return first ++ comma :: (← commaList element fuel)

end Reader

end QueryTemplate
