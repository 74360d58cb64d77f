import QueryTemplate.Host.CodeToken
import QueryTemplate.Host.Literal
import QueryTemplate.Text.Blank
import QueryTemplate.Text.Escape

/-!
# Lexemes of host expressions

The conditions, loop headers and placeholders of a template that is turned into
Rust are expressions of that language. They are first cut into names, literals and
punctuation marks, with brackets matched.

* `Lexeme`: the lexemes;
* `Lexeme.ofText?`: the lexemes of a text;
* `Lexeme.asWritten`: lexemes as tokens of code, with the marks that stood side by
  side kept together.
-/

namespace QueryTemplate

/-- A lexeme. -/
inductive Lexeme where
  /-- A name, reserved or not. -/
  | name (text : String)
  /-- A literal. -/
  | literal (value : Literal)
  /-- A lifetime, with its apostrophe. -/
  | lifetime (text : String)
  /-- A punctuation mark; `joint` says that another one follows without a blank. -/
  | mark (c : Char) (joint : Bool)
  /-- Lexemes in brackets. -/
  | group (delimiter : Delimiter) (body : List Lexeme)

namespace Lexeme

/-! ### Marks and names -/

/-- Whether the characters begin with a comment. -/
def startsComment : List Char → Bool
  | '/' :: c :: _ => c == '/' || c == '*'
  | _ => false

/-- Whether the characters begin with a punctuation mark. -/
def startsMark : List Char → Bool
  | [] => false
  | c :: cs => "~!@#$%^&*-=+|;:,<.>/?'".toList.contains c && !startsComment (c :: cs)

/-- The punctuation mark that the characters begin with. -/
def mark? : List Char → Option (Lexeme × List Char)
  | [] => none
  | c :: cs =>
    if startsMark (c :: cs) && c != '\'' then some (mark c (startsMark cs), cs) else none

/-- The name that the characters begin with. After `r#` a reserved word is an
    ordinary name. -/
def nameText? : List Char → Option (String × List Char)
  | 'r' :: '#' :: cs =>
    match Literal.ident? cs with
    | some (text, rest) =>
      let word := String.ofList text
      if ["_", "super", "self", "Self", "crate"].contains word then none
      else some ("r#" ++ word, rest)
    | none => none
  | cs => (Literal.ident? cs).map fun (text, rest) => (.ofList text, rest)

/-- What a string or character begins with; if it does not end, it is no name. -/
def literalStarts : List String :=
  ["r\"", "r#\"", "r##", "b\"", "b'", "br\"", "br#", "c\"", "cr\"", "cr#"]

/-- The name that the characters begin with. -/
def name? (cs : List Char) : Option (Lexeme × List Char) :=
  if literalStarts.any fun start => (Text.stripStart start.toList cs).isSome then none
  else (nameText? cs).map fun (text, rest) => (name text, rest)

/-- The lifetime that the characters begin with: neither a quote nor, after an
    ordinary name, a hash may follow it. -/
def lifetime? : List Char → Option (Lexeme × List Char)
  | '\'' :: cs =>
    match nameText? cs with
    | some (text, rest) =>
      let raw := (Text.stripStart ['r', '#'] cs).isSome
      if rest.head? = some '\'' || (rest.head? = some '#' && !raw) then none
      else some (lifetime ("'" ++ text), rest)
    | none => none
  | _ => none

/-- The name, literal or mark that the characters begin with. -/
def leaf? (cs : List Char) : Option (Lexeme × List Char) :=
  match Literal.read? cs with
  | some (value, rest) => some (literal value, rest)
  | none => (mark? cs).orElse fun _ => (lifetime? cs).orElse fun _ => name? cs

/-! ### Blanks and comments -/

/-- The rest of a comment up to where it is closed as often as opened, without the
    closing marks, and what follows them. -/
def commentRest? (depth : Nat) : List Char → Literal.Read
  | '/' :: '*' :: cs => (commentRest? (depth + 1) cs).after ['/', '*']
  | '*' :: '/' :: cs =>
    if depth ≤ 1 then some ([], cs) else (commentRest? (depth - 1) cs).after ['*', '/']
  | c :: cs => (commentRest? depth cs).after [c]
  | [] => none

/-- Whether a character separates lexemes: the marks for the direction of text do, too. -/
def isGap (c : Char) : Bool :=
  Text.isBlank c || c.toNat == 0x200E || c.toNat == 0x200F

/-- What follows the comment that the characters begin with; comments that
    document something are none. -/
def afterComment? : List Char → Option (List Char)
  | '/' :: '/' :: cs =>
    match cs with
    | '!' :: _ => none
    | '/' :: '/' :: _ => some (cs.dropWhile (· != '\n'))
    | '/' :: _ => none
    | _ => some (cs.dropWhile (· != '\n'))
  | '/' :: '*' :: cs =>
    match cs with
    | '!' :: _ => none
    | '*' :: '/' :: rest => some rest
    | '*' :: '*' :: _ => (commentRest? 1 cs).map (·.2)
    | '*' :: _ => none
    | _ => (commentRest? 1 cs).map (·.2)
  | _ => none

/-- The characters without the blanks and comments in front. -/
def skipGap (cs : List Char) : List Char :=
  match cs with
  | [] => []
  | c :: rest =>
    if isGap c then skipGap rest
    else
      match afterComment? (c :: rest) with
      | some after => if after.length ≤ rest.length then skipGap after else c :: rest
      | none => c :: rest
termination_by cs.length

/-- The text of a line, and what follows from its line break on. -/
def lineOf (cs : List Char) : List Char × List Char :=
  let text := cs.takeWhile (· != '\n')
  let rest := cs.dropWhile (· != '\n')
  if rest.isEmpty then (text, rest) else ((Text.stripEnd ['\r'] text).getD text, rest)

/-- The comment that documents something with which the characters begin: whether
    it is about what it stands in, its text, and what follows it. -/
def docComment? : List Char → Option (Bool × List Char × List Char)
  | '/' :: '/' :: '!' :: cs => some (true, lineOf cs)
  | '/' :: '/' :: '/' :: cs => some (false, lineOf cs)
  | '/' :: '*' :: '!' :: cs => (commentRest? 1 cs).map (true, ·)
  | '/' :: '*' :: '*' :: cs => (commentRest? 1 cs).map (false, ·)
  | _ => none

/-- Whether a carriage return stands without a line feed after it. -/
def hasBareReturn : List Char → Bool
  | [] => false
  | c :: cs => (c == '\r' && cs.head? != some '\n') || hasBareReturn cs

/-- The lexemes of the attribute that a comment stands for. -/
def ofDocComment (inner : Bool) (text : List Char) : List Lexeme :=
  let value := literal ⟨.string, Text.quotedLiteral (.ofList text)⟩
  mark '#' false :: (if inner then [mark '!' false] else []) ++
    [group .bracket [name "doc", mark '=' false, value]]

/-! ### Brackets -/

/-- The delimiter that a bracket opens. -/
def opens? : Char → Option Delimiter
  | '(' => some .paren
  | '[' => some .bracket
  | '\x7b' => some .brace
  | _ => none

/-- The delimiter that a bracket closes. -/
def closes? : Char → Option Delimiter
  | ')' => some .paren
  | ']' => some .bracket
  | '\x7d' => some .brace
  | _ => none

/-- The literal that stands for an expression that could not be made. -/
def faultText : String := "(/*ERROR*/)"

/-- The lexemes of the characters after those `read` in the innermost open bracket,
    latest first; `outer` holds the open brackets with what was read before them. -/
def scan? (outer : List (Delimiter × List Lexeme)) (read : List Lexeme) (cs : List Char) :
    Option (List Lexeme) :=
  match skipGap cs with
  | [] => if outer.isEmpty then some read.reverse else none
  | c :: rest =>
    match docComment? (c :: rest) with
    | some (inner, text, after) =>
      if hasBareReturn text then none
      else if after.length < cs.length then
        scan? outer ((ofDocComment inner text).reverse ++ read) after
      else none
    | none =>
      match Text.stripStart faultText.toList (c :: rest) with
      | some after =>
        if after.length < cs.length then
          scan? outer (literal ⟨.other, faultText⟩ :: read) after
        else none
      | none =>
        if rest.length < cs.length then
          match opens? c, closes? c with
          | some delimiter, _ => scan? ((delimiter, read) :: outer) [] rest
          | none, some delimiter =>
            match outer with
            | (opened, before) :: outer =>
              if opened = delimiter then scan? outer (group delimiter read.reverse :: before) rest
              else none
            | [] => none
          | none, none =>
            match leaf? (c :: rest) with
            | some (lexeme, after) =>
              if after.length < cs.length then scan? outer (lexeme :: read) after else none
            | none => none
        else none
termination_by cs.length

/-- The lexemes of a text; a byte order mark in front does not count. -/
def ofText? (text : String) : Option (List Lexeme) :=
  match text.toList with
  | '\ufeff' :: cs => scan? [] [] cs
  | cs => scan? [] [] cs

/-! ### As written -/

/-- The tokens with text right before the first of them. -/
def joined (text : String) : List CodeToken → List CodeToken
  | .word next :: tokens => .word (text ++ next) :: tokens
  | tokens => .word text :: tokens

mutual

/-- The lexeme and the tokens after it, as tokens. -/
def before (tokens : List CodeToken) : Lexeme → List CodeToken
  | name text => .word text :: tokens
  | literal value => .word value.text :: tokens
  | lifetime text => .word text :: tokens
  | mark c true => joined c.toString tokens
  | mark c false => .word c.toString :: tokens
  | group delimiter body => .group delimiter (asWritten body) :: tokens

/-- Lexemes as tokens. -/
def asWritten : List Lexeme → List CodeToken
  | [] => []
  | lexeme :: lexemes => before (asWritten lexemes) lexeme

end

end Lexeme

end QueryTemplate
