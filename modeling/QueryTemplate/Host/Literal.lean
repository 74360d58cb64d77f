import QueryTemplate.Text.CharClass
import QueryTemplate.Text.Split

/-!
# Literals of host expressions

The numbers, strings and characters of Rust, recognised from the front of a text.
A literal is kept as it is written.

* `Literal.read?`: the literal that the characters begin with;
* `Literal.place?`: the place in a tuple that a whole number stands for;
* `Literal.places?`: the places that a number with a decimal point stands for.
-/

namespace QueryTemplate

/-- The kinds of literals that the grammar tells apart. -/
inductive LiteralKind where
  /-- A number without a decimal point or exponent. -/
  | int
  /-- A number with a decimal point or exponent. -/
  | float
  /-- A string. -/
  | string
  /-- Any other: a character, or a string or character of bytes. -/
  | other
deriving DecidableEq

/-- A literal. -/
structure Literal where
  /-- Its kind. -/
  kind : LiteralKind
  /-- How it is written. -/
  text : String
deriving DecidableEq

namespace Literal

/-- What is read from the front of the characters, and what follows it. -/
abbrev Read := Option (List Char × List Char)

/-- What is read with `taken` in front of it. -/
def Read.after (taken : List Char) (r : Read) : Read :=
  r.map fun (more, rest) => (taken ++ more, rest)

/-- The identifier that the characters begin with. -/
def ident? : List Char → Read
  | [] => none
  | c :: cs =>
    if Text.isIdentStart c then
      some (c :: cs.takeWhile Text.isIdentPart, cs.dropWhile Text.isIdentPart)
    else none

/-- The characters read, followed by an identifier if there is one. -/
def withSuffix (taken rest : List Char) : List Char × List Char :=
  match ident? rest with
  | some (suffix, rest) => (taken ++ suffix, rest)
  | none => (taken, rest)

/-! ### Numbers -/

/-- Whether a character is a decimal digit or an underscore. -/
def isDigitPart (c : Char) : Bool :=
  c.isDigit || c == '_'

/-- The value of a digit. -/
def digitValue? (c : Char) : Option Nat :=
  if c.isDigit then some (c.toNat - '0'.toNat)
  else if 'a' ≤ c && c ≤ 'f' then some (c.toNat - 'a'.toNat + 10)
  else if 'A' ≤ c && c ≤ 'F' then some (c.toNat - 'A'.toNat + 10)
  else none

/-- The number that digits to a base spell; what is no digit does not count. -/
def valueTo (base : Nat) (digits : List Char) : Nat :=
  (digits.filterMap digitValue?).foldl (fun n d => base * n + d) 0

/-- Whether a character is a hexadecimal digit. -/
def isHexDigit (c : Char) : Bool :=
  (digitValue? c).isSome

/-- Whether a character goes on with the digits of a number to a base; letters that
    are no digits to the base end them. -/
def isDigitTo (base : Nat) (c : Char) : Bool :=
  c == '_' || c.isDigit || (digitValue? c).any (· < base)

/-- The digits to a base that the characters begin with: at least one, none too large. -/
def digits? (base : Nat) (cs : List Char) : Read :=
  let digits := cs.takeWhile (isDigitTo base)
  let values := digits.filterMap digitValue?
  if values.isEmpty || values.any (base ≤ ·) then none
  else some (digits, cs.dropWhile (isDigitTo base))

/-- The base that a whole number is written to, the characters that say so, and
    those that follow. -/
def base : List Char → Nat × List Char × List Char
  | '0' :: 'x' :: cs => (16, ['0', 'x'], cs)
  | '0' :: 'o' :: cs => (8, ['0', 'o'], cs)
  | '0' :: 'b' :: cs => (2, ['0', 'b'], cs)
  | cs => (10, [], cs)

/-- The digits of a whole number that the characters begin with. -/
def wholeDigits? (cs : List Char) : Read :=
  if cs.head?.any Char.isDigit then
    let (base, mark, rest) := base cs
    (digits? base rest).after mark
  else none

/-- The rest of an exponent: at most one sign before its digits, and at least one digit. -/
def exponentRest? (sign value : Bool) : List Char → Read
  | [] => if value then some ([], []) else none
  | c :: cs =>
    if c.isDigit then Read.after [c] (exponentRest? sign true cs)
    else if c == '_' then Read.after [c] (exponentRest? sign value cs)
    else if (c == '+' || c == '-') && !value then
      if sign then none else Read.after [c] (exponentRest? true value cs)
    else if value then some ([], c :: cs)
    else none

/-- The exponent that the characters begin with. -/
def exponent? : List Char → Read
  | c :: cs => if c == 'e' || c == 'E' then Read.after [c] (exponentRest? false false cs) else none
  | [] => none

/-- The digits of a number with a decimal point or exponent. A point is none of
    the number if a point or a name follows it. -/
def floatDigits? (cs : List Char) : Read :=
  if !cs.head?.any Char.isDigit then none
  else
    let whole := cs.takeWhile isDigitPart
    match cs.dropWhile isDigitPart with
    | '.' :: rest =>
      if rest.head?.any fun c => c == '.' || Text.isIdentStart c then none
      else
        let taken := whole ++ '.' :: rest.takeWhile isDigitPart
        let rest := rest.dropWhile isDigitPart
        some (((exponent? rest).after taken).getD (taken, rest))
    | rest => (exponent? rest).after whole

/-- The digits read with a suffix, if no other character of a name follows. -/
def finishNumber? : List Char × List Char → Read
  | (digits, rest) =>
    let (taken, rest) := withSuffix digits rest
    if rest.head?.any Text.isIdentPart then none else some (taken, rest)

/-- The number that the characters begin with. -/
def number? (cs : List Char) : Option (Literal × List Char) :=
  match (floatDigits? cs).bind finishNumber?, (wholeDigits? cs).bind finishNumber? with
  | some (text, rest), _ => some (⟨.float, .ofList text⟩, rest)
  | none, some (text, rest) => some (⟨.int, .ofList text⟩, rest)
  | none, none => none

/-- The place in a tuple that a whole number without a suffix stands for; it has at
    most thirty-two bits. -/
def place? (l : Literal) : Option Nat :=
  match l.kind, wholeDigits? l.text.toList with
  | .int, some (digits, []) =>
    let (base, _, digits) := base digits
    let n := valueTo base digits
    if n < 0x100000000 then some n else none
  | _, _ => none

/-- The place in a tuple that characters spell. -/
def placeOf? (cs : List Char) : Option Nat :=
  match number? cs with
  | some (l, []) => l.place?
  | _ => none

/-- The places that a number with a decimal point stands for after a dot, and
    whether a dot follows them: `0.1` are two, and `0.` is one with a dot. -/
def places? (l : Literal) : Option (List Nat × Bool) :=
  let pieces := Text.splitChar '.' l.text.toList
  let dot := pieces.getLast? = some []
  let pieces := if dot then pieces.dropLast else pieces
  (pieces.mapM placeOf?).map fun places => (places, dot)

/-! ### Strings and characters -/

/-- What stands between quotes. -/
inductive Content where
  /-- Characters. -/
  | text
  /-- Bytes: only ASCII, and escapes for the others. -/
  | bytes
  /-- Characters other than NUL. -/
  | terminated
deriving DecidableEq

/-- The characters that stand for one after a backslash. -/
def Content.escapes : Content → String
  | terminated => "nrt\\'\""
  | _ => "nrt\\'\"0"

/-- Whether a character may stand for itself. -/
def Content.allows : Content → Char → Bool
  | text, _ => true
  | bytes, c => c.toNat < 0x80
  | terminated, c => c.toNat != 0

/-- Whether two hexadecimal digits may follow `\x`. -/
def Content.allowsHex : Content → Char → Char → Bool
  | text, a, b => '0' ≤ a && a ≤ '7' && isHexDigit b
  | bytes, a, b => isHexDigit a && isHexDigit b
  | terminated, a, b => isHexDigit a && isHexDigit b && !(a == '0' && b == '0')

/-- Whether the digits between braces name a character: one to six, with
    underscores only after the first. -/
def isCodePoint (cs : List Char) : Bool :=
  let n := valueTo 16 cs
  cs.head?.any isHexDigit && cs.all (fun c => isHexDigit c || c == '_') &&
    (cs.filterMap digitValue?).length ≤ 6 && (n < 0xD800 || (0xDFFF < n && n < 0x110000))

/-- Whether the digits between braces may follow `\u`. -/
def Content.allowsCodePoint : Content → List Char → Bool
  | text, cs => isCodePoint cs
  | bytes, _ => false
  | terminated, cs => isCodePoint cs && valueTo 16 cs != 0

/-- The escape that the characters after a backslash begin with. -/
def escape? (content : Content) : List Char → Read
  | 'x' :: a :: b :: cs => if content.allowsHex a b then some (['x', a, b], cs) else none
  | 'u' :: '\x7b' :: cs =>
    let point := cs.takeWhile (· != '\x7d')
    match cs.dropWhile (· != '\x7d') with
    | '\x7d' :: rest =>
      if content.allowsCodePoint point then some ('u' :: '\x7b' :: point ++ ['\x7d'], rest)
      else none
    | _ => none
  | c :: cs => if content.escapes.toList.contains c then some ([c], cs) else none
  | [] => none

/-- The rest of a string up to its closing quote. A line break may be escaped; a
    carriage return has to belong to one. -/
def stringRest? (content : Content) (cs : List Char) : Read :=
  match cs with
  | [] => none
  | '"' :: cs => some (['"'], cs)
  | '\\' :: '\n' :: cs => (stringRest? content cs).after ['\\', '\n']
  | '\\' :: '\r' :: '\n' :: cs => (stringRest? content cs).after ['\\', '\r', '\n']
  | '\\' :: cs =>
    match escape? content cs with
    | some (taken, rest) =>
      if rest.length ≤ cs.length then (stringRest? content rest).after ('\\' :: taken) else none
    | none => none
  | '\r' :: '\n' :: cs => (stringRest? content cs).after ['\r', '\n']
  | c :: cs =>
    if c = '\r' || !content.allows c then none else (stringRest? content cs).after [c]
termination_by cs.length

/-- The rest of a raw string up to the quote with its hashes. -/
def rawRest? (content : Content) (stop : List Char) : List Char → Read
  | [] => none
  | c :: cs =>
    match Text.stripStart stop (c :: cs) with
    | some rest => some (stop, rest)
    | none =>
      if (c = '\r' && cs.head? != some '\n') || !content.allows c then none
      else (rawRest? content stop cs).after [c]

/-- The raw string after its first letters. -/
def rawString? (content : Content) (cs : List Char) : Read :=
  let hashes := cs.takeWhile (· == '#')
  match cs.dropWhile (· == '#') with
  | '"' :: rest =>
    if hashes.length < 256 then
      (rawRest? content ('"' :: hashes) rest).after (hashes ++ ['"'])
    else none
  | _ => none

/-- The character between quotes that the characters begin with. -/
def character? (content : Content) : List Char → Read
  | '\'' :: '\\' :: cs =>
    match escape? content cs with
    | some (taken, '\'' :: rest) => some ('\'' :: '\\' :: taken ++ ['\''], rest)
    | _ => none
  | '\'' :: c :: '\'' :: rest => if content.allows c then some (['\'', c, '\''], rest) else none
  | _ => none

/-- The string or character that the characters begin with, and what it is. -/
def quotedText? : List Char → Option (LiteralKind × List Char × List Char)
  | '"' :: cs => ((stringRest? .text cs).after ['"']).map (.string, ·)
  | 'r' :: cs => ((rawString? .text cs).after ['r']).map (.string, ·)
  | 'b' :: '"' :: cs => ((stringRest? .bytes cs).after ['b', '"']).map (.other, ·)
  | 'b' :: 'r' :: cs => ((rawString? .bytes cs).after ['b', 'r']).map (.other, ·)
  | 'b' :: cs => ((character? .bytes cs).after ['b']).map (.other, ·)
  | 'c' :: '"' :: cs => ((stringRest? .terminated cs).after ['c', '"']).map (.other, ·)
  | 'c' :: 'r' :: cs => ((rawString? .terminated cs).after ['c', 'r']).map (.other, ·)
  | cs => (character? .text cs).map (.other, ·)

/-- The literal that the characters begin with. -/
def read? (cs : List Char) : Option (Literal × List Char) :=
  match quotedText? cs with
  | some (kind, taken, rest) =>
    let (text, rest) := withSuffix taken rest
    some (⟨kind, .ofList text⟩, rest)
  | none => number? cs

end Literal

end QueryTemplate
