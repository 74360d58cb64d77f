import QueryTemplate.Text.CharClass

/-!
# Escaped text

Texts written between double quotes, with escapes for the characters that would
not show as themselves: `"` and `\`, the line feed, carriage return and tab, and
by their code point all that have no glyph or extend the character before them.

* `escaped`: the escaped form of one character;
* `quoted`: a text between quotes;
* `quotedLiteral`: the same, with a NUL kept apart from a digit after it, so that
  the two do not read as an octal escape.
-/

namespace QueryTemplate.Text

/-- The lower-case hexadecimal digits of a number. -/
def hexDigits (n : Nat) : List Char :=
  Nat.toDigits 16 n

/-- The form of a character between double quotes. -/
def escaped (c : Char) : List Char :=
  match c with
  | '\x00' => ['\\', '0']
  | '\t' => ['\\', 't']
  | '\r' => ['\\', 'r']
  | '\n' => ['\\', 'n']
  | '\\' => ['\\', '\\']
  | '"' => ['\\', '"']
  | c =>
    if isPrintable c && !isExtending c then [c]
    else '\\' :: 'u' :: '\x7b' :: (hexDigits c.toNat ++ ['\x7d'])

/-- A text between double quotes. -/
def quoted (s : String) : String :=
  .ofList ('"' :: (s.toList.flatMap escaped ++ ['"']))

/-- The escaped form of a literal's characters: a NUL before an octal digit is
    written in full. -/
def escapedLiteral : List Char → List Char
  | [] => []
  | c :: cs =>
    let head :=
      if c = '\x00' && cs.head?.any (fun d => '0' ≤ d && d ≤ '7') then ['\\', 'x', '0', '0']
      else escaped c
    head ++ escapedLiteral cs

/-- A text as a string literal. -/
def quotedLiteral (s : String) : String :=
  .ofList ('"' :: (escapedLiteral s.toList ++ ['"']))

end QueryTemplate.Text
