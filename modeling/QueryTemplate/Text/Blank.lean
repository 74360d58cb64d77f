/-!
# Blanks

The white space of a template: the characters that separate words, and what is
left of a text when they are taken off its ends.

* `isBlank`: the characters with the Unicode property White_Space;
* `dropBlanks`, `dropBlanksEnd`, `trimmed`: a list of characters without its
  leading blanks, its trailing blanks, or both;
* `trimStart`, `trimEnd`, `trim`: the same on strings.
-/

namespace QueryTemplate.Text

/-- Whether a character is white space: one of the twenty-five characters with
    the Unicode property White_Space. -/
def isBlank (c : Char) : Bool :=
  let n := c.toNat
  n == 0x20 || (0x09 ≤ n && n ≤ 0x0D) || n == 0x85 || n == 0xA0 || n == 0x1680 ||
    (0x2000 ≤ n && n ≤ 0x200A) || n == 0x2028 || n == 0x2029 || n == 0x202F || n == 0x205F ||
    n == 0x3000

/-- The characters from the first that is not blank. -/
def dropBlanks (cs : List Char) : List Char :=
  cs.dropWhile isBlank

/-- The characters up to the last that is not blank. -/
def dropBlanksEnd (cs : List Char) : List Char :=
  (cs.reverse.dropWhile isBlank).reverse

/-- The characters from the first to the last that is not blank. -/
def trimmed (cs : List Char) : List Char :=
  dropBlanksEnd (dropBlanks cs)

/-- A text without its leading blanks. -/
def trimStart (s : String) : String :=
  .ofList (dropBlanks s.toList)

/-- A text without its trailing blanks. -/
def trimEnd (s : String) : String :=
  .ofList (dropBlanksEnd s.toList)

/-- A text without its leading and trailing blanks. -/
def trim (s : String) : String :=
  .ofList (trimmed s.toList)

/-- Whether a text ends in a blank. -/
def endsBlank (s : String) : Bool :=
  s.toList.getLast?.any isBlank

end QueryTemplate.Text
