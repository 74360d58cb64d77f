import QueryTemplate.Text.Category

/-!
# Character classes

The classes of characters that the template language and the languages it is
embedded in tell apart. ASCII is decided without a table.

* `isAsciiIdentStart`, `isAsciiIdentPart`: the identifiers of placeholders and
  loop headers;
* `isWord`: the characters of a word, for the boundary after `@@table`;
* `isIdentStart`, `isIdentPart`: the identifiers of host expressions
  (the Unicode properties XID_Start and XID_Continue, with `_` as a start);
* `isControl`, `isExtending`, `isPrintable`: what is escaped in quoted text.

The tables are those of version 17 of the Unicode standard. Words are those of
version 16, and identifiers those of version 18.
-/

namespace QueryTemplate.Text

open Category (covers)

/-- Whether an identifier of the template language may start with the character. -/
def isAsciiIdentStart (c : Char) : Bool :=
  c.isAlpha || c == '_'

/-- Whether an identifier of the template language may go on with the character. -/
def isAsciiIdentPart (c : Char) : Bool :=
  c.isAlphanum || c == '_'

/-- The letters, marks and digits that version 17 of the standard added. -/
def recentWords : List (Nat × Nat) :=
  [(0x088F, 0x088F), (0x0C5C, 0x0C5C), (0x0CDC, 0x0CDC), (0x1ACF, 0x1ADD), (0x1AE0, 0x1AEB),
    (0xA7CE, 0xA7CF), (0xA7D2, 0xA7D2), (0xA7D4, 0xA7D4), (0xA7F1, 0xA7F1), (0x10940, 0x10959),
    (0x10EC5, 0x10EC7), (0x10EFA, 0x10EFB), (0x11B60, 0x11B67), (0x11DB0, 0x11DDB),
    (0x11DE0, 0x11DE9), (0x16EA0, 0x16EB8), (0x16EBB, 0x16ED3), (0x16FF2, 0x16FF6),
    (0x187F8, 0x187FF), (0x18D09, 0x18D1E), (0x18D80, 0x18DF2), (0x1E6C0, 0x1E6DE),
    (0x1E6E0, 0x1E6F5), (0x1E6FE, 0x1E6FF), (0x2B73A, 0x2B73F), (0x2CEA2, 0x2CEAD),
    (0x323B0, 0x33479)]

/-- Whether a character belongs to a word: a letter, a mark, a digit, a connector,
    an encircled letter or a joiner. -/
def isWord (c : Char) : Bool :=
  let n := c.toNat
  if n < 0x80 then isAsciiIdentPart c
  else
    ((covers Category.letters n || covers Category.nonspacingMarks n ||
      covers Category.spacingMarks n) && !covers recentWords n) ||
      covers [(0x200C, 0x200D), (0x24B6, 0x24E9), (0x1F130, 0x1F149), (0x1F150, 0x1F169),
        (0x1F170, 0x1F189)] n

/-- Letters that no identifier may contain, as their compatibility forms start
    with a blank or a mark. -/
def unfitLetters : List (Nat × Nat) :=
  [(0x037A, 0x037A), (0x2E2F, 0x2E2F), (0xFC5E, 0xFC63), (0xFDFA, 0xFDFB), (0xFE70, 0xFE70),
    (0xFE72, 0xFE72), (0xFE74, 0xFE74), (0xFE76, 0xFE76), (0xFE78, 0xFE78), (0xFE7A, 0xFE7A),
    (0xFE7C, 0xFE7C), (0xFE7E, 0xFE7E)]

/-- Letters that an identifier may contain but not start with. -/
def innerLetters : List (Nat × Nat) :=
  [(0x0E33, 0x0E33), (0x0EB3, 0x0EB3), (0xFF9E, 0xFF9F)]

/-- The letters of version 18 of the standard. -/
def laterLetters : List (Nat × Nat) :=
  [(0x0558, 0x0558), (0x058B, 0x058B), (0x208F, 0x208F), (0x209D, 0x209F), (0xA7DD, 0xA7E2),
    (0xAB6C, 0xAB6F), (0x107BB, 0x107BF), (0x12550, 0x12686), (0x16D80, 0x16D9D),
    (0x18E00, 0x19191), (0x1D6A6, 0x1D6A7), (0x3D000, 0x3FC3F)]

/-- The marks and digits of version 18 of the standard. -/
def laterMarks : List (Nat × Nat) :=
  [(0x05C8, 0x05CF), (0x0B53, 0x0B54), (0x1ADE, 0x1ADF), (0x10EF0, 0x10EF9), (0x16DA0, 0x16DA9),
    (0x1D127, 0x1D128)]

/-- Whether an identifier of a host expression may start with the character. -/
def isIdentStart (c : Char) : Bool :=
  let n := c.toNat
  if n < 0x80 then isAsciiIdentStart c
  else
    (covers Category.letters n && !covers unfitLetters n && !covers innerLetters n) ||
      covers laterLetters n || covers [(0x1885, 0x1886), (0x2118, 0x2118), (0x212E, 0x212E)] n

/-- Whether an identifier of a host expression may go on with the character. -/
def isIdentPart (c : Char) : Bool :=
  let n := c.toNat
  if n < 0x80 then isAsciiIdentPart c
  else
    isIdentStart c || covers innerLetters n || covers laterMarks n ||
      covers Category.spacingMarks n ||
      (covers Category.nonspacingMarks n &&
        !covers [(0x0488, 0x0489), (0x1ABE, 0x1ABE), (0x20DD, 0x20E0), (0x20E2, 0x20E4),
          (0xA670, 0xA672)] n) ||
      covers [(0x00B7, 0x00B7), (0x0387, 0x0387), (0x1369, 0x1371), (0x19DA, 0x19DA),
        (0x200C, 0x200D), (0x30FB, 0x30FB), (0xFF65, 0xFF65)] n

/-- Whether a character is a control character (general category Cc). -/
def isControl (c : Char) : Bool :=
  let n := c.toNat
  n ≤ 0x1F || (0x7F ≤ n && n ≤ 0x9F)

/-- Spacing marks, a joiner and tags that extend the character before them. -/
def extendingOthers : List (Nat × Nat) :=
  [(0x09BE, 0x09BE), (0x09D7, 0x09D7), (0x0B3E, 0x0B3E), (0x0B57, 0x0B57), (0x0BBE, 0x0BBE),
    (0x0BD7, 0x0BD7), (0x0CC0, 0x0CC0), (0x0CC2, 0x0CC2), (0x0CC7, 0x0CC8), (0x0CCA, 0x0CCB),
    (0x0CD5, 0x0CD6), (0x0D3E, 0x0D3E), (0x0D57, 0x0D57), (0x0DCF, 0x0DCF), (0x0DDF, 0x0DDF),
    (0x1715, 0x1715), (0x1734, 0x1734), (0x1B35, 0x1B35), (0x1B3B, 0x1B3B), (0x1B3D, 0x1B3D),
    (0x1B43, 0x1B44), (0x1BAA, 0x1BAA), (0x1BF2, 0x1BF3), (0x200C, 0x200C), (0x302E, 0x302F),
    (0xA953, 0xA953), (0xA9C0, 0xA9C0), (0x111C0, 0x111C0), (0x11235, 0x11235),
    (0x1133E, 0x1133E), (0x1134D, 0x1134D), (0x11357, 0x11357), (0x113B8, 0x113B8),
    (0x113C2, 0x113C2), (0x113C5, 0x113C5), (0x113C7, 0x113C9), (0x113CF, 0x113CF),
    (0x114B0, 0x114B0), (0x114BD, 0x114BD), (0x115AF, 0x115AF), (0x116B6, 0x116B6),
    (0x11930, 0x11930), (0x1193D, 0x1193D), (0x11F41, 0x11F41), (0x16FF0, 0x16FF1),
    (0x1D165, 0x1D166), (0x1D16D, 0x1D172), (0xE0020, 0xE007F)]

/-- Whether a character extends the one before it: the Unicode property
    Grapheme_Extend, without the two letters that have it. -/
def isExtending (c : Char) : Bool :=
  let n := c.toNat
  0x80 ≤ n && (covers Category.nonspacingMarks n || covers extendingOthers n)

/-- The letters that fill a place and show nothing. -/
def fillers : List (Nat × Nat) :=
  [(0x115F, 0x1160), (0x3164, 0x3164), (0xFFA0, 0xFFA0)]

/-- Whether a character has a glyph: it is the space or neither a control, a
    format, a separator, a filler, private nor unassigned. -/
def isPrintable (c : Char) : Bool :=
  let n := c.toNat
  if n < 0x80 then 0x20 ≤ n && n < 0x7F
  else !covers Category.unprintable n && !covers fillers n

end QueryTemplate.Text
