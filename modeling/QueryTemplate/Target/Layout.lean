/-!
# Laying out lines

Lines of code whose depth follows from the blocks that they open and close.

* `Line`: a line that may close the block before it and open one after it;
* `Line.layOut`: lines as text, indented by tabs.
-/

namespace QueryTemplate

/-- A line of code. -/
structure Line where
  /-- Its text. -/
  text : String
  /-- Whether it closes a block, and so is less deep than the lines before it. -/
  closes : Bool := false
  /-- Whether it opens a block, and so is less deep than the lines after it. -/
  opens : Bool := false
deriving DecidableEq

namespace Line

/-- A line that opens a block. -/
def opening (text : String) : Line :=
  { text := text, opens := true }

/-- A line that closes a block and opens the next. -/
def between (text : String) : Line :=
  { text := text, closes := true, opens := true }

/-- The line that closes a block. -/
def closing : Line :=
  { text := "\x7d", closes := true }

/-- The depth of a line that comes after lines of the given depth. -/
def depth (outer : Nat) (line : Line) : Nat :=
  if line.closes then outer - 1 else outer

/-- The depth of the lines after a line. -/
def innerDepth (outer : Nat) (line : Line) : Nat :=
  if line.opens then line.depth outer + 1 else line.depth outer

/-- A line as text at a depth. -/
def indented (depth : Nat) (text : String) : String :=
  String.ofList (List.replicate depth '\t') ++ text ++ "\n"

/-- Lines as text, from a depth on. -/
def layOut (depth : Nat) : List Line → String
  | [] => ""
  | line :: lines =>
    indented (line.depth depth) line.text ++ layOut (line.innerDepth depth) lines

end Line

end QueryTemplate
