import QueryTemplate.SyntaxError

/-!
# Reports

A fault told together with the line of the source that it is in. A caret points
at the place; blanks at the ends of the line are left out, tabs are shown as four
blanks, and of a long line only the surroundings of the caret are shown.

* `Report`: what is told of a fault;
* `Report.text`: the report as text;
* `SyntaxError.report`: the report of a syntax error.
-/

namespace QueryTemplate

/-- What is told of a fault. -/
structure Report where
  /-- The fault in words. -/
  message : String
  /-- The text that the fault is in. -/
  source : String
  /-- Its line, from one. -/
  line : Nat
  /-- Its column, in bytes from one. -/
  column : Nat
  /-- The name of the source. -/
  name : String := "template"
  /-- A remark next to the caret. -/
  annotated : Option String := none
  /-- How the fault is mended. -/
  help : Option String := none

namespace Report

/-- The characters of a line up to this many are shown whole. -/
def maxLength : Nat := 80

/-- This many characters are shown on either side of the caret of a longer line. -/
def surroundings : Nat := 30

/-- How wide a character is shown. -/
def shownWidth (c : Char) : Nat :=
  if c = '\t' then 4 else 1

/-- How wide the characters that start before the byte `column` are shown. -/
def shownColumn (column : Nat) : List Char → Nat
  | [] => 0
  | c :: cs =>
    if column = 0 then 0 else shownWidth c + shownColumn (column - c.utf8Size) cs

/-- The characters with tabs as blanks. -/
def expandTabs (cs : List Char) : List Char :=
  cs.flatMap fun c => if c = '\t' then List.replicate 4 ' ' else [c]

/-- What is shown of a line whose caret is at `caret`, and where the caret is in it. -/
def excerpt (cs : List Char) (caret : Nat) : List Char × Nat :=
  if cs.length ≤ maxLength then (cs, caret)
  else
    let start := min (caret - surroundings) cs.length
    let stop := min (caret + surroundings) cs.length
    let before := if 0 < start then "...".toList else []
    let after := if stop < cs.length then "...".toList else []
    (before ++ (cs.take stop).drop start ++ after, caret - start + before.length)

/-- The line of a report: none if the source does not have it. -/
def content? (r : Report) : Option (List Char) :=
  match r.line with
  | 0 => none
  | line + 1 => (Text.lines r.source.toList)[line]?.map (Text.dropEnd '\r')

/-- So many blanks. -/
def blanks (n : Nat) : String :=
  .ofList (List.replicate n ' ')

/-- The lines of a report that show the source. -/
def snippet (r : Report) (content : List Char) : String :=
  let expanded := expandTabs content
  let leading := expanded.length - (Text.dropBlanks expanded).length
  let (shown, caret) :=
    excerpt (Text.trimmed expanded) (shownColumn (r.column - 1) content - leading)
  let number := toString r.line
  let margin := blanks number.length
  let pointer := margin ++ " | " ++ blanks caret ++ "^ " ++ r.annotated.getD ""
  margin ++ " |\n" ++ number ++ " | " ++ .ofList shown ++ "\n" ++ Text.trimEnd pointer ++ "\n"

/-- The report as text. -/
def text (r : Report) : String :=
  "error: " ++ r.message ++ "\n --> " ++ r.name ++ ":" ++ toString r.line ++ ":" ++
    toString r.column ++ "\n" ++
    (match r.content? with
      | some content => r.snippet content
      | none => "") ++
    (match r.help with
      | some help => "help: " ++ help ++ "\n"
      | none => "")

end Report

/-- The report of a syntax error in a source of the given name. -/
def SyntaxError.report (e : SyntaxError) (source name : String) : Report :=
  { message := e.message
    source := source
    line := e.line
    column := e.column
    name := name
    annotated := e.found.map fun found => "found: " ++ braced found
    help := some e.cause.suggestion }

end QueryTemplate
