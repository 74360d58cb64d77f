import QueryTemplate.Program
import QueryTemplate.Settings
import QueryTemplate.Target.Layout
import QueryTemplate.Text.Escape

/-!
# Go source

A program as statements in Go that build its query: a string builder collects the
SQL and a slice the parameters. A clause is collected in variables of its own and
appended when it is closed.

* `goQuoted`: a text as a string literal;
* `Package`: the packages that the statements may import;
* `GoSource.linesOf`: the lines of instructions;
* `GoSource.ofProgram`: the statements of a program.
-/

namespace QueryTemplate

/-- A number in hexadecimal with at least `width` digits. -/
def hexPadded (width n : Nat) : List Char :=
  let digits := Text.hexDigits n
  List.replicate (width - digits.length) '0' ++ digits

/-- The form of a character in a string literal. -/
def goEscaped (c : Char) : List Char :=
  match c with
  | '"' => ['\\', '"']
  | '\\' => ['\\', '\\']
  | '\n' => ['\\', 'n']
  | '\r' => ['\\', 'r']
  | '\t' => ['\\', 't']
  | c =>
    if !Text.isControl c then [c]
    else if c.toNat < 0x80 then '\\' :: 'x' :: hexPadded 2 c.toNat
    else '\\' :: 'u' :: hexPadded 4 c.toNat

/-- A text as a string literal. -/
def goQuoted (s : String) : String :=
  .ofList ('"' :: (s.toList.flatMap goEscaped ++ ['"']))

/-- The packages that the statements may import, in the order of their paths. -/
inductive Package where
  /-- SQL as an expression. -/
  | gorm
  /-- The table of the query. -/
  | clause
  /-- Regular expressions. -/
  | regexp
  /-- String builders. -/
  | strings
  /-- Character classes. -/
  | unicode
deriving DecidableEq

namespace Package

/-- The import path of a package. -/
def path : Package → String
  | gorm => "gorm.io/gorm"
  | clause => "gorm.io/gorm/clause"
  | regexp => "regexp"
  | strings => "strings"
  | unicode => "unicode"

/-- All packages, in the order of their paths. -/
def all : List Package :=
  [gorm, clause, regexp, strings, unicode]

end Package

/-- The package that what a placeholder binds needs. -/
def Bind.package? : Bind → Option Package
  | table => some .clause
  | raw _ => some .gorm
  | value _ => none

/-- The packages that an instruction needs. -/
def Instr.packages : Instr → List Package
  | .bind binds => binds.filterMap Bind.package?
  | .endClause .conditions => [.regexp, .unicode]
  | .endClause .assignments => [.unicode]
  | _ => []

/-- Go statements with what they import. -/
structure GoSource where
  /-- The statements. -/
  body : String
  /-- The packages that they import, in the order of their paths. -/
  imports : List Package
  /-- The variables that collect the query. -/
  sink : Sink

namespace GoSource

/-- The connectives at the ends of a clause, as a regular expression. -/
def connectivePattern : String :=
  "(?i)^\\s*(?:and|or)(?:\\s+|$)|\\s+(?:and|or)\\s*$"

/-- What a placeholder binds, as an expression. -/
def bindExpr : Bind → String
  | .table => "clause.Table\x7bName: clause.CurrentTable\x7d"
  | .raw expr => "gorm.Expr(" ++ expr ++ ")"
  | .value expr => expr

/-- The lines that finish the clause in the variable `c`. -/
def cleanLines : ClauseKind → List Line
  | .conditions =>
    [{ text := "reTrim := regexp.MustCompile(`" ++ connectivePattern ++ "`)" },
      { text := "c = strings.TrimSpace(reTrim.ReplaceAllString(c, \"\"))" }]
  | .assignments => [{ text := "c = strings.TrimSpace(strings.TrimSuffix(c, \",\"))" }]

/-- The lines that open a clause collected in `scratch`. -/
def beginClauseLines (scratch : Sink) : List Line :=
  [.opening "\x7b",
    { text := "var " ++ scratch.buffer ++ " strings.Builder" },
    { text := "var " ++ scratch.params ++ " []any" }]

/-- The lines that close a clause collected in `scratch` and append it to `outer`. -/
def endClauseLines (kind : ClauseKind) (scratch outer : Sink) : List Line :=
  { text := "c := strings.TrimSpace(" ++ scratch.buffer ++ ".String())" } ::
    (cleanLines kind ++
      [.opening "if c != \"\" \x7b",
        .opening ("if n := " ++ outer.buffer ++ ".Len(); n > 0 && !unicode.IsSpace(rune(" ++
          outer.buffer ++ ".String()[n-1])) \x7b"),
        { text := outer.buffer ++ ".WriteString(\" \")" },
        .closing,
        { text := outer.buffer ++ ".WriteString(" ++ goQuoted kind.head ++ ")" },
        { text := outer.buffer ++ ".WriteString(c)" },
        { text := outer.params ++ " = append(" ++ outer.params ++ ", " ++
            scratch.params ++ "...)" },
        .closing,
        .closing])

/-- The innermost of the variables that collect; outside of all, those of the query. -/
def current (s : Settings) (sinks : List Sink) : Sink :=
  sinks.head?.getD s.root

/-- The lines of an instruction, where `sinks` collect, the innermost first. -/
def instrLines (s : Settings) (sinks : List Sink) : Instr → List Line
  | .literal sql =>
    if sql.isEmpty then []
    else [{ text := (current s sinks).buffer ++ ".WriteString(" ++ goQuoted sql ++ ")" }]
  | .bind binds =>
    let params := (current s sinks).params
    [{ text := params ++ " = append(" ++ params ++ ", " ++
        ", ".intercalate (binds.map bindExpr) ++ ")" }]
  | .beginIf condition => [.opening ("if " ++ condition ++ " \x7b")]
  | .elseIf condition => [.between ("\x7d else if " ++ condition ++ " \x7b")]
  | .otherwise => [.between "\x7d else \x7b"]
  | .endIf | .endLoop => [.closing]
  | .beginLoop header => [.opening ("for " ++ header ++ " \x7b")]
  | .beginClause _ => beginClauseLines (s.scratch sinks.length)
  | .endClause kind => endClauseLines kind (sinks.head?.getD {}) (current s sinks.tail)

/-- What collects after an instruction. -/
def sinksAfter (s : Settings) (sinks : List Sink) : Instr → List Sink
  | .beginClause _ => s.scratch sinks.length :: sinks
  | .endClause _ => sinks.tail
  | _ => sinks

/-- The lines of instructions. -/
def linesOf (s : Settings) (sinks : List Sink) : List Instr → List Line
  | [] => []
  | instr :: code => instrLines s sinks instr ++ linesOf s (sinksAfter s sinks instr) code

/-- The lines that declare the variables of a query. -/
def declarations (s : Settings) (capacity : Nat) : List Line :=
  [{ text := "var " ++ s.bufferVar ++ " strings.Builder" },
    { text := s.paramsVar ++ " := make([]any, 0, " ++ toString capacity ++ ")" },
    { text := "" }]

/-- The packages that instructions import. -/
def importsOf (code : List Instr) : List Package :=
  Package.all.filter fun p => p = .strings || code.any (·.packages.contains p)

/-- The statements of a program. -/
def ofProgram (s : Settings) (p : Program) : GoSource :=
  { body := Line.layOut 0 (declarations s p.capacity ++ linesOf s [s.root] p.code)
    imports := importsOf p.code
    sink := s.root }

/-- The lines of the statements that are not blank, without their blanks. -/
def lines (g : GoSource) : List String :=
  ((Text.lines g.body.toList).map fun cs => String.ofList (Text.trimmed cs)).filter
    fun line => !line.isEmpty

end GoSource

end QueryTemplate
