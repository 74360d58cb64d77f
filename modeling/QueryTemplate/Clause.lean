import QueryTemplate.Text.Blank
import QueryTemplate.Text.Split

/-!
# Clauses

A template may collect the parts of a `WHERE` or a `SET` clause. Once all are
there, the clause is finished: connectives that joined parts left out are taken
off its ends, and if anything is left it is appended to the query under its head
word.

* `ClauseKind`: the two kinds of clauses;
* `ClauseKind.finish`: the text of a finished clause, if there is any;
* `Query`: SQL with its parameters, and `Query.addClause` to append a clause.
-/

namespace QueryTemplate

/-- The kinds of clauses. -/
inductive ClauseKind where
  /-- The conditions of a query, joined by `and` or `or`. -/
  | conditions
  /-- The assignments of an update, separated by commas. -/
  | assignments
deriving DecidableEq

/-- What follows a word that the characters begin with, in whatever case they
    spell it. The word is in lower case. -/
def afterWord? : (word cs : List Char) → Option (List Char)
  | [], cs => some cs
  | _ :: _, [] => none
  | w :: word, c :: cs => if c.toLower = w then afterWord? word cs else none

/-- The words that join conditions. -/
def connectives : List (List Char) :=
  ["and".toList, "or".toList]

/-- The characters without a connective at their start, if it is a word of its own,
    and without the blanks after it. -/
def dropLeadingConnective (cs : List Char) : List Char :=
  match connectives.findSome? (afterWord? · cs) with
  | some [] => []
  | some (c :: rest) => if Text.isBlank c then Text.dropBlanks rest else cs
  | none => cs

/-- The characters without a connective at their end, if blanks come before it, and
    without these blanks. -/
def dropTrailingConnective (cs : List Char) : List Char :=
  -- Read from right to left, a connective at the end is a word at the start.
  match connectives.findSome? fun word => afterWord? word.reverse cs.reverse with
  | some (c :: before) => if Text.isBlank c then (Text.dropBlanks before).reverse else cs
  | _ => cs

/-- The characters without one comma at their end, and without the blanks before it. -/
def dropTrailingComma (cs : List Char) : List Char :=
  match Text.stripEnd [','] cs with
  | some before => Text.dropBlanksEnd before
  | none => cs

namespace ClauseKind

/-- The word that opens a clause in a template. -/
def keyword : ClauseKind → String
  | conditions => "where"
  | assignments => "set"

/-- The word that opens a clause in SQL. -/
def head : ClauseKind → String
  | conditions => "WHERE "
  | assignments => "SET "

/-- The characters of a clause without what joined its parts to parts left out. -/
def clean : ClauseKind → List Char → List Char
  | conditions, cs => dropTrailingConnective (dropLeadingConnective cs)
  | assignments, cs => dropTrailingComma cs

/-- The text of a finished clause, if there is any. -/
def finish (kind : ClauseKind) (body : String) : Option String :=
  match kind.clean (Text.trimmed body.toList) with
  | [] => none
  | text => some (.ofList text)

end ClauseKind

/-- SQL with the parameters for its placeholders. -/
structure Query (α : Type) where
  /-- The SQL, with a `?` for every parameter. -/
  sql : String := ""
  /-- The parameters, in the order of their placeholders. -/
  params : List α := []

namespace Query

variable {α : Type}

/-- The query with a clause appended, one blank apart; `none` if nothing of the
    clause is left once it is finished. -/
def addClause? (query : Query α) (kind : ClauseKind) (clause : Query α) : Option (Query α) :=
  (kind.finish clause.sql).map fun text =>
    let gap := if query.sql.isEmpty || Text.endsBlank query.sql then "" else " "
    { sql := query.sql ++ gap ++ kind.head ++ text
      params := query.params ++ clause.params }

/-- The query with a clause appended, if anything of it is left. -/
def addClause (query : Query α) (kind : ClauseKind) (clause : Query α) : Query α :=
  (query.addClause? kind clause).getD query

end Query

end QueryTemplate
