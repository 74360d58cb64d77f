import QueryTemplate.Target.GoMethod

/-!
# Doc comments

The comment of an interface method holds its SQL: in the paragraph after the first,
unless that mentions the method, and after the method's name if it begins with it.
`where("…")` and `select("…")` hold a fragment for a chain.

* `DocSql.ofComment`: the SQL in a comment;
* `DocSql.shape`: what the method does with it, from the types of its results.
-/

namespace QueryTemplate

/-- The SQL in a comment. -/
inductive DocSql where
  /-- A statement. -/
  | statement (sql : String)
  /-- A condition for a chain. -/
  | filter (sql : String)
  /-- A selection for a chain. -/
  | select (sql : String)
  /-- No SQL. -/
  | none
deriving DecidableEq

/-- What is wrong with the results of a method. -/
inductive SignatureError where
  /-- There are none. -/
  | missingResult
  /-- There are more than two. -/
  | tooManyResults (count : Nat)
  /-- There is one, and it is no error. -/
  | singleResultNotError
  /-- There are two, and the second is no error. -/
  | secondResultNotError
deriving DecidableEq

/-- The error in words. -/
def SignatureError.message : SignatureError → String
  | missingResult =>
    "finish method must return at least one value (last return value must be error)"
  | tooManyResults count =>
    "maximum number of return values allowed is 2 (first as data, second as error), found " ++
      toString count
  | singleResultNotError => "when only one return value is defined, its type must be error"
  | secondResultNotError => "when two return values are defined, the second must be error"

namespace DocSql

/-- The template in a comment. -/
def template? : DocSql → Option String
  | statement sql | filter sql | select sql => some sql
  | none => .none

/-- The paragraph of a comment that holds the SQL: the first one, if the method is
    mentioned after it, else what comes after it. -/
def paragraph (comment method : List Char) : List Char :=
  match Text.splitOnce ['\n', '\n'] comment with
  | some (head, tail) => if Text.occurs method tail then head else tail
  | .none => comment

/-- The fragment between `opening` and a closing parenthesis, without quotes. -/
def fragment? (opening : String) (sql : List Char) : Option String := do
  let inner ← Text.stripStart opening.toList sql
  let inner ← Text.stripEnd [')'] inner
  return .ofList (Text.trimmed (Text.dropEnd '"' (inner.dropWhile (· == '"'))))

/-- The SQL in the comment of a method. -/
def ofComment (comment method : String) : DocSql :=
  let text := paragraph (Text.trimmed comment.toList) method.toList
  let sql := Text.trimmed ((Text.stripStart method.toList text).getD text)
  match fragment? "where(" sql, fragment? "select(" sql with
  | some inner, _ => filter inner
  | .none, some inner => select inner
  | .none, .none => if sql.isEmpty then none else statement (.ofList sql)

/-- Whether a type is that of errors. -/
def isError (type : String) : Bool :=
  (Text.trimmed type.toList).map Char.toLower == "error".toList

/-- What a method with a statement does, from the types of its results. -/
def statementShape : (results : List String) → Except SignatureError MethodShape
  | [] => .error .missingResult
  | [error] => if isError error then .ok .exec else .error .singleResultNotError
  | [data, error] =>
    if isError error then .ok (.scan (Text.trim data)) else .error .secondResultNotError
  | results => .error (.tooManyResults results.length)

/-- What a method does with its SQL, from the types of its results. -/
def shape (results : List String) : DocSql → Except SignatureError MethodShape
  | filter _ => .ok .filter
  | select _ => .ok .select
  | statement _ | none => statementShape results

end DocSql

end QueryTemplate
