import QueryTemplate.Decimal.NumberFormat
import QueryTemplate.Text.Escape

/-!
# Values

The values that a template is rendered with, and that a rendered query carries as
its parameters.

* `Value`: the type of values;
* `Value.isTruthy`: what counts as true in a condition;
* `Value.text`: how a value reads as SQL text;
* `Value.describe`: a value with its kind, for inspection;
* `Value.same`: equality, in which a number that is not a number differs from
  itself and records are compared field by field.
-/

namespace QueryTemplate

/-- A value bound to a placeholder. -/
inductive Value where
  /-- The absent value. -/
  | null
  /-- A truth value. -/
  | bool (b : Bool)
  /-- A 64-bit integer. -/
  | int (i : Int64)
  /-- A floating-point number. -/
  | float (x : Float)
  /-- A text. -/
  | text (s : String)
  /-- A list of values. -/
  | list (items : List Value)
  /-- A record; no two of its fields have the same name. -/
  | record (fields : List (String × Value))
  /-- The table that the query is about. -/
  | table
  /-- A piece of SQL that is inserted as it stands. -/
  | raw (sql : String)
deriving Inhabited

namespace Value

/-- Whether a value counts as true: it is neither absent, false, zero nor empty. -/
def isTruthy : Value → Bool
  | null => false
  | bool b => b
  | int i => i != 0
  | float x => x != 0.0
  | text s | raw s => !s.isEmpty
  | list items => !items.isEmpty
  | record fields => !fields.isEmpty
  | table => true

/-- The field of a record with the given name. -/
def field? : Value → String → Option Value
  | record fields, name => fields.lookup name
  | _, _ => none

/-- The integer that a value is. -/
def int? : Value → Option Int64
  | int i => some i
  | _ => none

/-- The text that a value is, or the SQL that it stands for. -/
def text? : Value → Option String
  | text s | raw s => some s
  | _ => none

/-- The items of the list that a value is. -/
def list? : Value → Option (List Value)
  | list items => some items
  | _ => none

/-- Numbers in SQL are written out in full. -/
def sqlNumbers : NumberFormat :=
  { bounds := none, keepPoint := false }

/-- Numbers in descriptions keep a decimal point, and have an exponent from
    `10 ^ 16` on and below `10 ^ -4`. -/
def describedNumbers : NumberFormat :=
  { bounds := some (-4, 15), keepPoint := true }

mutual

/-- The text of a value in SQL. -/
def toText : Value → String
  | null => "NULL"
  | bool b => if b then "true" else "false"
  | int i => toString i.toInt
  | float x => sqlNumbers.text x
  | text s | raw s => s
  | list items => "[" ++ ", ".intercalate (toTexts items) ++ "]"
  | record _ => "\x7b..\x7d"
  | table => "@@table"

/-- The texts of a list of values. -/
def toTexts : List Value → List String
  | [] => []
  | v :: vs => v.toText :: toTexts vs

end

/-- The value as a piece of SQL: a text is taken as it stands. -/
def toRaw (v : Value) : Value :=
  raw v.toText

mutual

/-- A value with its kind. -/
def describe : Value → String
  | null => "Null"
  | bool b => if b then "Bool(true)" else "Bool(false)"
  | int i => "Int(" ++ toString i.toInt ++ ")"
  | float x => "Float(" ++ describedNumbers.text x ++ ")"
  | text s => "Text(" ++ Text.quoted s ++ ")"
  | list items => "List([" ++ ", ".intercalate (describeAll items) ++ "])"
  | record fields => "Record(\x7b" ++ ", ".intercalate (describeFields fields) ++ "\x7d)"
  | table => "Table"
  | raw s => "Raw(" ++ Text.quoted s ++ ")"

/-- The descriptions of a list of values. -/
def describeAll : List Value → List String
  | [] => []
  | v :: vs => v.describe :: describeAll vs

/-- The descriptions of named values. -/
def describeFields : List (String × Value) → List String
  | [] => []
  | (name, v) :: rest => (Text.quoted name ++ ": " ++ v.describe) :: describeFields rest

end

mutual

/-- Whether two values are equal. -/
def same : Value → Value → Bool
  | null, null => true
  | bool a, bool b => a == b
  | int a, int b => a == b
  | float a, float b => a == b
  | text a, text b => a == b
  | list as, list bs => sameAll as bs
  | record as, record bs => as.length == bs.length && sameFields as bs
  | table, table => true
  | raw a, raw b => a == b
  | _, _ => false

/-- Whether two lists are equal item by item. -/
def sameAll : List Value → List Value → Bool
  | [], [] => true
  | a :: as, b :: bs => same a b && sameAll as bs
  | _, _ => false

/-- Whether each of the named values is equal to the one of the same name in the other list. -/
def sameFields : List (String × Value) → List (String × Value) → Bool
  | [], _ => true
  | (name, a) :: as, bs =>
    (match bs.lookup name with
      | some b => same a b
      | none => false) && sameFields as bs

end

end Value

end QueryTemplate
