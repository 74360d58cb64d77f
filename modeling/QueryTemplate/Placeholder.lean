import QueryTemplate.Text.CharClass
import QueryTemplate.Text.Split

/-!
# Placeholders

A placeholder in the text of a template names what is bound to the query at that
place: `@path` a value, `@@path` a piece of SQL, and `@@table` the table itself.
`\@` is an at sign and no placeholder.

* `Piece.scan`: a text as the sequence of its characters, escapes and placeholders;
* `extract`: the SQL of a text, with a `?` for every placeholder, and what is bound
  there;
* `unescape`: the SQL with its escaped at signs as they are meant.
-/

namespace QueryTemplate

/-- What is bound to a query at a placeholder. -/
inductive Bind where
  /-- The table that the query is about. -/
  | table
  /-- The value of an expression, inserted as SQL. -/
  | raw (expr : String)
  /-- The value of an expression. -/
  | value (expr : String)
deriving DecidableEq

namespace Bind

/-- The expression of a placeholder. -/
def expr? : Bind → Option String
  | table => none
  | raw e | value e => some e

/-- The placeholder as it is written in a template. -/
def text : Bind → String
  | table => "@@table"
  | raw e => "@@" ++ e
  | value e => "@" ++ e

end Bind

/-- The rest of a path of identifiers joined by dots, and what follows it. -/
def pathRest : List Char → List Char × List Char
  | [] => ([], [])
  | [c] => if Text.isAsciiIdentPart c then ([c], []) else ([], [c])
  | c :: d :: cs =>
    if Text.isAsciiIdentPart c then
      let (path, rest) := pathRest (d :: cs)
      (c :: path, rest)
    else if c = '.' && Text.isAsciiIdentStart d then
      let (path, rest) := pathRest cs
      (c :: d :: path, rest)
    else ([], c :: d :: cs)

/-- The path that the characters begin with, and what follows it. -/
def path? : List Char → Option (List Char × List Char)
  | [] => none
  | c :: cs =>
    if Text.isAsciiIdentStart c then
      let (path, rest) := pathRest cs
      some (c :: path, rest)
    else none

/-- What follows the word `table`, if the characters begin with it. -/
def tableWord? (cs : List Char) : Option (List Char) :=
  (Text.stripStart "table".toList cs).filter fun rest => !rest.head?.any Text.isWord

/-- The placeholder that the characters begin with, and what follows it. -/
def Bind.read? : List Char → Option (Bind × List Char)
  | '@' :: '@' :: cs =>
    match tableWord? cs with
    | some rest => some (table, rest)
    | none => (path? cs).map fun (path, rest) => (raw (.ofList path), rest)
  | '@' :: cs => (path? cs).map fun (path, rest) => (value (.ofList path), rest)
  | _ => none

theorem length_pathRest (cs : List Char) : (pathRest cs).2.length ≤ cs.length := by
  fun_induction pathRest cs <;> simp_all <;> omega

theorem length_of_path? {cs path rest : List Char} (h : path? cs = some (path, rest)) :
    rest.length ≤ cs.length := by
  cases cs with
  | nil => simp [path?] at h
  | cons c cs =>
    have := length_pathRest cs
    simp only [path?] at h
    split at h
    · simp only [Option.some.injEq, Prod.mk.injEq] at h
      simp only [← h.2, List.length_cons]
      omega
    · simp at h

/-- A placeholder takes at least one character. -/
theorem Bind.length_of_read? {cs rest : List Char} {b : Bind} (h : Bind.read? cs = some (b, rest)) :
    rest.length < cs.length := by
  unfold Bind.read? at h
  split at h
  · split at h
    · next hw =>
      simp only [Option.some.injEq, Prod.mk.injEq] at h
      simp only [tableWord?, Option.filter_eq_some_iff] at hw
      have := Text.length_of_stripStart hw.1
      simp only [← h.2, List.length_cons]
      omega
    · obtain ⟨⟨path, rest'⟩, hp, heq⟩ := Option.map_eq_some_iff.1 h
      have := length_of_path? hp
      simp only [Prod.mk.injEq] at heq
      simp only [← heq.2, List.length_cons]
      omega
  · obtain ⟨⟨path, rest'⟩, hp, heq⟩ := Option.map_eq_some_iff.1 h
    have := length_of_path? hp
    simp only [Prod.mk.injEq] at heq
    simp only [← heq.2, List.length_cons]
    omega
  · simp at h

/-- A piece of template text. -/
inductive Piece where
  /-- A character that stands for itself. -/
  | char (c : Char)
  /-- An escaped at sign. -/
  | escape
  /-- A placeholder. -/
  | bind (b : Bind)
deriving DecidableEq

namespace Piece

/-- The pieces of a text, from left to right: an escape is found before a
    placeholder, and a placeholder is as long as it can be. -/
def scan (cs : List Char) : List Piece :=
  match cs with
  | [] => []
  | '\\' :: '@' :: cs => escape :: scan cs
  | c :: cs =>
    match h : Bind.read? (c :: cs) with
    | some (b, rest) =>
      have : rest.length ≤ cs.length := Nat.le_of_lt_succ (Bind.length_of_read? h)
      bind b :: scan rest
    | none => char c :: scan cs
termination_by cs.length

/-- The SQL of a piece. -/
def sql : Piece → List Char
  | char c => [c]
  | escape => ['\\', '@']
  | bind _ => ['?']

/-- What a piece binds. -/
def bind? : Piece → Option Bind
  | bind b => some b
  | _ => none

end Piece

/-- The SQL of a text and what its placeholders bind. -/
structure Extract where
  /-- The SQL, with a `?` for every placeholder. -/
  sql : String
  /-- What is bound, in the order of the placeholders. -/
  binds : List Bind
deriving DecidableEq

/-- The SQL of a text, and what its placeholders bind. -/
def extract (text : String) : Extract :=
  let pieces := Piece.scan text.toList
  { sql := .ofList (pieces.flatMap Piece.sql)
    binds := pieces.filterMap Piece.bind? }

/-- Characters with their escaped at signs as at signs. -/
def unescaped : List Char → List Char
  | '\\' :: '@' :: cs => '@' :: unescaped cs
  | c :: cs => c :: unescaped cs
  | [] => []

/-- SQL with its escaped at signs as at signs. -/
def unescape (sql : String) : String :=
  .ofList (unescaped sql.toList)

end QueryTemplate
