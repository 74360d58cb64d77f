import QueryTemplate.Clause
import QueryTemplate.Token
import QueryTemplate.Placeholder

/-!
# Items

A query can be written as a sequence of items: a character of its SQL, or a marker,
which stands for one `?` and carries the placeholder that it is written for and the
value that is bound there. A marker cannot be taken apart. Read off, the items give
SQL and parameters; finishing a clause on its items gives what finishing it on its
SQL gives, with all markers still there.

* `Item`: characters and markers;
* `Item.query`: SQL and parameters of items;
* `Item.addClause`: items with a clause appended, finished on its own items;
* `query_addClause`: which gives the query with the clause appended.
-/

namespace QueryTemplate

/-- A placeholder in a template. -/
structure Origin where
  /-- The literal that it stands in. -/
  token : Token
  /-- The number of placeholders before it in that literal. -/
  index : Nat
deriving DecidableEq

/-- A part of a query that cannot be taken apart. -/
inductive Item (α : Type) where
  /-- A character. -/
  | char (c : Char)
  /-- The mark for a placeholder, with what is bound there. -/
  | marker (origin : Origin) (bind : Bind) (value : α)

namespace Item

variable {α β : Type}

/-- The character in the SQL. -/
def symbol : Item α → Char
  | char c => c
  | marker .. => '?'

/-- The value that an item carries. -/
def value? : Item α → Option α
  | char _ => none
  | marker _ _ value => some value

/-- The query that items are read off as. -/
def query (items : List (Item α)) : Query α :=
  { sql := .ofList (items.map symbol), params := items.filterMap value? }

/-- The markers among items: their placeholders, with the values that they carry. -/
def markers : List (Item α) → List (Origin × Bind × α)
  | [] => []
  | char _ :: items => markers items
  | marker origin bind value :: items => (origin, bind, value) :: markers items

/-- The item with another value. -/
def map (f : α → β) : Item α → Item β
  | char c => char c
  | marker origin bind value => marker origin bind (f value)

/-- The items of a text without placeholders. -/
def ofText (text : String) : List (Item α) :=
  text.toList.map char

theorem toList_sql (items : List (Item α)) : (query items).sql.toList = items.map symbol :=
  String.toList_ofList

theorem params_eq_map_markers (items : List (Item α)) :
    (query items).params = (markers items).map (·.2.2) := by
  induction items with
  | nil => rfl
  | cons item items ih =>
    cases item with
    | char c => exact ih
    | marker origin bind value => exact congrArg (value :: ·) ih

theorem marker_mem_of_mem_markers {items : List (Item α)} {origin : Origin} {bind : Bind}
    {value : α} (h : (origin, bind, value) ∈ markers items) : marker origin bind value ∈ items := by
  induction items with
  | nil => cases h
  | cons item items ih =>
    cases item with
    | char c => exact List.mem_cons_of_mem _ (ih h)
    | marker origin' bind' value' =>
      rcases List.mem_cons.1 h with h | h
      · cases h
        exact List.mem_cons_self
      · exact List.mem_cons_of_mem _ (ih h)

theorem query_append (items more : List (Item α)) :
    query (items ++ more) =
      { sql := (query items).sql ++ (query more).sql
        params := (query items).params ++ (query more).params } := by
  simp [query, String.ofList_append]

theorem sql_concat (items : List (Item α)) (item : Item α) (cs : List Char) :
    (query (items ++ [item])).sql ++ .ofList cs =
      (query items).sql ++ .ofList (item.symbol :: cs) := by
  rw [query, query, ← String.ofList_append, ← String.ofList_append, List.map_append,
    List.append_assoc]
  rfl

theorem params_concat_char (items : List (Item α)) (c : Char) :
    (query (items ++ [char c])).params = (query items).params := by
  rw [query, List.filterMap_append]
  exact List.append_nil _

theorem params_concat_marker (items : List (Item α)) (origin : Origin) (bind : Bind) (value : α) :
    (query (items ++ [marker origin bind value])).params = (query items).params ++ [value] := by
  rw [query, List.filterMap_append]
  rfl

theorem sql_ofText (text : String) : (query (ofText text : List (Item α))).sql = text := by
  have hsymbol : (symbol : Item α → Char) ∘ char = id := rfl
  simp [query, ofText, hsymbol]

theorem params_ofText (text : String) : (query (ofText text : List (Item α))).params = [] := by
  simp [query, ofText, value?]

/-! ## Finishing clauses -/

/-- The character that an item is. -/
def char? : Item α → Option Char
  | char c => some c
  | marker .. => none

/-- Whether an item is a blank. -/
def isBlank (item : Item α) : Bool :=
  item.char?.any Text.isBlank

/-- The items from the first that is not blank. -/
def dropBlanks (items : List (Item α)) : List (Item α) :=
  items.dropWhile isBlank

/-- The items up to the last that is not blank. -/
def dropBlanksEnd (items : List (Item α)) : List (Item α) :=
  (dropBlanks items.reverse).reverse

/-- The items from the first to the last that is not blank. -/
def trimmed (items : List (Item α)) : List (Item α) :=
  dropBlanksEnd (dropBlanks items)

/-- What follows a word that the items begin with, in whatever case they spell it. -/
def afterWord? : List Char → List (Item α) → Option (List (Item α))
  | [], items => some items
  | _ :: _, [] => none
  | w :: word, item :: items =>
    if item.char?.map Char.toLower = some w then afterWord? word items else none

/-- The items without a connective at their start and the blanks after it. -/
def dropLeadingConnective (items : List (Item α)) : List (Item α) :=
  match connectives.findSome? (afterWord? · items) with
  | some [] => []
  | some (item :: rest) => if item.isBlank then dropBlanks rest else items
  | none => items

/-- The items without a connective at their end and the blanks before it. -/
def dropTrailingConnective (items : List (Item α)) : List (Item α) :=
  match connectives.findSome? fun word => afterWord? word.reverse items.reverse with
  | some (item :: before) => if item.isBlank then (dropBlanks before).reverse else items
  | _ => items

/-- The items without one comma at their end and the blanks before it. -/
def dropTrailingComma (items : List (Item α)) : List (Item α) :=
  match items.reverse with
  | [] => []
  | item :: before => if item.char? = some ',' then dropBlanksEnd before.reverse else items

/-- The items of a clause without what joined its parts to parts left out. -/
def clean : ClauseKind → List (Item α) → List (Item α)
  | .conditions, items => dropTrailingConnective (dropLeadingConnective items)
  | .assignments, items => dropTrailingComma items

/-- The items with a clause appended, one blank apart, if anything is left of it once
    it is finished. -/
def addClause (items : List (Item α)) (kind : ClauseKind) (clause : List (Item α)) :
    List (Item α) :=
  match clean kind (trimmed clause) with
  | [] => items
  | text =>
    let gap := if items.isEmpty || items.getLast?.any isBlank then "" else " "
    items ++ ofText gap ++ ofText kind.head ++ text

/-! ### What is left out -/

/-- The items are a part of other items, up to characters before and after it. -/
def Within (part items : List (Item α)) : Prop :=
  ∃ before after : List Char, items = before.map char ++ part ++ after.map char

namespace Within

variable {items part part' : List (Item α)}

theorem refl (items : List (Item α)) : Within items items :=
  ⟨[], [], by simp⟩

theorem trans (h : Within part part') (h' : Within part' items) : Within part items := by
  obtain ⟨before, after, rfl⟩ := h
  obtain ⟨before', after', rfl⟩ := h'
  exact ⟨before' ++ before, after ++ after', by simp⟩

theorem of_reverse (h : Within part items.reverse) : Within part.reverse items := by
  obtain ⟨before, after, hitems⟩ := h
  exact ⟨after.reverse, before.reverse, by rw [← items.reverse_reverse, hitems]; simp⟩

/-- No marker is left out. -/
theorem params_eq (h : Within part items) : (query part).params = (query items).params := by
  obtain ⟨before, after, rfl⟩ := h
  have hchar (cs : List Char) : (cs.map (char : Char → Item α)).filterMap value? = [] := by
    simp [value?]
  simp only [query, List.filterMap_append, hchar, List.nil_append, List.append_nil]

theorem mem {item : Item α} (h : Within part items) (hitem : item ∈ part) : item ∈ items := by
  obtain ⟨before, after, rfl⟩ := h
  simp [hitem]

theorem cons (h : Within part items) (c : Char) : Within part (char c :: items) := by
  obtain ⟨before, after, rfl⟩ := h
  exact ⟨c :: before, after, rfl⟩

end Within

theorem exists_char_of_isBlank {item : Item α} (h : item.isBlank) : ∃ c, item = char c := by
  cases item with
  | char c => exact ⟨c, rfl⟩
  | marker origin bind value => cases h

theorem within_dropBlanks (items : List (Item α)) : Within (dropBlanks items) items := by
  induction items with
  | nil => exact .refl []
  | cons item items ih =>
    rw [dropBlanks, List.dropWhile_cons]
    split
    · next hblank =>
      obtain ⟨c, rfl⟩ := exists_char_of_isBlank hblank
      exact ih.cons c
    · exact .refl _

theorem within_dropBlanksEnd (items : List (Item α)) : Within (dropBlanksEnd items) items :=
  (within_dropBlanks items.reverse).of_reverse

theorem within_trimmed (items : List (Item α)) : Within (trimmed items) items :=
  (within_dropBlanksEnd _).trans (within_dropBlanks items)

theorem within_of_afterWord? {word : List Char} {items rest : List (Item α)}
    (h : afterWord? word items = some rest) : Within rest items := by
  induction word generalizing items with
  | nil =>
    obtain rfl := Option.some.inj h
    exact .refl _
  | cons w word ih =>
    cases items with
    | nil => cases h
    | cons item items =>
      rw [afterWord?] at h
      split at h
      · cases item with
        | char c => exact (ih h).cons c
        | marker origin bind value =>
          -- A marker is no letter of a word.
          next hw => cases hw
      · cases h

theorem within_of_findSome? {words : List (List Char)} {items rest : List (Item α)}
    (h : words.findSome? (afterWord? · items) = some rest) : Within rest items := by
  obtain ⟨word, _, hword⟩ := List.exists_of_findSome?_eq_some h
  exact within_of_afterWord? hword

theorem within_dropLeadingConnective (items : List (Item α)) :
    Within (dropLeadingConnective items) items := by
  rw [dropLeadingConnective]
  split
  · next hword => exact within_of_findSome? hword
  · next item rest hword =>
    split
    · next hblank =>
      obtain ⟨c, rfl⟩ := exists_char_of_isBlank hblank
      exact (within_dropBlanks rest).trans
        (((Within.refl rest).cons c).trans (within_of_findSome? hword))
    · exact .refl items
  · exact .refl items

theorem within_dropTrailingConnective (items : List (Item α)) :
    Within (dropTrailingConnective items) items := by
  rw [dropTrailingConnective]
  split
  · next item before hword =>
    split
    · next hblank =>
      obtain ⟨c, rfl⟩ := exists_char_of_isBlank hblank
      obtain ⟨word, _, hword⟩ := List.exists_of_findSome?_eq_some hword
      have hbefore := ((Within.refl before).cons c).trans (within_of_afterWord? hword)
      exact ((within_dropBlanks before).trans hbefore).of_reverse
    · exact .refl items
  · exact .refl items

theorem within_dropTrailingComma (items : List (Item α)) :
    Within (dropTrailingComma items) items := by
  rw [dropTrailingComma]
  split
  · next hnil =>
    rw [List.reverse_eq_nil_iff.1 hnil]
    exact .refl []
  · next item before hitems =>
    split
    · next hcomma =>
      cases item with
      | char c =>
        have hbefore : Within before items.reverse := hitems ▸ (Within.refl before).cons c
        exact (within_dropBlanksEnd _).trans hbefore.of_reverse
      | marker origin bind value => cases hcomma
    · exact .refl items

/-- Finishing a clause leaves out characters at its ends only. -/
theorem within_clean (kind : ClauseKind) (items : List (Item α)) :
    Within (clean kind items) items := by
  cases kind with
  | conditions =>
    exact (within_dropTrailingConnective _).trans (within_dropLeadingConnective items)
  | assignments => exact within_dropTrailingComma items

/-! ### What is read off -/

theorem isBlank_symbol (item : Item α) : Text.isBlank item.symbol = item.isBlank := by
  cases item with
  | char c => rfl
  | marker origin bind value => rfl

theorem symbols_dropBlanks (items : List (Item α)) :
    Text.dropBlanks (items.map symbol) = (dropBlanks items).map symbol := by
  have hblank : Text.isBlank ∘ symbol = (isBlank : Item α → Bool) := funext isBlank_symbol
  rw [Text.dropBlanks, List.dropWhile_map, hblank, dropBlanks]

theorem symbols_dropBlanksEnd (items : List (Item α)) :
    Text.dropBlanksEnd (items.map symbol) = (dropBlanksEnd items).map symbol := by
  rw [Text.dropBlanksEnd, ← List.map_reverse]
  exact (congrArg List.reverse (symbols_dropBlanks items.reverse)).trans List.map_reverse.symm

theorem symbols_trimmed (items : List (Item α)) :
    Text.trimmed (items.map symbol) = (trimmed items).map symbol := by
  rw [Text.trimmed, symbols_dropBlanks, symbols_dropBlanksEnd, trimmed]

/-- A marker shows none of the characters that can be left out. -/
theorem char?_eq_some_iff {item : Item α} {c : Char} (h : c ≠ '?') :
    item.char? = some c ↔ item.symbol = c := by
  cases item with
  | char d => simp [char?, symbol]
  | marker origin bind value => simp [char?, symbol, h.symm]

theorem lower_char?_eq_some_iff {item : Item α} {w : Char} (h : w ≠ '?') :
    item.char?.map Char.toLower = some w ↔ item.symbol.toLower = w := by
  cases item with
  | char d => simp [char?, symbol]
  | marker origin bind value => simp [char?, symbol, h.symm]

theorem symbols_afterWord? {word : List Char} (h : '?' ∉ word) (items : List (Item α)) :
    QueryTemplate.afterWord? word (items.map symbol) =
      (afterWord? word items).map (·.map symbol) := by
  induction word generalizing items with
  | nil => rfl
  | cons w word ih =>
    cases items with
    | nil => rfl
    | cons item items =>
      rw [List.mem_cons, not_or] at h
      rw [List.map_cons, QueryTemplate.afterWord?, afterWord?, ih h.2]
      by_cases hw : item.symbol.toLower = w
      · rw [if_pos hw, if_pos ((lower_char?_eq_some_iff (Ne.symm h.1)).2 hw)]
      · rw [if_neg hw, if_neg fun hc => hw ((lower_char?_eq_some_iff (Ne.symm h.1)).1 hc)]
        rfl

theorem symbols_findSome? {words : List (List Char)} (h : ∀ word ∈ words, '?' ∉ word)
    (items : List (Item α)) :
    words.findSome? (QueryTemplate.afterWord? · (items.map symbol)) =
      (words.findSome? (afterWord? · items)).map (·.map symbol) := by
  induction words with
  | nil => rfl
  | cons word words ih =>
    rw [List.findSome?_cons, List.findSome?_cons, symbols_afterWord? (h word List.mem_cons_self)]
    cases afterWord? word items with
    | none => exact ih fun word hword => h word (List.mem_cons_of_mem _ hword)
    | some rest => rfl

theorem symbols_dropLeadingConnective (items : List (Item α)) :
    QueryTemplate.dropLeadingConnective (items.map symbol) =
      (dropLeadingConnective items).map symbol := by
  rw [QueryTemplate.dropLeadingConnective, symbols_findSome? (by decide), dropLeadingConnective]
  cases connectives.findSome? (afterWord? · items) with
  | none => rfl
  | some rest =>
    cases rest with
    | nil => rfl
    | cons item rest =>
      simp only [Option.map_some, List.map_cons, isBlank_symbol, symbols_dropBlanks]
      split <;> rfl

theorem symbols_dropTrailingConnective (items : List (Item α)) :
    QueryTemplate.dropTrailingConnective (items.map symbol) =
      (dropTrailingConnective items).map symbol := by
  have hfind : (connectives.findSome? fun word =>
        QueryTemplate.afterWord? word.reverse (items.map symbol).reverse) =
      (connectives.findSome? fun word => afterWord? word.reverse items.reverse).map
        (·.map symbol) := by
    -- The words at the end are those at the start, read backwards.
    have hreverse : (connectives.map List.reverse).findSome?
        (QueryTemplate.afterWord? · (items.reverse.map symbol)) = _ :=
      symbols_findSome? (by decide) items.reverse
    rwa [List.findSome?_map, List.findSome?_map, List.map_reverse] at hreverse
  rw [QueryTemplate.dropTrailingConnective, hfind, dropTrailingConnective]
  cases connectives.findSome? fun word => afterWord? word.reverse items.reverse with
  | none => rfl
  | some rest =>
    cases rest with
    | nil => rfl
    | cons item before =>
      simp only [Option.map_some, List.map_cons, isBlank_symbol, symbols_dropBlanks]
      split
      · rw [List.map_reverse]
      · rfl

theorem symbols_dropTrailingComma (items : List (Item α)) :
    QueryTemplate.dropTrailingComma (items.map symbol) = (dropTrailingComma items).map symbol := by
  rw [QueryTemplate.dropTrailingComma, dropTrailingComma, Text.stripEnd, ← List.map_reverse]
  cases hitems : items.reverse with
  | nil =>
    rw [List.reverse_eq_nil_iff.1 hitems]
    rfl
  | cons item before =>
    have hcomma : item.char? = some ',' ↔ item.symbol = ',' := char?_eq_some_iff (by decide)
    by_cases hitem : item.symbol = ','
    · simp only [List.map_cons, List.reverse_singleton, Text.stripStart, hitem, if_pos,
        Option.map_some, hcomma.2 hitem, ← List.map_reverse, symbols_dropBlanksEnd]
    · simp only [List.map_cons, List.reverse_singleton, Text.stripStart, Ne.symm hitem, if_false,
        Option.map_none, mt hcomma.1 hitem]

theorem symbols_clean (kind : ClauseKind) (items : List (Item α)) :
    kind.clean (items.map symbol) = (clean kind items).map symbol := by
  cases kind with
  | conditions =>
    rw [ClauseKind.clean, symbols_dropLeadingConnective, symbols_dropTrailingConnective, clean]
  | assignments => rw [ClauseKind.clean, symbols_dropTrailingComma, clean]

theorem endsBlank_sql (items : List (Item α)) :
    Text.endsBlank (query items).sql = items.getLast?.any isBlank := by
  rw [Text.endsBlank, toList_sql, List.getLast?_map, Option.any_map]
  congr 1
  funext item
  exact isBlank_symbol item

theorem isEmpty_sql (items : List (Item α)) : (query items).sql.isEmpty = items.isEmpty := by
  rw [Bool.eq_iff_iff, String.isEmpty_iff, List.isEmpty_iff, query]
  simp

theorem finish_sql (kind : ClauseKind) (clause : List (Item α)) :
    kind.finish (query clause).sql =
      match clean kind (trimmed clause) with
      | [] => none
      | text => some (query text).sql := by
  rw [ClauseKind.finish, toList_sql, symbols_trimmed, symbols_clean]
  cases clean kind (trimmed clause) with
  | nil => rfl
  | cons item items => rfl

/-- Appending a clause finished on its items gives the query with the clause appended. -/
theorem query_addClause (items : List (Item α)) (kind : ClauseKind) (clause : List (Item α)) :
    query (addClause items kind clause) = (query items).addClause kind (query clause) := by
  have hparams := ((within_clean kind _).trans (within_trimmed clause)).params_eq
  rw [Query.addClause, Query.addClause?, finish_sql, isEmpty_sql, endsBlank_sql, addClause]
  split
  · rfl
  · rw [Option.map_some, Option.getD_some, query_append, query_append, query_append, sql_ofText,
      sql_ofText, params_ofText, params_ofText, hparams, List.append_nil, List.append_nil]

theorem mem_ofText {text : String} {item : Item α} (h : item ∈ ofText text)
    (htext : '?' ∉ text.toList) : ∃ c, c ≠ '?' ∧ item = char c := by
  obtain ⟨c, hc, rfl⟩ := List.mem_map.1 h
  exact ⟨c, fun hq => htext (hq ▸ hc), rfl⟩

/-- A clause appended brings its own items and characters that are no `?`. -/
theorem mem_addClause {items clause : List (Item α)} {kind : ClauseKind} {item : Item α}
    (h : item ∈ addClause items kind clause) :
    item ∈ items ∨ item ∈ clause ∨ ∃ c, c ≠ '?' ∧ item = char c := by
  have hwithin := (within_clean kind _).trans (within_trimmed clause)
  rw [addClause] at h
  split at h
  · exact .inl h
  · rcases List.mem_append.1 h with h | h
    · rcases List.mem_append.1 h with h | h
      · rcases List.mem_append.1 h with h | h
        · exact .inl h
        · exact .inr (.inr (mem_ofText h (by split <;> decide)))
      · exact .inr (.inr (mem_ofText h (by cases kind <;> decide)))
    · exact .inr (.inl (hwithin.mem h))

/-! ### Values do not matter

What is left out of a clause does not depend on the values that its markers carry. -/

section Map

variable (f : α → β)

theorem symbol_map (item : Item α) : (item.map f).symbol = item.symbol := by
  cases item <;> rfl

theorem map_id : (map id : Item α → Item α) = id := by
  funext item
  cases item <;> rfl

theorem markers_map (items : List (Item α)) :
    markers (items.map (map f)) = (markers items).map fun m => (m.1, m.2.1, f m.2.2) := by
  induction items with
  | nil => rfl
  | cons item items ih =>
    cases item with
    | char c => exact ih
    | marker origin bind value => exact congrArg (_ :: ·) ih

theorem sql_map (items : List (Item α)) : (query (items.map (map f))).sql = (query items).sql := by
  have hsymbol : symbol ∘ map f = (symbol : Item α → Char) := funext (symbol_map f)
  simp only [query, List.map_map, hsymbol]

theorem char?_map (item : Item α) : (item.map f).char? = item.char? := by
  cases item <;> rfl

theorem isBlank_map (item : Item α) : (item.map f).isBlank = item.isBlank := by
  rw [isBlank, char?_map, isBlank]

theorem dropBlanks_map (items : List (Item α)) :
    dropBlanks (items.map (map f)) = (dropBlanks items).map (map f) := by
  have hblank : isBlank ∘ map f = isBlank := funext (isBlank_map f)
  rw [dropBlanks, List.dropWhile_map, hblank, dropBlanks]

theorem dropBlanksEnd_map (items : List (Item α)) :
    dropBlanksEnd (items.map (map f)) = (dropBlanksEnd items).map (map f) := by
  rw [dropBlanksEnd, ← List.map_reverse, dropBlanks_map, ← List.map_reverse, dropBlanksEnd]

theorem trimmed_map (items : List (Item α)) :
    trimmed (items.map (map f)) = (trimmed items).map (map f) := by
  rw [trimmed, dropBlanks_map, dropBlanksEnd_map, trimmed]

theorem afterWord?_map (word : List Char) (items : List (Item α)) :
    afterWord? word (items.map (map f)) = (afterWord? word items).map (·.map (map f)) := by
  induction word generalizing items with
  | nil => rfl
  | cons w word ih =>
    cases items with
    | nil => rfl
    | cons item items =>
      rw [List.map_cons, afterWord?, afterWord?, char?_map, ih]
      split <;> rfl

theorem dropLeadingConnective_map (items : List (Item α)) :
    dropLeadingConnective (items.map (map f)) = (dropLeadingConnective items).map (map f) := by
  have hfind : connectives.findSome? (afterWord? · (items.map (map f))) =
      (connectives.findSome? (afterWord? · items)).map (·.map (map f)) := by
    rw [List.map_findSome?]
    simp only [afterWord?_map]
    rfl
  rw [dropLeadingConnective, hfind, dropLeadingConnective]
  cases connectives.findSome? (afterWord? · items) with
  | none => rfl
  | some rest =>
    cases rest with
    | nil => rfl
    | cons item rest =>
      simp only [Option.map_some, List.map_cons, isBlank_map, dropBlanks_map]
      split <;> rfl

theorem dropTrailingConnective_map (items : List (Item α)) :
    dropTrailingConnective (items.map (map f)) = (dropTrailingConnective items).map (map f) := by
  have hfind :
      (connectives.findSome? fun word => afterWord? word.reverse (items.map (map f)).reverse) =
      (connectives.findSome? fun word => afterWord? word.reverse items.reverse).map
        (·.map (map f)) := by
    rw [List.map_findSome?, ← List.map_reverse]
    simp only [afterWord?_map]
    rfl
  rw [dropTrailingConnective, hfind, dropTrailingConnective]
  cases connectives.findSome? fun word => afterWord? word.reverse items.reverse with
  | none => rfl
  | some rest =>
    cases rest with
    | nil => rfl
    | cons item before =>
      simp only [Option.map_some, List.map_cons, isBlank_map, dropBlanks_map]
      split
      · rw [List.map_reverse]
      · rfl

theorem dropTrailingComma_map (items : List (Item α)) :
    dropTrailingComma (items.map (map f)) = (dropTrailingComma items).map (map f) := by
  rw [dropTrailingComma, dropTrailingComma, ← List.map_reverse]
  cases items.reverse with
  | nil => rfl
  | cons item before =>
    simp only [List.map_cons, char?_map, ← List.map_reverse, dropBlanksEnd_map]
    split <;> rfl

theorem clean_map (kind : ClauseKind) (items : List (Item α)) :
    clean kind (items.map (map f)) = (clean kind items).map (map f) := by
  cases kind with
  | conditions => rw [clean, dropLeadingConnective_map, dropTrailingConnective_map, clean]
  | assignments => rw [clean, dropTrailingComma_map, clean]

theorem ofText_map (text : String) : (ofText text).map (map f) = ofText text := by
  rw [ofText, ofText, List.map_map]
  rfl

/-- Finishing a clause does not look at values. -/
theorem addClause_map (items : List (Item α)) (kind : ClauseKind) (clause : List (Item α)) :
    addClause (items.map (map f)) kind (clause.map (map f)) =
      (addClause items kind clause).map (map f) := by
  have hgap : (items.map (map f)).getLast?.any isBlank = items.getLast?.any isBlank := by
    rw [List.getLast?_map, Option.any_map]
    simp only [isBlank_map]
  rw [addClause, trimmed_map, clean_map, hgap, List.isEmpty_map, addClause]
  cases clean kind (trimmed clause) with
  | nil => rfl
  | cons item text => simp only [List.map_cons, List.map_append, ofText_map]

end Map

end Item

end QueryTemplate
