import Mathlib.Data.List.Infix
import QueryTemplate.Proofs.Scanning
import QueryTemplate.Proofs.Writing

/-!
# Sheets

Where a query comes from can be written down beside it. A sheet holds the items of a query,
each with its place in the template, and with whether a line of the template has begun since
the item before it. The blank that the start of a line becomes has the line break for its
place. What a clause adds, its head word and the blank before it, comes from no literal. A
sheet is written as a query is, and its items are the query.

* `Place`: where a character of a query comes from;
* `Token.placed`: the pieces that a literal adds, with their places;
* `Glyph`: an item with where it comes from;
* `Sheet`: the glyphs so far, and whether a line has begun after the last of them;
* `Phrase.ink`: writes phrases on a sheet;
* `items_ink`: the items on the sheet are those of the phrases.
-/

namespace QueryTemplate

variable {σ : Type}

/-! ## Places -/

/-- Where a character of a query comes from. -/
inductive Place where
  /-- From the text of a literal, at an offset in characters. -/
  | inText (token : Token) (offset : Nat)
  /-- From the line break before a literal that begins a line. -/
  | lineBreak (token : Token)
  /-- From the head of a clause, and from no literal. -/
  | head (kind : ClauseKind)
deriving DecidableEq

namespace Place

/-- The literal that a character comes from, if there is one. -/
def token? : Place → Option Token
  | inText token _ | lineBreak token => some token
  | head _ => none

/-- Whether a literal has white space at the place; a line break is white space. -/
def isBlank : Place → Bool
  | inText token offset => token.text.toList[offset]?.any Text.isBlank
  | lineBreak _ => true
  | head _ => false

end Place

/-- Pieces of the text of a literal with their places, the first of them at `offset`. -/
def Piece.placed (token : Token) : (offset : Nat) → List Piece → List (Piece × Place)
  | _, [] => []
  | offset, piece :: pieces =>
    (piece, .inText token offset) :: placed token (offset + piece.text.length) pieces

/-- How many blanks of a literal are the indentation of a line, which is left out. -/
def Token.indent (token : Token) : Nat :=
  if token.lineStart then (token.text.toList.takeWhile Text.isBlank).length else 0

/-- The pieces that a literal adds, with their places. -/
def Token.placed (token : Token) (blank : Bool) : List (Piece × Place) :=
  let pieces := Piece.placed token token.indent (Piece.scan (token.text.toList.drop token.indent))
  if token.lineStart && !blank then (.char ' ', .lineBreak token) :: pieces else pieces

/-! ## Glyphs -/

/-- An item of a query with where it comes from. -/
structure Glyph where
  /-- The item. -/
  item : Item Value
  /-- Where it comes from. -/
  place : Place
  /-- Whether a line of the template has begun between the glyph before and this one. -/
  afterBreak : Bool

/-- The glyphs of a query so far. -/
structure Sheet where
  /-- The glyphs. -/
  glyphs : List Glyph := []
  /-- Whether a line of the template has begun after the last glyph. -/
  broken : Bool := false

namespace Glyph

/-- The glyphs at the end that show what `f` leaves of the items. -/
def keepEnd (f : List (Item Value) → List (Item Value)) (glyphs : List Glyph) : List Glyph :=
  glyphs.drop (glyphs.length - (f (glyphs.map item)).length)

/-- The glyphs at the start that show what `f` leaves of the items. -/
def keepStart (f : List (Item Value) → List (Item Value)) (glyphs : List Glyph) : List Glyph :=
  glyphs.take (f (glyphs.map item)).length

/-- The glyphs of a finished clause. -/
def finish (kind : ClauseKind) (glyphs : List Glyph) : List Glyph :=
  let text := keepStart Item.dropBlanksEnd (keepEnd Item.dropBlanks glyphs)
  match kind with
  | .conditions =>
    keepStart Item.dropTrailingConnective (keepEnd Item.dropLeadingConnective text)
  | .assignments => keepStart Item.dropTrailingComma text

end Glyph

namespace Sheet

/-- The items on a sheet. -/
def items (sheet : Sheet) : List (Item Value) :=
  sheet.glyphs.map Glyph.item

/-- The sheet with an item written at its end. -/
def push (sheet : Sheet) (item : Item Value) (place : Place) : Sheet :=
  { glyphs := sheet.glyphs ++ [⟨item, place, sheet.broken⟩], broken := false }

/-- The sheet with a text of a clause written at its end. -/
def pushText (sheet : Sheet) (kind : ClauseKind) (text : String) : Sheet :=
  text.toList.foldl (fun sheet c => sheet.push (.char c) (.head kind)) sheet

/-- The sheet before a literal is written, which may begin a line. -/
def begin (sheet : Sheet) (token : Token) : Sheet :=
  { sheet with broken := sheet.broken || token.lineStart }

/-- The sheet with a clause appended, one blank apart, if anything is left of it once it is
    finished. A line that begins after all that is left of the clause counts no more. -/
def addClause (sheet : Sheet) (kind : ClauseKind) (clause : Sheet) : Sheet :=
  match Glyph.finish kind clause.glyphs with
  | [] => sheet
  | text =>
    let gap := if sheet.items.isEmpty || sheet.items.getLast?.any Item.isBlank then "" else " "
    let head := (sheet.pushText kind gap).pushText kind kind.head
    { head with glyphs := head.glyphs ++ text }

end Sheet

/-! ## Writing on a sheet -/

/-- Writes the pieces of a literal, of which `index` placeholders are written already. -/
def Piece.ink (scope : Scope σ) (token : Token) :
    (index : Nat) → List (Piece × Place) → Sheet → Rendering σ Sheet
  | _, [], sheet => pure sheet
  | index, (char c, place) :: pieces, sheet =>
    ink scope token index pieces (sheet.push (.char c) place)
  | index, (escape, place) :: pieces, sheet =>
    ink scope token index pieces (sheet.push (.char '@') place)
  | index, (bind b, place) :: pieces, sheet => do
    let value ← scope.param b
    ink scope token (index + 1) pieces (sheet.push (.marker ⟨token, index⟩ b value) place)

namespace Phrase

mutual

/-- Writes a phrase on a sheet; `blank` says whether the text of the body ends in a blank. -/
def inkOf (scope : Scope σ) : Phrase → (blank : Bool) → Sheet → Rendering σ Sheet
  | literal token, blank, sheet => Piece.ink scope token 0 (token.placed blank) (sheet.begin token)
  | clause kind body, _, sheet => do
    let inside ← ink scope body false {}
    return sheet.addClause kind inside
  | loop header body, _, sheet => do
    let count ← scope.enterLoop header
    let sheet ← (List.range count).foldlM (fun sheet i => do
      scope.iteration header i
      ink scope body false sheet) sheet
    modify (scope.exitLoop header)
    return sheet
  | cond condition body branches none, _, sheet => do
    if ← scope.condition condition then ink scope body false sheet
    else inkBranches scope branches sheet (pure sheet)
  | cond condition body branches (some last), _, sheet => do
    if ← scope.condition condition then ink scope body false sheet
    else inkBranches scope branches sheet (ink scope last false sheet)

/-- Writes phrases on a sheet. -/
def ink (scope : Scope σ) : List Phrase → (blank : Bool) → Sheet → Rendering σ Sheet
  | [], _, sheet => pure sheet
  | phrase :: phrases, blank, sheet => do
    let sheet ← inkOf scope phrase blank sheet
    ink scope phrases (phrase.endsBlank blank) sheet

/-- Writes the first of the branches whose condition holds; if there is none, the outcome is
    `otherwise`. -/
def inkBranches (scope : Scope σ) :
    List PhraseBranch → Sheet → Rendering σ Sheet → Rendering σ Sheet
  | [], _, otherwise => otherwise
  | .mk condition body :: branches, sheet, otherwise => do
    if ← scope.condition condition then ink scope body false sheet
    else inkBranches scope branches sheet otherwise

end

end Phrase

/-! ## Pieces of a literal -/

theorem Piece.map_fst_placed (token : Token) (offset : Nat) (pieces : List Piece) :
    (placed token offset pieces).map Prod.fst = pieces := by
  induction pieces generalizing offset with
  | nil => rfl
  | cons piece pieces ih => rw [placed, List.map_cons, ih]

namespace Token

/-- The text of a literal after its indentation. -/
theorem drop_indent {token : Token} (h : token.lineStart) :
    token.text.toList.drop token.indent = (Text.trimStart token.text).toList := by
  have hcut : token.text.toList.takeWhile Text.isBlank ++ Text.dropBlanks token.text.toList =
      token.text.toList := List.takeWhile_append_dropWhile
  have hdrop := congrArg (List.drop (token.text.toList.takeWhile Text.isBlank).length) hcut
  rw [List.drop_left] at hdrop
  rw [Text.trimStart, String.toList_ofList, indent, if_pos h, hdrop]

/-- At the start of a line, a blank comes first if there is none before. -/
theorem pieces_of_lineStart {token : Token} (h : token.lineStart) :
    token.pieces false = .char ' ' :: Piece.scan (Text.trimStart token.text).toList := by
  rw [pieces, joined, if_pos h, if_neg Bool.false_ne_true, String.toList_append]
  exact Piece.scan_blank rfl

theorem map_fst_placed (token : Token) (blank : Bool) :
    (token.placed blank).map Prod.fst = token.pieces blank := by
  rw [placed]
  by_cases h : token.lineStart
  · cases blank with
    | true =>
      rw [if_neg (by simp), Piece.map_fst_placed, drop_indent h, pieces, joined, if_pos h,
        if_pos rfl]
    | false =>
      rw [if_pos (by simp [h]), List.map_cons, Piece.map_fst_placed, drop_indent h,
        pieces_of_lineStart h]
  · have hindent : token.indent = 0 := if_neg h
    rw [if_neg (by simp [h]), Piece.map_fst_placed, hindent, List.drop_zero, pieces, joined,
      if_neg h]

end Token

/-! ## Items left of a clause -/

namespace Item

variable {α : Type}

theorem suffix_dropBlanks (items : List (Item α)) : dropBlanks items <:+ items :=
  List.dropWhile_suffix _

theorem prefix_of_suffix_reverse {items part : List (Item α)} (h : part <:+ items.reverse) :
    part.reverse <+: items := by
  rwa [← List.reverse_suffix, List.reverse_reverse]

theorem prefix_dropBlanksEnd (items : List (Item α)) : dropBlanksEnd items <+: items :=
  prefix_of_suffix_reverse (suffix_dropBlanks items.reverse)

theorem suffix_of_afterWord? {word : List Char} {items rest : List (Item α)}
    (h : afterWord? word items = some rest) : rest <:+ items := by
  induction word generalizing items with
  | nil =>
    obtain rfl := Option.some.inj h
    exact List.suffix_rfl
  | cons w word ih =>
    cases items with
    | nil => cases h
    | cons item items =>
      rw [afterWord?] at h
      split at h
      · exact (ih h).trans (List.suffix_cons item items)
      · cases h

theorem suffix_dropLeadingConnective (items : List (Item α)) :
    dropLeadingConnective items <:+ items := by
  rw [dropLeadingConnective]
  split
  · exact List.nil_suffix
  · next item rest hword =>
    obtain ⟨word, _, hword⟩ := List.exists_of_findSome?_eq_some hword
    split
    · exact (suffix_dropBlanks rest).trans
        ((List.suffix_cons item rest).trans (suffix_of_afterWord? hword))
    · exact List.suffix_rfl
  · exact List.suffix_rfl

theorem prefix_dropTrailingConnective (items : List (Item α)) :
    dropTrailingConnective items <+: items := by
  rw [dropTrailingConnective]
  split
  · next item before hword =>
    obtain ⟨word, _, hword⟩ := List.exists_of_findSome?_eq_some hword
    split
    · exact prefix_of_suffix_reverse ((suffix_dropBlanks before).trans
        ((List.suffix_cons item before).trans (suffix_of_afterWord? hword)))
    · exact List.prefix_rfl
  · exact List.prefix_rfl

theorem prefix_dropTrailingComma (items : List (Item α)) : dropTrailingComma items <+: items := by
  rw [dropTrailingComma]
  split
  · exact List.nil_prefix
  · next item before hitems =>
    split
    · refine (prefix_dropBlanksEnd before.reverse).trans (prefix_of_suffix_reverse ?_)
      rw [hitems]
      exact List.suffix_cons item before
    · exact List.prefix_rfl

end Item

namespace Glyph

variable {f : List (Item Value) → List (Item Value)} {glyphs : List Glyph}

theorem map_item_keepEnd (h : f (glyphs.map item) <:+ glyphs.map item) :
    (keepEnd f glyphs).map item = f (glyphs.map item) := by
  have hdrop := List.suffix_iff_eq_drop.1 h
  rw [keepEnd, List.map_drop]
  rwa [List.length_map, eq_comm] at hdrop

theorem map_item_keepStart (h : f (glyphs.map item) <+: glyphs.map item) :
    (keepStart f glyphs).map item = f (glyphs.map item) := by
  rw [keepStart, List.map_take]
  exact (List.prefix_iff_eq_take.1 h).symm

/-- A finished clause shows what is left of its items. -/
theorem map_item_finish (kind : ClauseKind) (glyphs : List Glyph) :
    (finish kind glyphs).map item = Item.clean kind (Item.trimmed (glyphs.map item)) := by
  have htext : (keepStart Item.dropBlanksEnd (keepEnd Item.dropBlanks glyphs)).map item =
      Item.trimmed (glyphs.map item) := by
    rw [map_item_keepStart (Item.prefix_dropBlanksEnd _),
      map_item_keepEnd (Item.suffix_dropBlanks _)]
    rfl
  cases kind with
  | conditions =>
    rw [finish, map_item_keepStart (Item.prefix_dropTrailingConnective _),
      map_item_keepEnd (Item.suffix_dropLeadingConnective _), htext, Item.clean]
  | assignments =>
    rw [finish, map_item_keepStart (Item.prefix_dropTrailingComma _), htext, Item.clean]

theorem infix_keepEnd (f : List (Item Value) → List (Item Value)) (glyphs : List Glyph) :
    keepEnd f glyphs <:+: glyphs :=
  (List.drop_suffix _ _).isInfix

theorem infix_keepStart (f : List (Item Value) → List (Item Value)) (glyphs : List Glyph) :
    keepStart f glyphs <:+: glyphs :=
  (List.take_prefix _ _).isInfix

/-- A finished clause is a part of the clause. -/
theorem infix_finish (kind : ClauseKind) (glyphs : List Glyph) :
    finish kind glyphs <:+: glyphs := by
  have htext := (infix_keepStart Item.dropBlanksEnd _).trans (infix_keepEnd Item.dropBlanks glyphs)
  cases kind with
  | conditions => exact (infix_keepStart _ _).trans ((infix_keepEnd _ _).trans htext)
  | assignments => exact (infix_keepStart _ _).trans htext

end Glyph

/-! ## Items on a sheet -/

namespace Sheet

theorem items_push (sheet : Sheet) (item : Item Value) (place : Place) :
    (sheet.push item place).items = sheet.items ++ [item] := by
  simp [push, items]

theorem items_pushText (sheet : Sheet) (kind : ClauseKind) (text : String) :
    (sheet.pushText kind text).items = sheet.items ++ Item.ofText text := by
  rw [pushText, Item.ofText]
  induction text.toList generalizing sheet with
  | nil => simp
  | cons c cs ih => rw [List.foldl_cons, ih, items_push, List.map_cons, List.append_assoc]; rfl

theorem items_addClause (sheet : Sheet) (kind : ClauseKind) (clause : Sheet) :
    (sheet.addClause kind clause).items = Item.addClause sheet.items kind clause.items := by
  have hfinish : Item.clean kind (Item.trimmed clause.items) =
      (Glyph.finish kind clause.glyphs).map Glyph.item :=
    (Glyph.map_item_finish kind clause.glyphs).symm
  have happend (head : Sheet) (more : List Glyph) :
      ({ head with glyphs := head.glyphs ++ more } : Sheet).items =
        head.items ++ more.map Glyph.item := List.map_append
  rw [addClause, Item.addClause, hfinish]
  cases Glyph.finish kind clause.glyphs with
  | nil => rfl
  | cons glyph text =>
    refine (happend _ _).trans ?_
    rw [items_pushText, items_pushText]
    rfl

end Sheet

theorem items_inkPieces (scope : Scope σ) (token : Token) (index : Nat)
    (pieces : List (Piece × Place)) (sheet : Sheet) :
    Piece.write scope token index (pieces.map Prod.fst) sheet.items =
      Sheet.items <$> Piece.ink scope token index pieces sheet := by
  induction pieces generalizing index sheet with
  | nil => exact (map_pure ..).symm
  | cons placed pieces ih =>
    obtain ⟨piece, place⟩ := placed
    rw [List.map_cons]
    cases piece with
    | char c | escape => rw [Piece.write, Piece.ink, ← ih, Sheet.items_push]
    | bind b =>
      rw [Piece.write, Piece.ink, map_bind]
      simp only [← ih, Sheet.items_push]

theorem ite_items (taken : Rendering σ Bool) (x y : Rendering σ Sheet) :
    (do if ← taken then Sheet.items <$> x else Sheet.items <$> y) =
      Sheet.items <$> (do if ← taken then x else y) := by
  rw [map_bind]
  refine bind_congr fun b => ?_
  cases b with
  | true => rfl
  | false => rfl

theorem foldlM_items (scope : Scope σ) (header : String)
    {body : List (Item Value) → Rendering σ (List (Item Value))} {next : Sheet → Rendering σ Sheet}
    (h : ∀ sheet, body (Sheet.items sheet) = Sheet.items <$> next sheet) (l : List Nat)
    (sheet : Sheet) :
    l.foldlM (fun items i => do
        scope.iteration header i
        body items) sheet.items =
      Sheet.items <$> l.foldlM (fun sheet i => do
        scope.iteration header i
        next sheet) sheet := by
  induction l generalizing sheet with
  | nil => exact (map_pure ..).symm
  | cons i l ih =>
    rw [List.foldlM_cons, List.foldlM_cons, h, bind_assoc, bind_assoc, map_bind]
    simp only [bind_map_left, map_bind, ih]

namespace Phrase

variable {scope : Scope σ}

mutual

theorem items_inkOf :
    (phrase : Phrase) → (blank : Bool) → (sheet : Sheet) →
      writeOf scope phrase blank sheet.items = Sheet.items <$> inkOf scope phrase blank sheet
  | .literal token, blank, sheet => by
    rw [writeOf, inkOf, ← token.map_fst_placed blank]
    exact items_inkPieces scope token 0 (token.placed blank) (sheet.begin token)
  | .clause kind body, blank, sheet => by
    have hbody : write scope body false [] = _ := items_ink body false {}
    rw [writeOf, inkOf, hbody, map_bind, bind_map_left]
    simp only [map_pure, Sheet.items_addClause]
  | .loop header body, blank, sheet => by
    rw [writeOf, inkOf]
    simp only [foldlM_items scope header (items_ink body false), map_bind, bind_map_left, map_pure]
  | .cond condition body branches none, blank, sheet => by
    rw [writeOf, inkOf, items_ink body, ← map_pure, items_inkBranches branches]
    exact ite_items ..
  | .cond condition body branches (some last), blank, sheet => by
    rw [writeOf, inkOf, items_ink body, items_ink last, items_inkBranches branches]
    exact ite_items ..

/-- The items on a sheet are those that are written. -/
theorem items_ink :
    (phrases : List Phrase) → (blank : Bool) → (sheet : Sheet) →
      write scope phrases blank sheet.items = Sheet.items <$> ink scope phrases blank sheet
  | [], blank, sheet => (map_pure ..).symm
  | phrase :: phrases, blank, sheet => by
    rw [write, ink, items_inkOf phrase, map_bind, bind_map_left]
    simp only [items_ink phrases]

theorem items_inkBranches :
    (branches : List PhraseBranch) → (sheet : Sheet) → (otherwise : Rendering σ Sheet) →
      writeBranches scope branches sheet.items (Sheet.items <$> otherwise) =
        Sheet.items <$> inkBranches scope branches sheet otherwise
  | [], _, _ => rfl
  | .mk condition body :: branches, sheet, otherwise => by
    rw [writeBranches, inkBranches, items_ink body, items_inkBranches branches]
    exact ite_items ..

end

end Phrase

end QueryTemplate
