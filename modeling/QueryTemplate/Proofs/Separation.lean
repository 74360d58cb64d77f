import QueryTemplate.Proofs.Relating
import QueryTemplate.Proofs.Sheets

/-!
# Lines kept apart

Where a line of a template begins, a blank is written, if there is none already. So what is
written before the line begins does not run into what is written after it: of two neighbours
on a sheet, with a line begun between them, one is a blank. Finishing a clause takes blanks
off its start, but its head ends in a blank of its own. Where no line begins, nothing is
written but what the template has there.

Neighbours are not kept apart by their lines alone, for between them no line need begin. The
start of the line may be in a branch that is not taken; it may be in a clause of which
nothing is left, or come after all that is left of one; and a loop goes from its last line
back to its first one. What is on the two lines is then fused (`render_fused`).

* `Rendering.Ensures`: what holds of the result of a computation, if there is one;
* `Glyph.From`: a glyph shows what the template has at its place;
* `Glyph.Apart`: neighbours with a line begun between them, one of which is a blank;
* `Sheet.Sound`: a sheet whose neighbours are apart, which writing keeps (`Sheet.Sound.ink`);
* `render_apart_iff`: characters of a rendered template from different lines are apart exactly
  if a line has begun between them or the template has white space there.
-/

namespace QueryTemplate

variable {σ : Type}

/-! ## Results of computations -/

namespace Rendering

/-- The result of a computation has the property, if there is one. -/
def Ensures {α : Type} (P : α → Prop) (x : Rendering σ α) : Prop :=
  ∀ s a s', x s = .ok a s' → P a

namespace Ensures

variable {α β : Type} {P : α → Prop} {Q : β → Prop} {x : Rendering σ α} {f : α → Rendering σ β}

protected theorem pure {a : α} (h : P a) : Ensures P (pure a : Rendering σ α) := by
  intro s b s' hok
  cases hok
  exact h

protected theorem bind (hx : Ensures P x) (hf : ∀ a, P a → Ensures Q (f a)) :
    Ensures Q (x >>= f) := by
  intro s b s' hok
  cases hresult : x s with
  | error e s'' => cases (bind_error hresult).symm.trans hok
  | ok a s'' =>
    rw [bind_ok hresult] at hok
    exact hf a (hx s a s'' hresult) s'' b s' hok

theorem bind_of_forall (hf : ∀ a, Ensures Q (f a)) : Ensures Q (x >>= f) :=
  Ensures.bind (P := fun _ => True) (fun _ _ _ _ => trivial) fun a _ => hf a

protected theorem ite {taken : Rendering σ Bool} {y : Rendering σ α} (hx : Ensures P x)
    (hy : Ensures P y) : Ensures P (do if ← taken then x else y) := by
  refine bind_of_forall fun b => ?_
  cases b with
  | true => exact hx
  | false => exact hy

protected theorem foldlM {step : α → Nat → Rendering σ α}
    (hstep : ∀ a i, P a → Ensures P (step a i)) (l : List Nat) {a : α} (ha : P a) :
    Ensures P (l.foldlM step a) := by
  induction l generalizing a with
  | nil => exact .pure ha
  | cons i l ih =>
    rw [List.foldlM_cons]
    exact (hstep a i ha).bind fun _ => ih

end Ensures

end Rendering

open Rendering

/-! ## Places of glyphs -/

/-- The item is what a query shows of a piece of a literal. -/
inductive Item.Shows {α : Type} (token : Token) : Piece → Item α → Prop
  | char (c : Char) : Shows token (.char c) (.char c)
  | escape : Shows token .escape (.char '@')
  | bind (b : Bind) (index : Nat) (value : α) :
    Shows token (.bind b) (.marker ⟨token, index⟩ b value)

/-- The literal has the piece at the place. -/
def Token.Has (token : Token) (piece : Piece) : Place → Prop
  | .inText token' offset => token = token' ∧ piece.text <+: token.text.toList.drop offset
  | .lineBreak token' => token = token' ∧ token.lineStart ∧ piece = .char ' '
  | .head _ => False

/-- The glyph shows what the template has at its place: a piece of a literal among the tokens, or a
    blank for a line break before one; or else it is a character of the head of a clause. -/
def Glyph.From (tokens : List Token) (glyph : Glyph) : Prop :=
  match glyph.place with
  | .head kind => glyph.item ∈ Item.ofText kind.head
  | place => ∃ token ∈ tokens, token.kind = .literal ∧
    ∃ piece, token.Has piece place ∧ glyph.item.Shows token piece

theorem Token.Has.token?_eq {token : Token} {piece : Piece} {place : Place}
    (h : token.Has piece place) : place.token? = some token := by
  cases place with
  | inText token' offset | lineBreak token' => exact congrArg some h.1.symm
  | head kind => cases h

theorem Piece.has_of_mem_placed {token : Token} {offset : Nat} {pieces : List Piece}
    (h : pieces.flatMap text <+: token.text.toList.drop offset) {piece : Piece} {place : Place}
    (hmem : (piece, place) ∈ placed token offset pieces) : token.Has piece place := by
  induction pieces generalizing offset with
  | nil => cases hmem
  | cons first pieces ih =>
    obtain ⟨after, hafter⟩ := h
    rw [List.flatMap_cons, List.append_assoc] at hafter
    rcases List.mem_cons.1 hmem with heq | hmem
    · cases heq
      exact ⟨rfl, _, hafter⟩
    · refine ih ⟨after, ?_⟩ hmem
      rw [← List.drop_drop, ← hafter, List.drop_left]

theorem Token.has_of_mem_placed {token : Token} {blank : Bool} {piece : Piece} {place : Place}
    (hmem : (piece, place) ∈ token.placed blank) : token.Has piece place := by
  have htext : (Piece.scan (token.text.toList.drop token.indent)).flatMap Piece.text <+:
      token.text.toList.drop token.indent := by
    rw [Piece.flatMap_text_scan]
  rw [placed] at hmem
  split at hmem
  · next hbreak =>
    rcases List.mem_cons.1 hmem with heq | hmem
    · cases heq
      exact ⟨rfl, (Bool.and_eq_true_iff.1 hbreak).1, rfl⟩
    · exact Piece.has_of_mem_placed htext hmem
  · exact Piece.has_of_mem_placed htext hmem

theorem Glyph.From.of_has {tokens : List Token} {token : Token} (htoken : token ∈ tokens)
    (hkind : token.kind = .literal) {piece : Piece} {place : Place} (h : token.Has piece place)
    {item : Item Value} (hitem : item.Shows token piece) {broken : Bool} :
    Glyph.From tokens ⟨item, place, broken⟩ := by
  cases place with
  | inText token' offset | lineBreak token' => exact ⟨token, htoken, hkind, piece, h, hitem⟩
  | head kind => cases h

/-- What is shown of a piece is a blank if the piece begins with one in the template. -/
theorem Item.Shows.exists_text_eq {token : Token} {piece : Piece} {item : Item Value}
    (h : item.Shows token piece) :
    ∃ c rest, piece.text = c :: rest ∧ Text.isBlank c = item.isBlank := by
  cases h with
  | char c => exact ⟨c, [], rfl, rfl⟩
  | escape => exact ⟨'\\', ['@'], rfl, rfl⟩
  | bind b index value =>
    cases b with
    | table => exact ⟨'@', _, rfl, rfl⟩
    | raw expr => exact ⟨'@', _, String.toList_append, rfl⟩
    | value expr => exact ⟨'@', _, String.toList_append, rfl⟩

/-- A glyph that comes from a literal is a blank exactly if its place is one in the template. -/
theorem Glyph.From.isBlank_eq {tokens : List Token} {glyph : Glyph} (h : glyph.From tokens)
    {token : Token} (htoken : glyph.place.token? = some token) :
    glyph.item.isBlank = glyph.place.isBlank := by
  obtain ⟨item, place, broken⟩ := glyph
  cases place with
  | inText token' offset =>
    obtain ⟨token', _, _, piece, ⟨rfl, after, hafter⟩, hshows⟩ := h
    obtain ⟨c, rest, htext, hblank⟩ := hshows.exists_text_eq
    rw [htext] at hafter
    have hget : token'.text.toList[offset]? = some c := by
      rw [← List.head?_drop, ← hafter]
      rfl
    rw [Place.isBlank, hget]
    exact hblank.symm
  | lineBreak token' =>
    obtain ⟨_, _, _, piece, ⟨_, _, rfl⟩, hshows⟩ := h
    cases hshows
    rfl
  | head kind => cases htoken

/-! ## Sound sheets -/

/-- What holds of a glyph and the next one. -/
structure Glyph.Apart (glyph next : Glyph) : Prop where
  /-- If a line has begun between them, then one is a blank. -/
  blank : next.afterBreak → glyph.item.isBlank ∨ next.item.isBlank
  /-- If the next one comes from a literal that begins a line and the first one comes from
      another, then that line has begun between them. -/
  begins : ∀ token token', glyph.place.token? = some token → next.place.token? = some token' →
    token'.lineStart → token = token' ∨ next.afterBreak

/-- The last glyph is a blank, if there is one. -/
def Sheet.EndsBlank (sheet : Sheet) : Prop :=
  ∀ last ∈ sheet.glyphs.getLast?, last.item.isBlank

/-- Neighbours on the sheet are apart; `blank` says whether the text of a body that is being
    written ends in a blank. -/
structure Sheet.Sound (tokens : List Token) (blank : Bool) (sheet : Sheet) : Prop where
  /-- Each glyph and the next one are apart. -/
  apart : sheet.glyphs.IsChain Glyph.Apart
  /-- The glyphs come from the tokens. -/
  comes : ∀ glyph ∈ sheet.glyphs, glyph.From tokens
  /-- A line begins after a blank, so that the next glyph may be any. -/
  broken : sheet.broken → sheet.EndsBlank
  /-- A body whose text ends in a blank has left it on the sheet. -/
  blank : blank → sheet.EndsBlank

theorem Glyph.isChain_finish {glyphs : List Glyph} (h : glyphs.IsChain Apart) (kind : ClauseKind) :
    (finish kind glyphs).IsChain Apart := by
  obtain ⟨before, after, hglyphs⟩ := infix_finish kind glyphs
  rw [← hglyphs] at h
  exact h.left_of_append.right_of_append

theorem Piece.endsBlank_cons (blank : Bool) (piece : Piece) (pieces : List Piece) :
    endsBlank blank (piece :: pieces) = endsBlank (Text.isBlank piece.symbol) pieces := by
  rw [endsBlank, endsBlank, List.getLast?_cons]
  cases pieces.getLast? with
  | none => cases piece <;> rfl
  | some last => cases last <;> rfl

namespace Sheet

theorem forall_last_push {P : Glyph → Prop} {item : Item Value} {place : Place}
    (sheet : Sheet) (h : P ⟨item, place, sheet.broken⟩) :
    ∀ last ∈ (sheet.push item place).glyphs.getLast?, P last := by
  intro last hlast
  rw [push, List.getLast?_concat] at hlast
  obtain rfl := Option.some.inj hlast
  exact h

namespace Sound

variable {tokens : List Token} {blank : Bool} {sheet : Sheet} {scope : Scope σ}

theorem empty : Sound tokens blank {} where
  apart := .nil
  comes := by simp
  broken := nofun
  blank _ := by simp [EndsBlank]

theorem weaken (h : sheet.Sound tokens blank) : sheet.Sound tokens false :=
  { h with blank := nofun }

/-- A sheet stays sound when an item is written, whether a line has just begun or not. -/
theorem push {item : Item Value} {place : Place} {broken : Bool}
    (h : sheet.Sound tokens blank) (hfrom : Glyph.From tokens ⟨item, place, broken⟩)
    (hbroken : broken → sheet.EndsBlank ∨ item.isBlank)
    (hbegins : ∀ last ∈ sheet.glyphs.getLast?, ∀ token token', last.place.token? = some token →
      place.token? = some token' → token'.lineStart → token = token' ∨ broken) :
    ({ sheet with broken := broken }.push item place).Sound tokens item.isBlank where
  apart := by
    refine h.apart.append (List.isChain_singleton _) fun last hlast glyph hglyph => ?_
    obtain rfl := Option.some.inj hglyph
    exact ⟨fun hbreak => (hbroken hbreak).imp_left (· last hlast), hbegins last hlast⟩
  comes := List.forall_mem_append.2 ⟨h.comes, List.forall_mem_singleton.2 hfrom⟩
  broken := nofun
  blank hblank := forall_last_push (P := fun last => last.item.isBlank) _ hblank

theorem pushText {text : String} (h : sheet.Sound tokens blank) (kind : ClauseKind)
    (htext : text.toList ⊆ kind.head.toList) : (sheet.pushText kind text).Sound tokens false := by
  rw [Sheet.pushText]
  generalize text.toList = cs at htext
  induction cs generalizing sheet blank with
  | nil => exact h.weaken
  | cons c cs ih =>
    obtain ⟨hc, hcs⟩ := List.cons_subset.1 htext
    have hfrom : Glyph.From tokens ⟨.char c, .head kind, sheet.broken⟩ := List.mem_map_of_mem hc
    refine ih (h.push hfrom (fun hbroken => .inl (h.broken hbroken)) ?_) hcs
    intro _ _ _ _ _ hsource
    cases hsource

theorem exists_pushText_head (sheet : Sheet) (kind : ClauseKind) :
    ∃ front,
      sheet.pushText kind kind.head = ⟨front ++ [⟨.char ' ', .head kind, false⟩], false⟩ := by
  cases kind with
  | conditions => exact ⟨_, rfl⟩
  | assignments => exact ⟨_, rfl⟩

/-- The head of a clause keeps the glyphs of the clause apart from those before. -/
theorem addClause {clause : Sheet} (h : sheet.Sound tokens blank) (kind : ClauseKind)
    (hclause : clause.Sound tokens false) : (sheet.addClause kind clause).Sound tokens false := by
  have hapart := Glyph.isChain_finish hclause.apart kind
  have hcomes (glyph : Glyph) (hglyph : glyph ∈ Glyph.finish kind clause.glyphs) :
      glyph.From tokens := hclause.comes glyph ((Glyph.infix_finish kind _).subset hglyph)
  rw [Sheet.addClause]
  split
  · exact h.weaken
  · have hgap : (if sheet.items.isEmpty || sheet.items.getLast?.any Item.isBlank then ""
        else " ").toList ⊆ kind.head.toList := by
      cases kind <;> split <;> decide
    have hhead := (h.pushText kind hgap).pushText kind (List.Subset.refl _)
    obtain ⟨front, hfront⟩ := exists_pushText_head (sheet.pushText kind _) kind
    dsimp only
    rw [hfront] at hhead ⊢
    refine ⟨hhead.apart.append hapart ?_, ?_, by simp, by simp⟩
    · -- Whatever is first in the clause, the blank of the head comes before it.
      intro last hlast glyph _
      rw [List.getLast?_concat] at hlast
      obtain rfl := Option.some.inj hlast
      exact ⟨fun _ => .inl rfl, by simp [Place.token?]⟩
    · exact List.forall_mem_append.2 ⟨hhead.comes, hcomes⟩

/-- The pieces of a literal are written where its line has begun, or after others of it. -/
theorem inkPieces {token : Token} (htoken : token ∈ tokens) (hkind : token.kind = .literal)
    {pieces : List (Piece × Place)} (hpieces : ∀ placed ∈ pieces, token.Has placed.1 placed.2)
    (index : Nat) (h : sheet.Sound tokens blank)
    (hbegins : token.lineStart →
      sheet.broken ∨ ∀ last ∈ sheet.glyphs.getLast?, last.place.token? = some token) :
    Ensures (Sound tokens (Piece.endsBlank blank (pieces.map Prod.fst)))
      (Piece.ink scope token index pieces sheet) := by
  induction pieces generalizing blank sheet index with
  | nil => exact .pure h
  | cons placed pieces ih =>
    obtain ⟨piece, place⟩ := placed
    obtain ⟨hhas, hrest⟩ := List.forall_mem_cons.1 hpieces
    have hnext {item : Item Value} (hitem : item.Shows token piece) :
        (sheet.push item place).Sound tokens item.isBlank := by
      refine h.push (.of_has htoken hkind hhas hitem) (fun hbroken => .inl (h.broken hbroken)) ?_
      intro last hlast token₁ token₂ hplace hplace₂ hstart
      obtain rfl := Option.some.inj (hhas.token?_eq.symm.trans hplace₂)
      rcases hbegins hstart with hbroken | hlasts
      · exact .inr hbroken
      · exact .inl (Option.some.inj (hplace.symm.trans (hlasts last hlast)))
    have hlast (item : Item Value) : token.lineStart → (sheet.push item place).broken ∨
        ∀ last ∈ (sheet.push item place).glyphs.getLast?, last.place.token? = some token :=
      fun _ => .inr (sheet.forall_last_push hhas.token?_eq)
    rw [List.map_cons, Piece.endsBlank_cons]
    cases piece with
    | char c => exact ih hrest index (hnext (.char c)) (hlast _)
    | escape => exact ih hrest index (hnext .escape) (hlast _)
    | bind b =>
      rw [Piece.ink]
      refine .bind_of_forall fun value => ?_
      exact ih hrest (index + 1) (hnext (.bind b index value)) (hlast _)

/-- A literal is written after its line has begun, and after a blank if it begins a line. -/
theorem inkLiteral {token : Token} (htoken : token ∈ tokens) (hkind : token.kind = .literal)
    (h : sheet.Sound tokens blank) :
    Ensures (Sound tokens (Piece.endsBlank blank (token.pieces blank)))
      (Piece.ink scope token 0 (token.placed blank) (sheet.begin token)) := by
  have hpieces (placed : Piece × Place) (hmem : placed ∈ token.placed blank) :
      token.Has placed.1 placed.2 := token.has_of_mem_placed hmem
  have hbroken (hstart : token.lineStart) : (sheet.begin token).broken := by
    rw [Sheet.begin, hstart, Bool.or_true]
  rw [← token.map_fst_placed]
  by_cases hstart : token.lineStart
  · cases blank with
    | true =>
      have hbegin : (sheet.begin token).Sound tokens true :=
        { h with broken := fun _ => h.blank rfl }
      exact hbegin.inkPieces htoken hkind hpieces 0 fun _ => .inl (hbroken hstart)
    | false =>
      -- The sheet is not sound until the blank is there.
      rw [Token.placed, if_pos (by simp [hstart])] at hpieces ⊢
      obtain ⟨hhas, hrest⟩ := List.forall_mem_cons.1 hpieces
      have hfrom : Glyph.From tokens ⟨.char ' ', .lineBreak token, (sheet.begin token).broken⟩ :=
        .of_has htoken hkind hhas (.char ' ')
      have hpush : ((sheet.begin token).push (.char ' ') (.lineBreak token)).Sound tokens true :=
        h.push hfrom (fun _ => .inr rfl) fun _ _ _ _ _ _ _ => .inr (hbroken hstart)
      rw [List.map_cons, Piece.endsBlank_cons]
      exact hpush.inkPieces htoken hkind hrest 0 fun _ => .inr (forall_last_push _ rfl)
  · have hbegin : sheet.begin token = sheet := by
      rw [Sheet.begin, Bool.eq_false_iff.2 hstart, Bool.or_false]
    rw [hbegin]
    exact h.inkPieces htoken hkind hpieces 0 fun h => absurd h hstart

mutual

theorem inkOf :
    (phrase : Phrase) →
      (∀ token, .literal token ∈ Phrase.symbolsOf phrase → token ∈ tokens ∧ token.kind = .literal) →
      (blank : Bool) → (sheet : Sheet) → sheet.Sound tokens blank →
      Ensures (Sound tokens (phrase.endsBlank blank)) (Phrase.inkOf scope phrase blank sheet)
  | .literal token, hmem, blank, sheet, h => by
    obtain ⟨htoken, hkind⟩ := hmem token (by simp [Phrase.symbolsOf])
    rw [Phrase.inkOf]
    exact h.inkLiteral htoken hkind
  | .clause kind body, hmem, blank, sheet, h => by
    have hbody := ink body fun token ht => hmem token (by simp [Phrase.symbolsOf, ht])
    rw [Phrase.inkOf]
    exact (hbody false {} empty).bind fun clause hclause => .pure (h.addClause kind hclause)
  | .loop header body, hmem, blank, sheet, h => by
    have hbody := ink body fun token ht => hmem token (by simp [Phrase.symbolsOf, ht])
    rw [Phrase.inkOf]
    refine .bind_of_forall fun count => .bind (.foldlM ?_ _ h.weaken) fun sheet hsheet => ?_
    · exact fun sheet i hsheet => .bind_of_forall fun _ => hbody false sheet hsheet
    · exact .bind_of_forall fun _ => .pure hsheet
  | .cond condition body branches none, hmem, blank, sheet, h => by
    have hbody := ink body fun token ht => hmem token (by simp [Phrase.symbolsOf, ht])
    have hbranches := inkBranches branches fun token ht =>
      hmem token (by simp [Phrase.symbolsOf, ht])
    rw [Phrase.inkOf]
    exact .ite (hbody false sheet h.weaken) (hbranches sheet h.weaken (.pure h.weaken))
  | .cond condition body branches (some last), hmem, blank, sheet, h => by
    have hbody := ink body fun token ht => hmem token (by simp [Phrase.symbolsOf, ht])
    have hbranches := inkBranches branches fun token ht =>
      hmem token (by simp [Phrase.symbolsOf, ht])
    have hlast := ink last fun token ht => hmem token (by simp [Phrase.symbolsOf, ht])
    rw [Phrase.inkOf]
    exact .ite (hbody false sheet h.weaken)
      (hbranches sheet h.weaken (hlast false sheet h.weaken))

/-- A sheet stays sound when phrases are written on it. -/
theorem ink :
    (phrases : List Phrase) →
      (∀ token, .literal token ∈ Phrase.symbols phrases → token ∈ tokens ∧ token.kind = .literal) →
      (blank : Bool) → (sheet : Sheet) → sheet.Sound tokens blank →
      Ensures (Sound tokens false) (Phrase.ink scope phrases blank sheet)
  | [], _, _, _, h => by
    rw [Phrase.ink]
    exact .pure h.weaken
  | phrase :: phrases, hmem, blank, sheet, h => by
    have hphrase := inkOf phrase fun token ht => hmem token (by simp [Phrase.symbols, ht])
    have hphrases := ink phrases fun token ht => hmem token (by simp [Phrase.symbols, ht])
    rw [Phrase.ink]
    exact (hphrase blank sheet h).bind (hphrases _)

theorem inkBranches :
    (branches : List PhraseBranch) →
      (∀ token, .literal token ∈ Phrase.branchSymbols branches →
        token ∈ tokens ∧ token.kind = .literal) →
      (sheet : Sheet) → sheet.Sound tokens false → {otherwise : Rendering σ Sheet} →
      Ensures (Sound tokens false) otherwise →
      Ensures (Sound tokens false) (Phrase.inkBranches scope branches sheet otherwise)
  | [], _, _, _, _, hotherwise => by
    rw [Phrase.inkBranches]
    exact hotherwise
  | .mk condition body :: branches, hmem, sheet, h, otherwise, hotherwise => by
    have hbody := ink body fun token ht => hmem token (by simp [Phrase.branchSymbols, ht])
    have hbranches := inkBranches branches fun token ht =>
      hmem token (by simp [Phrase.branchSymbols, ht])
    rw [Phrase.inkBranches]
    exact .ite (hbody false sheet h) (hbranches sheet h hotherwise)

end

end Sound

/-- Neighbours in the SQL are neighbours on the sheet. -/
theorem exists_of_sql {sheet : Sheet} {before after : List Char} {c c' : Char}
    (h : (Item.query sheet.items).sql.toList = before ++ c :: c' :: after) :
    ∃ front glyph next back, sheet.glyphs = front ++ glyph :: next :: back ∧
      front.length = before.length ∧ glyph.item.symbol = c ∧ next.item.symbol = c' := by
  rw [Item.toList_sql, items, List.map_map] at h
  obtain ⟨front, rest, hglyphs, rfl, hrest⟩ := List.map_eq_append_iff.1 h
  obtain ⟨glyph, rest', rfl, rfl, hrest'⟩ := List.map_eq_cons_iff.1 hrest
  obtain ⟨next, back, rfl, rfl, _⟩ := List.map_eq_cons_iff.1 hrest'
  exact ⟨front, glyph, next, back, hglyphs, (List.length_map _).symm, rfl, rfl⟩

end Sheet

/-- Neighbours from different literals are apart exactly if a line has begun between them or the
    template has white space at the place of one of them. -/
theorem Glyph.Apart.isBlank_iff {tokens : List Token} {glyph next : Glyph} {token token' : Token}
    (h : glyph.Apart next) (hfrom : glyph.From tokens) (hfrom' : next.From tokens)
    (hglyph : glyph.place.token? = some token) (hnext : next.place.token? = some token') :
    Text.isBlank glyph.item.symbol ∨ Text.isBlank next.item.symbol ↔
      next.afterBreak ∨ glyph.place.isBlank ∨ next.place.isBlank := by
  rw [Item.isBlank_symbol, Item.isBlank_symbol, ← hfrom.isBlank_eq hglyph,
    ← hfrom'.isBlank_eq hnext]
  exact ⟨.inr, fun hapart => hapart.elim h.blank id⟩

/-- A template is rendered to the items of the sheet that its phrases are written on. -/
theorem render_eq_ink {source : String} {settings : Settings} {t : Template} {tokens : List Token}
    {phrases : List Phrase} (h : Template.compile source settings = .ok t)
    (htokens : Token.ofTemplate source = .ok tokens)
    (hreads : Token.Reads tokens (Phrase.symbols phrases)) (scope : Scope σ) :
    t.render scope =
      (fun sheet => Item.query sheet.items) <$> Phrase.ink scope phrases false {} := by
  have hitems : Phrase.items scope phrases = Sheet.items <$> Phrase.ink scope phrases false {} :=
    Phrase.items_ink phrases false {}
  rw [render_of_reads h htokens hreads, hitems, Functor.map_map]

/-- Whenever two characters of the SQL of a rendered template follow one another and come from
    literals on different lines, one of them is a blank exactly if a line has begun between them as
    the query was written, or the template has white space at the place of one of them; all others
    are fused. A line has begun if the literal of the second character begins its line, or another
    literal that begins a line was written between them. -/
theorem render_apart_iff {source : String} {settings : Settings} {t : Template}
    (h : Template.compile source settings = .ok t) :
    ∃ tokens, Token.ofTemplate source = .ok tokens ∧
      (∃ phrases, Token.Reads tokens (Phrase.symbols phrases)) ∧
      ∀ phrases, Token.Reads tokens (Phrase.symbols phrases) →
        ∀ {σ : Type} (scope : Scope σ) (s : σ) (query : Query Value) (s' : σ),
          t.render scope s = .ok query s' →
          ∃ sheet, Phrase.ink scope phrases false {} s = .ok sheet s' ∧
            query = Item.query sheet.items ∧ (∀ glyph ∈ sheet.glyphs, glyph.From tokens) ∧
            ∀ before c c' after, query.sql.toList = before ++ c :: c' :: after →
              ∃ glyph next, sheet.glyphs[before.length]? = some glyph ∧
                sheet.glyphs[before.length + 1]? = some next ∧
                glyph.item.symbol = c ∧ next.item.symbol = c' ∧
                ∀ token token', glyph.place.token? = some token →
                  next.place.token? = some token' → token.line ≠ token'.line →
                  (token'.lineStart → next.afterBreak) ∧
                  (Text.isBlank c ∨ Text.isBlank c' ↔
                    next.afterBreak ∨ glyph.place.isBlank ∨ next.place.isBlank) := by
  obtain ⟨tokens, phrases, htokens, hreads⟩ := exists_reads_of_compile h
  refine ⟨tokens, htokens, ⟨phrases, hreads⟩, ?_⟩
  clear hreads
  intro phrases hreads σ scope s query s' hok
  rw [render_eq_ink h htokens hreads] at hok
  obtain ⟨sheet, hsheet, rfl⟩ := exists_of_map hok
  have hsound := Sheet.Sound.ink phrases (fun token hmem => hreads.mem_of_literal hmem) false {}
    .empty s sheet s' hsheet
  refine ⟨sheet, hsheet, rfl, hsound.comes, fun before c c' after hsql => ?_⟩
  obtain ⟨front, glyph, next, back, hglyphs, hlength, rfl, rfl⟩ := Sheet.exists_of_sql hsql
  have hapart : glyph.Apart next :=
    List.isChain_iff_forall_rel_of_append_cons_cons.1 hsound.apart hglyphs
  have hglyph := hsound.comes glyph (by simp [hglyphs])
  have hnext := hsound.comes next (by simp [hglyphs])
  refine ⟨glyph, next, by simp [hglyphs, ← hlength], by simp [hglyphs, ← hlength], rfl, rfl, ?_⟩
  intro token token' htoken htoken' hline
  refine ⟨fun hstart => ?_, hapart.isBlank_iff hglyph hnext htoken htoken'⟩
  refine (hapart.begins token token' htoken htoken' hstart).resolve_left ?_
  rintro rfl
  exact hline rfl

/-- A clause over two lines, the first of which ends in a blank, so that none is written where
    the second begins. -/
theorem render_apart_iff_where :
    let source := "t\x7b\x7bwhere\x7d\x7da = @a \n\x7b\x7bif p\x7d\x7dAND @b" ++
      "\x7b\x7bend\x7d\x7d\x7b\x7bend\x7d\x7d\nc"
    let first : Token := ⟨.literal, "a = @a ", 1, 11, false⟩
    let second : Token := ⟨.literal, "AND @b", 2, 9, false⟩
    let tokens : List Token :=
      [⟨.literal, "t", 1, 1, false⟩, ⟨.directive, "where", 1, 2, false⟩, first,
        ⟨.literal, "", 2, 1, true⟩, ⟨.directive, "if p", 2, 1, false⟩, second,
        ⟨.directive, "end", 2, 15, false⟩, ⟨.directive, "end", 2, 22, false⟩,
        ⟨.literal, "", 2, 29, false⟩, ⟨.literal, "c", 3, 1, true⟩]
    let phrases : List Phrase :=
      [.literal ⟨.literal, "t", 1, 1, false⟩,
        .clause .conditions [.literal first, .literal ⟨.literal, "", 2, 1, true⟩,
          .cond "p" [.literal second] [] none],
        .literal ⟨.literal, "", 2, 29, false⟩, .literal ⟨.literal, "c", 3, 1, true⟩]
    let scope : Scope Nat :=
      { condition := fun _ => pure true
        enterLoop := fun _ => pure 2
        iteration := fun _ _ => modify (· + 1)
        exitLoop := fun _ s => s
        value := fun expr => pure (.text expr) }
    ∃ t query s' sheet glyph next, Template.compile source = .ok t ∧
      Token.ofTemplate source = .ok tokens ∧ Token.Reads tokens (Phrase.symbols phrases) ∧
      t.render scope 0 = .ok query s' ∧ query.sql = "t WHERE a = ? AND ? c" ∧
      Phrase.ink scope phrases false {} 0 = .ok sheet s' ∧
      sheet.glyphs[13]? = some glyph ∧ sheet.glyphs[14]? = some next ∧
      glyph.place = .inText first 6 ∧ next.place = .inText second 0 ∧ next.afterBreak ∧
      (Text.isBlank ' ' ∨ Text.isBlank 'A' ↔
        next.afterBreak ∨ glyph.place.isBlank ∨ next.place.isBlank) := by
  intro source first second tokens phrases scope
  have htokens : (Token.ofTemplate source).toOption = some tokens := by decide +kernel
  have hreads : Token.Reads tokens (Phrase.symbols phrases) := rfl
  have hrender :
      (match Template.compile source with
        | .ok t =>
          match t.render scope 0 with
          | .ok query _ => query.sql == "t WHERE a = ? AND ? c"
          | .error _ _ => false
        | .error _ => false) = true := by decide +kernel
  have hsheet :
      (match Phrase.ink scope phrases false {} 0 with
        | .ok sheet _ => sheet.glyphs[13]?.map Glyph.place == some (.inText first 6) &&
          sheet.glyphs[14]?.map (fun next => (next.place, next.afterBreak)) ==
            some (.inText second 0, true)
        | .error _ _ => false) = true := by decide +kernel
  cases ht : Template.compile source with
  | error e =>
    rw [ht] at hrender
    cases hrender
  | ok t =>
    obtain ⟨tokens', htokens', _, hapart⟩ := render_apart_iff ht
    rw [htokens'] at htokens
    obtain rfl := Option.some.inj htokens
    rw [ht] at hrender
    cases hok : t.render scope 0 with
    | error e s' =>
      simp only [hok] at hrender
      cases hrender
    | ok query s' =>
      simp only [hok, beq_iff_eq] at hrender
      obtain ⟨sheet, hink, _, _, hneighbours⟩ := hapart phrases hreads scope 0 query s' hok
      obtain ⟨glyph, next, hglyph, hnext, _, _, hblank⟩ :=
        hneighbours "t WHERE a = ?".toList ' ' 'A' "ND ? c".toList (by rw [hrender]; decide)
      replace hglyph : sheet.glyphs[13]? = some glyph := hglyph
      replace hnext : sheet.glyphs[14]? = some next := hnext
      simp only [hink, hglyph, hnext, Option.map_some, Bool.and_eq_true, beq_iff_eq,
        Option.some.injEq, Prod.mk.injEq] at hsheet
      obtain ⟨hfirst, hsecond, hbreak⟩ := hsheet
      refine ⟨t, query, s', sheet, glyph, next, rfl, htokens', hreads, hok, hrender, hink, hglyph,
        hnext, hfirst, hsecond, hbreak, ?_⟩
      exact (hblank first second (by rw [hfirst]; rfl) (by rw [hsecond]; rfl) (by decide)).2

/-! ## Fused lines -/

/-- Rendered with the bindings, the template gives the SQL, in which the character with index `i`
    and the next one come from literals on different lines, and neither is a blank. -/
def FusesAt (i : Nat) (source : String) (bindings : Bindings) (sql : String) : Prop :=
  ∃ t tokens phrases query s' sheet glyph next token token', Template.compile source = .ok t ∧
    Token.ofTemplate source = .ok tokens ∧ Token.Reads tokens (Phrase.symbols phrases) ∧
    t.render Bindings.scope bindings = .ok query s' ∧ query.sql = sql ∧
    Phrase.ink Bindings.scope phrases false {} bindings = .ok sheet s' ∧
    query = Item.query sheet.items ∧ sheet.glyphs[i]? = some glyph ∧
    sheet.glyphs[i + 1]? = some next ∧ glyph.place.token? = some token ∧
    next.place.token? = some token' ∧ token.line ≠ token'.line ∧
    ¬ Text.isBlank glyph.item.symbol ∧ ¬ Text.isBlank next.item.symbol

/-- That characters are fused can be seen on the sheet. -/
theorem fusesAt_of_ink {i : Nat} {source : String} {bindings : Bindings} {sql : String}
    (tokens : List Token) (phrases : List Phrase)
    (hreads : Token.Reads tokens (Phrase.symbols phrases))
    (h : ((Template.compile source).isOk && (Token.ofTemplate source).toOption == some tokens &&
      match Phrase.ink Bindings.scope phrases false {} bindings with
      | .ok sheet _ => (Item.query sheet.items).sql == sql &&
        sheet.glyphs[i]?.any fun glyph => sheet.glyphs[i + 1]?.any fun next =>
          glyph.place.token?.any fun token => next.place.token?.any fun token' =>
            token.line != token'.line && !Text.isBlank glyph.item.symbol &&
              !Text.isBlank next.item.symbol
      | .error _ _ => false) = true) : FusesAt i source bindings sql := by
  simp only [Bool.and_eq_true, beq_iff_eq] at h
  obtain ⟨⟨hcompile, htokens⟩, hsheet⟩ := h
  cases ht : Template.compile source with
  | error e =>
    rw [ht] at hcompile
    cases hcompile
  | ok t =>
    cases htokens' : Token.ofTemplate source with
    | error e =>
      rw [htokens'] at htokens
      cases htokens
    | ok tokens' =>
      rw [htokens'] at htokens
      obtain rfl := Option.some.inj htokens
      cases hink : Phrase.ink Bindings.scope phrases false {} bindings with
      | error e s' =>
        rw [hink] at hsheet
        cases hsheet
      | ok sheet s' =>
        simp only [hink, Bool.and_eq_true, beq_iff_eq, Option.any_eq_true, bne_iff_ne,
          Bool.not_eq_true'] at hsheet
        obtain ⟨hsql, glyph, hglyph, next, hnext, token, htoken, token', htoken', ⟨hline, hblank⟩,
          hblank'⟩ := hsheet
        have hok := map_ok (g := fun sheet => Item.query sheet.items) hink
        rw [← render_eq_ink ht htokens' hreads] at hok
        exact ⟨t, tokens', phrases, _, s', sheet, glyph, next, token, token', ht, htokens', hreads,
          hok, hsql, hink, rfl, hglyph, hnext, htoken, htoken', hline, by simp [hblank],
          by simp [hblank']⟩

/-- Two lines are fused where the start of a line between them is in a branch that is not taken,
    where it is in a clause of which nothing is left, and where it comes after all that is left of
    a clause. None of these takes a loop. -/
theorem render_fused :
    FusesAt 14
        "SELECT * FROM t\x7b\x7bif a\x7d\x7d\nWHERE x=@a\n\x7b\x7bend\x7d\x7dORDER BY id"
        (Bindings.empty.insert "a" (.bool false)) "SELECT * FROM tORDER BY id" ∧
      FusesAt 7
        ("UPDATE t\x7b\x7bset\x7d\x7d\n\x7b\x7bif a\x7d\x7dx=@a,\x7b\x7bend\x7d\x7d\n" ++
          "\x7b\x7bend\x7d\x7dWHERE id=@id")
        ((Bindings.empty.insert "a" (.bool false)).insert "id" (.int 7)) "UPDATE tWHERE id=?" ∧
      FusesAt 24
        "SELECT * FROM t\x7b\x7bwhere\x7d\x7d\nx=1\n\x7b\x7bend\x7d\x7dORDER BY id"
        Bindings.empty "SELECT * FROM t WHERE x=1ORDER BY id" := by
  let select : Token := ⟨.literal, "SELECT * FROM t", 1, 1, false⟩
  let order : Token := ⟨.literal, "ORDER BY id", 3, 8, false⟩
  let third : Token := ⟨.literal, "", 3, 1, true⟩
  let close : Token := ⟨.directive, "end", 3, 1, false⟩
  refine ⟨?_, ?_, ?_⟩
  · let rest : Token := ⟨.literal, "", 1, 24, false⟩
    let second : Token := ⟨.literal, "WHERE x=@a", 2, 1, true⟩
    refine fusesAt_of_ink
      [select, ⟨.directive, "if a", 1, 16, false⟩, rest, second, third, close, order]
      [.literal select, .cond "a" [.literal rest, .literal second, .literal third] [] none,
        .literal order] rfl ?_
    decide +kernel
  · let update : Token := ⟨.literal, "UPDATE t", 1, 1, false⟩
    let rest : Token := ⟨.literal, "", 1, 16, false⟩
    let second : Token := ⟨.literal, "", 2, 1, true⟩
    let assignment : Token := ⟨.literal, "x=@a,", 2, 9, false⟩
    let rest' : Token := ⟨.literal, "", 2, 21, false⟩
    let condition : Token := ⟨.literal, "WHERE id=@id", 3, 8, false⟩
    refine fusesAt_of_ink
      [update, ⟨.directive, "set", 1, 9, false⟩, rest, second,
        ⟨.directive, "if a", 2, 1, false⟩, assignment, ⟨.directive, "end", 2, 14, false⟩, rest',
        third, close, condition]
      [.literal update,
        .clause .assignments [.literal rest, .literal second,
          .cond "a" [.literal assignment] [] none, .literal rest', .literal third],
        .literal condition] rfl ?_
    decide +kernel
  · let rest : Token := ⟨.literal, "", 1, 25, false⟩
    let second : Token := ⟨.literal, "x=1", 2, 1, true⟩
    refine fusesAt_of_ink
      [select, ⟨.directive, "where", 1, 16, false⟩, rest, second, third, close, order]
      [.literal select, .clause .conditions [.literal rest, .literal second, .literal third],
        .literal order] rfl ?_
    decide +kernel

end QueryTemplate
