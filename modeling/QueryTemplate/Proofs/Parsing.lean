import Mathlib.Data.List.Forall2
import QueryTemplate.Proofs.Grammar

/-!
# Reading templates

A template is read into a tree exactly if its directives are a word of the grammar
of blocks. Otherwise the fault is that of the first directive after which no word
is possible any more, or else that of the outermost block left open.

The builder keeps its open blocks on a stack. What it can take next depends only on
the places and the levels on that stack, and these are the ones that the grammar
gives to the directives read so far.

* `Blame`: what is wrong with a directive where certain blocks are open;
* `Builder.Tracks`: the stack of a builder shows the blocks left open;
* `next_or_blame`: a builder takes a directive, and tracks the blocks left open after
  it, or the directive is to blame;
* `Opens.addAll`: a builder takes all directives that leave blocks open, and tracks
  these;
* `ofTemplate_grammar`: the tree of a template, or its fault, from the grammar.
-/

namespace QueryTemplate

/-- What is wrong with a directive, where the given blocks are open. -/
inductive Blame : List Opener → Token → SyntaxError.Cause → Prop
  | unknown {openers : List Opener} {token : Token} : token.kind = .directive →
      (∀ d, ¬ token.Spells d) → Blame openers token .unknownDirective
  | unmatchedEnd {token : Token} : token.Spells .close → Blame [] token .unmatchedEnd
  | elseWithoutIf {openers : List Opener} {token : Token} : token.Spells .otherwise →
      (∀ o ∈ openers.head?, o.level.kind ≠ .cond) → Blame openers token .elseWithoutIf
  | elseIfWithoutIf {openers : List Opener} {token : Token} {condition : String} :
      token.Spells (.elseCond condition) → (∀ o ∈ openers.head?, o.level.kind ≠ .cond) →
      Blame openers token .elseIfWithoutIf
  | duplicateElse {outer : List Opener} {token opening : Token} : token.Spells .otherwise →
      Blame (⟨opening, .otherwise⟩ :: outer) token .duplicateElse
  | elseIfAfterElse {outer : List Opener} {token opening : Token} {condition : String} :
      token.Spells (.elseCond condition) →
      Blame (⟨opening, .otherwise⟩ :: outer) token .elseIfAfterElse

variable {ts : List Token} {openers outer : List Opener} {token : Token} {cause : SyntaxError.Cause}

/-! ## What the stack shows -/

/-- How far an open block has been read. -/
def OpenBlock.level : OpenBlock → Level
  | clause kind _ => .clause kind
  | loop _ _ => .loop
  | cond _ _ _ => .cond
  | otherwise _ _ => .otherwise

theorem OpenBlock.level_withBody (block : OpenBlock) (nodes : List Node) :
    (block.withBody nodes).level = block.level := by
  cases block <;> rfl

theorem OpenBlock.kind_level (block : OpenBlock) : block.level.kind = block.kind := by
  cases block <;> rfl

/-- The place of an open block, and how far it has been read. -/
def OpenFrame.mark (frame : OpenFrame) : Nat × Nat × Level :=
  (frame.line, frame.column, frame.block.level)

/-- The place of an open block, and how far it has been read. -/
def Opener.mark (opener : Opener) : Nat × Nat × Level :=
  (opener.token.line, opener.token.column, opener.level)

/-- The stack of the builder shows the open blocks. -/
def Builder.Tracks (b : Builder) (openers : List Opener) : Prop :=
  b.frames.map OpenFrame.mark = openers.map Opener.mark

namespace Builder

variable {b b' : Builder}

theorem Tracks.withBody (h : b.Tracks openers) (nodes : List Node) :
    (b.withBody nodes).Tracks openers := by
  obtain ⟨root, frames⟩ := b
  cases frames with
  | nil => exact h
  | cons frame frames =>
    rw [Tracks, List.map_cons] at h
    rw [Tracks, ← h, Builder.withBody]
    simp only [List.map_cons, OpenFrame.mark, OpenBlock.level_withBody]

theorem Tracks.openBlock (h : b.Tracks outer) (token : Token) (block : OpenBlock) :
    (b.openBlock token block).Tracks (⟨token, block.level⟩ :: outer) := by
  rw [Tracks, Builder.openBlock, List.map_cons, List.map_cons, h]
  rfl

theorem tracks_empty : Tracks {} [] := rfl

theorem Tracks.nil (h : b.Tracks []) : b.frames = [] :=
  List.map_eq_nil_iff.1 h

theorem Tracks.cons {opener : Opener} (h : b.Tracks (opener :: outer)) :
    ∃ block frames, b.frames = ⟨block, opener.token.line, opener.token.column⟩ :: frames ∧
      block.level = opener.level ∧ frames.map OpenFrame.mark = outer.map Opener.mark := by
  obtain ⟨⟨block, line, column⟩, frames, hframes, hmark, houter⟩ := List.map_eq_cons_iff.1 h
  simp only [OpenFrame.mark, Opener.mark, Prod.mk.injEq] at hmark
  obtain ⟨rfl, rfl, hlevel⟩ := hmark
  exact ⟨block, frames, hframes, hlevel, houter⟩

theorem Tracks.no_cond (h : b.Tracks openers) (hno : ∀ o ∈ openers.head?, o.level.kind ≠ .cond) :
    b.frames = [] ∨ ∃ frame frames, b.frames = frame :: frames ∧ frame.block.kind ≠ .cond := by
  cases openers with
  | nil => exact .inl h.nil
  | cons opener outer =>
    obtain ⟨block, frames, hframes, hlevel, _⟩ := h.cons
    refine .inr ⟨_, frames, hframes, ?_⟩
    rw [← block.kind_level, hlevel]
    exact hno opener rfl

theorem add_of_spells (b : Builder) {d : Directive} (h : token.Spells d) :
    b.add token = b.addDirective token d :=
  add_directive b (Token.symbol?_eq_directive_iff.2 h)

/-- A directive that is to blame is rejected, with the place and the text of its token. -/
theorem add_of_blame (h : b.Tracks openers) (hblame : Blame openers token cause) :
    b.add token = .error (fault token cause) := by
  cases hblame with
  | unknown hkind hunknown =>
    have hread : Directive.read? token.text = none := by
      rw [Option.eq_none_iff_forall_ne_some]
      exact fun d hd => hunknown d ⟨hkind, Directive.read?_eq_some_iff.1 hd⟩
    simp only [add, hkind, hread]
  | unmatchedEnd hspells => rw [add_of_spells b hspells, addDirective, h.nil]
  | elseWithoutIf hspells hno | elseIfWithoutIf hspells hno =>
    rw [add_of_spells b hspells, addDirective]
    rcases h.no_cond hno with hframes | ⟨⟨block, line, column⟩, frames, hframes, hkind⟩
    · rw [hframes]
    · rw [hframes]
      cases block with
      | clause | loop => rfl
      | cond | otherwise => exact absurd rfl hkind
  | duplicateElse hspells | elseIfAfterElse hspells =>
    obtain ⟨block, frames, hframes, hblock, _⟩ := h.cons
    rw [add_of_spells b hspells, addDirective, hframes]
    cases block with
    | otherwise => rfl
    | _ => cases hblock

namespace Tracks

variable {opening : Token} {condition : String}

theorem add_block {d : Directive} {level : Level} (h : b.Tracks outer) (hd : token.Spells d)
    (hlevel : d.level? = some level) :
    ∃ b', b.add token = .ok b' ∧ b'.Tracks (⟨token, level⟩ :: outer) := by
  rw [add_of_spells b hd]
  cases d with
  | clause kind =>
    obtain rfl := Option.some.inj hlevel
    exact ⟨_, rfl, h.openBlock token (.clause kind [])⟩
  | loop header =>
    obtain rfl := Option.some.inj hlevel
    exact ⟨_, rfl, h.openBlock token (.loop header [])⟩
  | cond condition =>
    obtain rfl := Option.some.inj hlevel
    exact ⟨_, rfl, h.openBlock token (.cond [] condition [])⟩
  | _ => cases hlevel

theorem add_elseCond (h : b.Tracks (⟨opening, .cond⟩ :: outer))
    (hd : token.Spells (.elseCond condition)) :
    ∃ b', b.add token = .ok b' ∧ b'.Tracks (⟨opening, .cond⟩ :: outer) := by
  obtain ⟨block, frames, hframes, hlevel, houter⟩ := h.cons
  cases block with
  | cond branches before body =>
    rw [add_of_spells b hd, addDirective, hframes]
    exact ⟨_, rfl, congrArg (_ :: ·) houter⟩
  | _ => cases hlevel

theorem add_otherwise (h : b.Tracks (⟨opening, .cond⟩ :: outer)) (hd : token.Spells .otherwise) :
    ∃ b', b.add token = .ok b' ∧ b'.Tracks (⟨opening, .otherwise⟩ :: outer) := by
  obtain ⟨block, frames, hframes, hlevel, houter⟩ := h.cons
  cases block with
  | cond branches before body =>
    rw [add_of_spells b hd, addDirective, hframes]
    exact ⟨_, rfl, congrArg (_ :: ·) houter⟩
  | _ => cases hlevel

theorem add_close {opener : Opener} (h : b.Tracks (opener :: outer)) (hd : token.Spells .close) :
    ∃ b', b.add token = .ok b' ∧ b'.Tracks outer := by
  obtain ⟨block, frames, hframes, _, houter⟩ := h.cons
  rw [add_of_spells b hd, addDirective, hframes]
  have htracks : Tracks { b with frames := frames } outer := houter
  exact ⟨_, rfl, htracks.withBody _⟩

end Tracks

/-- Where the grammar and the builder agree on the blocks that are open, they agree
    on the next directive: it leaves other blocks open, or it is to blame. -/
theorem next_or_blame (hts : Opens ts openers) (h : b.Tracks openers)
    (hkind : token.kind = .directive) :
    (∃ b' openers', b.add token = .ok b' ∧ Opens (ts ++ [token]) openers' ∧ b'.Tracks openers') ∨
      ∃ cause, Blame openers token cause := by
  -- A directive that opens a block is taken wherever it stands.
  have hopen {d : Directive} {level : Level} (hd : token.Spells d)
      (hlevel : d.level? = some level) : ∃ b' openers', b.add token = .ok b' ∧
        Opens (ts ++ [token]) openers' ∧ b'.Tracks openers' := by
    obtain ⟨b', hadd, htracks⟩ := h.add_block hd hlevel
    exact ⟨b', _, hadd, .block hts hd hlevel .empty, htracks⟩
  cases hread : Directive.read? token.text with
  | none =>
    refine .inr ⟨_, .unknown hkind fun d hd => ?_⟩
    rw [Directive.read?_eq_some_iff.2 hd.2] at hread
    cases hread
  | some d =>
    have hd : token.Spells d := ⟨hkind, Directive.read?_eq_some_iff.1 hread⟩
    cases d with
    | clause kind => exact .inl (hopen hd rfl)
    | loop header => exact .inl (hopen hd rfl)
    | cond condition => exact .inl (hopen hd rfl)
    | elseCond condition =>
      match openers, hts, h with
      | ⟨opening, .cond⟩ :: outer, hts, h =>
        obtain ⟨b', hadd, htracks⟩ := h.add_elseCond hd
        exact .inl ⟨b', _, hadd, .elseCond hts hd .empty, htracks⟩
      | ⟨_, .otherwise⟩ :: _, _, _ => exact .inr ⟨_, .elseIfAfterElse hd⟩
      | [], _, _ | ⟨_, .clause _⟩ :: _, _, _ | ⟨_, .loop⟩ :: _, _, _ =>
        exact .inr ⟨_, .elseIfWithoutIf hd (by simp [Level.kind])⟩
    | otherwise =>
      match openers, hts, h with
      | ⟨opening, .cond⟩ :: outer, hts, h =>
        obtain ⟨b', hadd, htracks⟩ := h.add_otherwise hd
        exact .inl ⟨b', _, hadd, .otherwise hts hd .empty, htracks⟩
      | ⟨_, .otherwise⟩ :: _, _, _ => exact .inr ⟨_, .duplicateElse hd⟩
      | [], _, _ | ⟨_, .clause _⟩ :: _, _, _ | ⟨_, .loop⟩ :: _, _, _ =>
        exact .inr ⟨_, .elseWithoutIf hd (by simp [Level.kind])⟩
    | close =>
      cases openers with
      | nil => exact .inr ⟨_, .unmatchedEnd hd⟩
      | cons opener outer =>
        obtain ⟨b', hadd, htracks⟩ := h.add_close hd
        exact .inl ⟨b', _, hadd, hts.close hd, htracks⟩

/-- A run of the builder over tokens it takes all of: their directives leave the blocks
    open that it tracks. -/
theorem opens_of_addAll {tokens : List Token} (hts : Opens ts openers) (h : b.Tracks openers)
    (hadd : b.addAll tokens = .ok b') :
    ∃ openers', Opens (ts ++ Token.directives tokens) openers' ∧ b'.Tracks openers' := by
  induction tokens generalizing ts openers b with
  | nil =>
    obtain rfl := Except.ok.inj hadd
    exact ⟨openers, (List.append_nil ts).symm ▸ hts, h⟩
  | cons token tokens ih =>
    cases hkind : token.kind with
    | literal =>
      -- A literal changes the innermost body, but not what the stack shows.
      rw [addAll_cons_of_add (b.add_literal hkind)] at hadd
      rw [Token.directives_cons_literal hkind]
      exact ih hts (h.withBody _) hadd
    | directive =>
      rw [Token.directives_cons_directive hkind, List.append_cons]
      rcases next_or_blame hts h hkind with
        ⟨next, openers', hnext, hopens, htracks⟩ | ⟨cause, hblame⟩
      · rw [addAll_cons_of_add hnext] at hadd
        exact ih hopens htracks hadd
      · rw [addAll, add_of_blame h hblame] at hadd
        cases hadd

/-- A run of the builder that fails: it does so at a directive that is to blame, with
    the blocks open that the directives before it leave open. -/
theorem blame_of_addAll {tokens : List Token} {e : SyntaxError} (hts : Opens ts openers)
    (h : b.Tracks openers) (hadd : b.addAll tokens = .error e) :
    ∃ before token after openers' cause, Token.directives tokens = before ++ token :: after ∧
      Opens (ts ++ before) openers' ∧ Blame openers' token cause ∧ e = fault token cause := by
  induction tokens generalizing ts openers b with
  | nil => cases hadd
  | cons token tokens ih =>
    cases hkind : token.kind with
    | literal =>
      rw [addAll_cons_of_add (b.add_literal hkind)] at hadd
      rw [Token.directives_cons_literal hkind]
      exact ih hts (h.withBody _) hadd
    | directive =>
      rw [Token.directives_cons_directive hkind]
      rcases next_or_blame hts h hkind with
        ⟨next, openers', hnext, hopens, htracks⟩ | ⟨cause, hblame⟩
      · rw [addAll_cons_of_add hnext] at hadd
        obtain ⟨before, token', after, openers', cause, hdirectives, hbefore, hblame⟩ :=
          ih hopens htracks hadd
        rw [List.append_assoc] at hbefore
        exact ⟨token :: before, token', after, openers', cause, congrArg (token :: ·) hdirectives,
          hbefore, hblame⟩
      · rw [addAll, add_of_blame h hblame] at hadd
        exact ⟨[], token, _, openers, cause, rfl, (List.append_nil ts).symm ▸ hts, hblame,
          (Except.error.inj hadd).symm⟩

/-- The fault of a template with open blocks is that of the outermost one. -/
theorem finish_of_tracks_concat {opener : Opener} (h : b.Tracks (openers ++ [opener])) :
    b.finish = .error
      { cause := .unclosedBlock
        line := opener.token.line
        column := opener.token.column
        block := some opener.level.kind } := by
  rw [Tracks, List.map_append] at h
  obtain ⟨frames, last, hframes, _, hlast⟩ := List.map_eq_append_iff.1 h
  obtain ⟨⟨block, line, column⟩, rest, rfl, hmark, hrest⟩ := List.map_eq_cons_iff.1 hlast
  simp only [OpenFrame.mark, Opener.mark, Prod.mk.injEq] at hmark
  obtain ⟨rfl, rfl, hlevel⟩ := hmark
  rw [List.map_eq_nil_iff.1 hrest] at hframes
  rw [finish, hframes, List.getLast?_concat, ← hlevel, block.kind_level]

end Builder

/-! ## Directives that the builder takes -/

theorem Word.kind_directive {part : Part} (h : Word part ts) : ∀ t ∈ ts, t.kind = .directive := by
  induction h with
  | empty => simp
  | append _ _ ihblock ihbody => grind
  | clause ht _ hu ih | loop ht _ hu ih | otherwise ht _ hu ih => grind [Token.Spells]
  | cond ht _ _ ihbody iharms | elseCond ht _ _ ihbody iharms => grind [Token.Spells]
  | close hu => grind [Token.Spells]

theorem Word.addAll (h : Word .body ts) (b : Builder) :
    ∃ nodes, b.addAll ts = .ok (b.withBody nodes) := by
  have hdirectives : Token.directives ts = ts :=
    List.filter_eq_self.2 fun t ht => by simp [h.kind_directive t ht]
  obtain ⟨phrases, hphrases⟩ := phrases_of_word h hdirectives
  exact ⟨_, Phrase.addAll_phrases phrases b ts hphrases⟩

theorem Word.addAll_after {us : List Token} {b b' : Builder} (h : Word .body us)
    (hb : Builder.addAll {} ts = .ok b) (hadd : b.add token = .ok b') (hb' : b'.Tracks openers) :
    ∃ b, Builder.addAll {} (ts ++ token :: us) = .ok b ∧ b.Tracks openers := by
  obtain ⟨nodes, hus⟩ := h.addAll b'
  refine ⟨_, ?_, hb'.withBody nodes⟩
  rw [Builder.addAll_append_of_addAll hb, Builder.addAll_cons_of_add hadd, hus]

/-- A builder takes all directives that leave blocks open, and then tracks these. -/
theorem Opens.addAll (h : Opens ts openers) :
    ∃ b, Builder.addAll {} ts = .ok b ∧ b.Tracks openers := by
  induction h with
  | word h =>
    obtain ⟨nodes, hadd⟩ := h.addAll {}
    exact ⟨_, hadd, rfl⟩
  | block _ ht hlevel hus ih =>
    obtain ⟨b, hb, htracks⟩ := ih
    obtain ⟨b', hadd, htracks⟩ := htracks.add_block ht hlevel
    exact hus.addAll_after hb hadd htracks
  | elseCond _ ht hus ih =>
    obtain ⟨b, hb, htracks⟩ := ih
    obtain ⟨b', hadd, htracks⟩ := htracks.add_elseCond ht
    exact hus.addAll_after hb hadd htracks
  | otherwise _ ht hus ih =>
    obtain ⟨b, hb, htracks⟩ := ih
    obtain ⟨b', hadd, htracks⟩ := htracks.add_otherwise ht
    exact hus.addAll_after hb hadd htracks

/-- After a directive that is to blame, no word is possible. -/
theorem Blame.not_viable (h : Blame openers token cause) (hts : Opens ts openers) :
    ¬ Viable (ts ++ [token]) := by
  rintro ⟨more, hword⟩
  -- The builder takes every word, but it stops at this directive.
  obtain ⟨b, hb, htracks⟩ := hts.addAll
  obtain ⟨nodes, hadd⟩ := hword.addAll {}
  rw [List.append_assoc, Builder.addAll_append_of_addAll hb, List.singleton_append, Builder.addAll,
    Builder.add_of_blame htracks h] at hadd
  cases hadd

/-- Whichever blocks directives may be said to leave open, the next is to blame for the
    same. -/
theorem Blame.of_opens {openers' : List Opener} (h : Blame openers token cause)
    (hts : Opens ts openers) (hts' : Opens ts openers') (hkind : token.kind = .directive) :
    Blame openers' token cause := by
  -- One builder tracks both, and it has one fault to give.
  obtain ⟨b, hb, htracks⟩ := hts.addAll
  obtain ⟨b', hb', htracks'⟩ := hts'.addAll
  obtain rfl := Except.ok.inj (hb.symm.trans hb')
  have herror := Builder.add_of_blame htracks h
  rcases Builder.next_or_blame hts' htracks' hkind with ⟨_, _, hok, _⟩ | ⟨cause', h'⟩
  · cases hok.symm.trans herror
  · have hfault := Except.error.inj ((Builder.add_of_blame htracks' h').symm.trans herror)
    obtain rfl : cause' = cause := congrArg SyntaxError.cause hfault
    exact h'

/-- Directives that leave blocks open are a word exactly if there are none of these. -/
theorem Opens.word_iff (h : Opens ts openers) : Word .body ts ↔ openers = [] := by
  constructor
  · intro hword
    obtain ⟨b, hb, htracks⟩ := h.addAll
    obtain ⟨b', hb', htracks'⟩ := (Opens.word hword).addAll
    obtain rfl := Except.ok.inj (hb.symm.trans hb')
    exact List.map_eq_nil_iff.1 (htracks.symm.trans htracks')
  · rintro rfl
    exact h.word_of_nil

/-! ## Faults of the tokens -/

namespace Token

theorem cause_of_ofLine {line pos : Nat} {first : Bool} {cs : List Char} {e : SyntaxError}
    (h : ofLine line pos first cs = .error e) : e.cause = .unterminatedDirective := by
  fun_induction ofLine line pos first cs with
  | case1 => cases h
  | case2 =>
    obtain rfl := Except.error.inj h
    rfl
  | case3 _ _ _ _ _ _ _ _ _ _ after _ _ _ ih =>
    cases hafter : ofLine line _ false after with
    | error e' =>
      rw [hafter] at h
      exact ih (hafter.trans h)
    | ok tokens =>
      rw [hafter] at h
      cases h

theorem cause_of_ofLines {line : Nat} {lines : List (List Char)} {e : SyntaxError}
    (h : ofLines line lines = .error e) : e.cause = .unterminatedDirective := by
  induction lines generalizing line with
  | nil => cases h
  | cons cs rest ih =>
    rw [ofLines] at h
    cases hline : ofLine line 0 true (dropReturn cs) with
    | error e' =>
      rw [hline] at h
      obtain rfl := Except.error.inj h
      exact cause_of_ofLine hline
    | ok tokens =>
      cases hrest : ofLines (line + 1) rest with
      | error e' =>
        rw [hline, hrest] at h
        obtain rfl := Except.error.inj h
        exact ih hrest
      | ok more =>
        rw [hline, hrest] at h
        cases h

end Token

/-! ## Trees and faults of tokens -/

theorem Token.Reads.spells {tokens : List Token} {symbols : List Symbol}
    (h : Token.Reads tokens symbols) :
    List.Forall₂ Token.Spells (Token.directives tokens) (Symbol.directives symbols) := by
  induction symbols generalizing tokens with
  | nil =>
    rw [h.nil]
    exact .nil
  | cons symbol symbols ih =>
    obtain ⟨token, rest, rfl, htoken, hrest⟩ := h.cons
    cases symbol with
    | literal token' =>
      rw [Token.directives_cons_literal (Token.symbol?_eq_literal_iff.1 htoken).1]
      exact ih hrest
    | directive d =>
      have hspells := Token.symbol?_eq_directive_iff.1 htoken
      rw [Token.directives_cons_directive hspells.1]
      exact .cons hspells (ih hrest)

/-! ## Templates -/

section Template

open Builder

variable {template : String} {tokens : List Token}

theorem ofTemplate_of_error {e : SyntaxError} (h : Token.ofTemplate template = .error e) :
    Node.ofTemplate template = .error e := by
  rw [Node.ofTemplate, h]
  rfl

theorem ofTemplate_of_addAll (h : Token.ofTemplate template = .ok tokens)
    {result : Except SyntaxError Builder} (hadd : addAll {} tokens = result) :
    Node.ofTemplate template = result.bind finish := by
  rw [Node.ofTemplate, h, ← hadd]
  rfl

/-- A template whose directives are a word has the tree of the phrases that its tokens
    are read as. -/
theorem ofTemplate_of_word (h : Token.ofTemplate template = .ok tokens)
    (hword : Word .body (Token.directives tokens)) :
    ∃ phrases, Token.Reads tokens (Phrase.symbols phrases) ∧
      Node.ofTemplate template = .ok (Phrase.nodes phrases) := by
  obtain ⟨phrases, hphrases⟩ := phrases_of_word hword rfl
  exact ⟨phrases, hphrases,
    ofTemplate_of_addAll h (Phrase.addAll_phrases phrases {} tokens hphrases)⟩

/-- A template after whose directives no word is possible has the fault of the first
    directive after which none is. -/
theorem ofTemplate_of_not_viable (h : Token.ofTemplate template = .ok tokens)
    (hviable : ¬ Viable (Token.directives tokens)) :
    ∃ before token after cause, Token.directives tokens = before ++ token :: after ∧
      Viable before ∧ ¬ Viable (before ++ [token]) ∧ (∃ openers, Opens before openers) ∧
      (∀ openers, Opens before openers → Blame openers token cause) ∧
      Node.ofTemplate template = .error (fault token cause) := by
  cases hadd : addAll {} tokens with
  | ok b =>
    obtain ⟨openers, hopens, _⟩ := opens_of_addAll (.word .empty) tracks_empty hadd
    exact absurd hopens.viable hviable
  | error e =>
    obtain ⟨before, token, after, openers, cause, hdirectives, hopens, hblame, rfl⟩ :=
      blame_of_addAll (.word .empty) tracks_empty hadd
    have hkind : token.kind = .directive := by
      have hmem : token ∈ Token.directives tokens := by simp [hdirectives]
      simpa using (List.mem_filter.1 hmem).2
    exact ⟨before, token, after, cause, hdirectives, hopens.viable, hblame.not_viable hopens,
      ⟨openers, hopens⟩, fun openers' hopens' => hblame.of_opens hopens hopens' hkind,
      ofTemplate_of_addAll h hadd⟩

/-- A template whose directives are no word, but may become one, has the fault of the
    outermost open block. -/
theorem ofTemplate_of_viable (h : Token.ofTemplate template = .ok tokens)
    (hviable : Viable (Token.directives tokens)) (hword : ¬ Word .body (Token.directives tokens)) :
    ∃ openers opener, Opens (Token.directives tokens) (openers ++ [opener]) ∧
      Node.ofTemplate template = .error
        { cause := .unclosedBlock
          line := opener.token.line
          column := opener.token.column
          block := some opener.level.kind } := by
  cases hadd : addAll {} tokens with
  | ok b =>
    obtain ⟨openers, hopens, htracks⟩ := opens_of_addAll (.word .empty) tracks_empty hadd
    rcases List.eq_nil_or_concat openers with rfl | ⟨front, opener, rfl⟩
    · exact absurd hopens.word_of_nil hword
    · rw [List.concat_eq_append] at hopens htracks
      exact ⟨front, opener, hopens,
        (ofTemplate_of_addAll h hadd).trans (finish_of_tracks_concat htracks)⟩
  | error e =>
    obtain ⟨before, token, after, openers, cause, hdirectives, hopens, hblame, rfl⟩ :=
      blame_of_addAll (.word .empty) tracks_empty hadd
    refine absurd (hviable.mono ⟨after, ?_⟩) (hblame.not_viable hopens)
    rw [hdirectives, List.append_assoc]
    rfl

/-- A template whose directives are no word has a fault, but not that of its tokens. -/
theorem ofTemplate_of_not_word (h : Token.ofTemplate template = .ok tokens)
    (hword : ¬ Word .body (Token.directives tokens)) :
    ∃ e, Node.ofTemplate template = .error e ∧ e.cause ≠ .unterminatedDirective := by
  by_cases hviable : Viable (Token.directives tokens)
  · obtain ⟨openers, opener, _, herror⟩ := ofTemplate_of_viable h hviable hword
    exact ⟨_, herror, nofun⟩
  · obtain ⟨before, token, after, cause, _, _, _, ⟨openers, hopens⟩, hblame, herror⟩ :=
      ofTemplate_of_not_viable h hviable
    refine ⟨_, herror, ?_⟩
    cases hblame openers hopens <;> nofun

theorem word_of_ofTemplate {nodes : List Node} (h : Token.ofTemplate template = .ok tokens)
    (hnodes : Node.ofTemplate template = .ok nodes) : Word .body (Token.directives tokens) := by
  by_contra hword
  obtain ⟨e, herror, _⟩ := ofTemplate_of_not_word h hword
  cases herror.symm.trans hnodes

/-- A template that has a tree has the tree of the phrases that its tokens are read as. -/
theorem exists_of_ofTemplate {nodes : List Node} (hnodes : Node.ofTemplate template = .ok nodes) :
    ∃ tokens phrases, Token.ofTemplate template = .ok tokens ∧
      Token.Reads tokens (Phrase.symbols phrases) ∧ nodes = Phrase.nodes phrases := by
  cases htokens : Token.ofTemplate template with
  | error e => cases (ofTemplate_of_error htokens).symm.trans hnodes
  | ok tokens =>
    obtain ⟨phrases, hreads, hok⟩ := ofTemplate_of_word htokens (word_of_ofTemplate htokens hnodes)
    exact ⟨tokens, phrases, rfl, hreads, Except.ok.inj (hnodes.symm.trans hok)⟩

theorem cause_of_tokens {e : SyntaxError} (h : Token.ofTemplate template = .ok tokens)
    (he : Node.ofTemplate template = .error e) : e.cause ≠ .unterminatedDirective := by
  by_cases hword : Word .body (Token.directives tokens)
  · obtain ⟨phrases, _, hok⟩ := ofTemplate_of_word h hword
    cases hok.symm.trans he
  · obtain ⟨e', herror, hcause⟩ := ofTemplate_of_not_word h hword
    obtain rfl := Except.error.inj (herror.symm.trans he)
    exact hcause

end Template

/-- A template is read into a tree exactly if its tokens can be read and their directives
    are a word of the grammar, and the tree is written with these. If its directives have
    a beginning after which no word is possible, the fault is at the last directive of the
    shortest one; else it is at the first directive that opens a block never closed. -/
theorem ofTemplate_grammar (template : String) :
    (∀ e, Token.ofTemplate template = .error e ↔
      Node.ofTemplate template = .error e ∧ e.cause = .unterminatedDirective) ∧
    ∀ tokens directives, Token.ofTemplate template = .ok tokens →
      directives = Token.directives tokens →
      ((∃ nodes, Node.ofTemplate template = .ok nodes) ↔ Word .body directives) ∧
      (∀ nodes, Node.ofTemplate template = .ok nodes →
        List.Forall₂ Token.Spells directives (Node.directives nodes)) ∧
      ((∃ start, start <+: directives ∧ ¬ Viable start) →
        ∃ before token after cause, directives = before ++ token :: after ∧
          Viable before ∧ ¬ Viable (before ++ [token]) ∧ (∃ openers, Opens before openers) ∧
          (∀ openers, Opens before openers → Blame openers token cause) ∧
          Node.ofTemplate template = .error
            { cause := cause
              line := token.line
              column := token.column
              found := some token.text }) ∧
      (¬ Word .body directives → (∀ start, start <+: directives → Viable start) →
        ∃ openers opener before after, Opens directives (openers ++ [opener]) ∧
          directives = before ++ opener.token :: after ∧ Word .body before ∧
          Node.ofTemplate template = .error
            { cause := .unclosedBlock
              line := opener.token.line
              column := opener.token.column
              block := some opener.level.kind }) := by
  constructor
  · intro e
    constructor
    · exact fun h => ⟨ofTemplate_of_error h, Token.cause_of_ofLines h⟩
    · rintro ⟨he, hcause⟩
      cases htokens : Token.ofTemplate template with
      | error e' =>
        obtain rfl := Except.error.inj ((ofTemplate_of_error htokens).symm.trans he)
        rfl
      | ok tokens => exact absurd hcause (cause_of_tokens htokens he)
  rintro tokens directives htokens rfl
  refine ⟨⟨?_, fun hword => ?_⟩, fun nodes hnodes => ?_, ?_, ?_⟩
  · rintro ⟨nodes, hnodes⟩
    exact word_of_ofTemplate htokens hnodes
  · obtain ⟨phrases, _, hok⟩ := ofTemplate_of_word htokens hword
    exact ⟨_, hok⟩
  · obtain ⟨phrases, hreads, hok⟩ :=
      ofTemplate_of_word htokens (word_of_ofTemplate htokens hnodes)
    obtain rfl := Except.ok.inj (hok.symm.trans hnodes)
    rw [Phrase.directives_nodes]
    exact hreads.spells
  · rintro ⟨start, hstart, hviable⟩
    exact ofTemplate_of_not_viable htokens fun h => hviable (h.mono hstart)
  · intro hword hviable
    obtain ⟨openers, opener, hopens, herror⟩ :=
      ofTemplate_of_viable htokens (hviable _ List.prefix_rfl) hword
    obtain ⟨before, after, hdirectives, hbefore⟩ := hopens.outermost
    exact ⟨openers, opener, before, after, hopens, hdirectives, hbefore, herror⟩

/-- A template with an `else if` after the `else`, and one with a clause that is never
    closed around a complete loop. -/
theorem ofTemplate_grammar_faults :
    let template := "a\x7b\x7bif p\x7d\x7db\x7b\x7belse\x7d\x7d\n  \x7b\x7belse if q\x7d\x7d"
    let opening : Token := ⟨.directive, "if p", 1, 2, false⟩
    let last : Token := ⟨.directive, "else", 1, 11, false⟩
    let next : Token := ⟨.directive, "else if q", 2, 3, false⟩
    let unclosed := "\x7b\x7bwhere\x7d\x7d\n\x7b\x7bfor x in xs\x7d\x7d\x7b\x7bend\x7d\x7d"
    let clause : Token := ⟨.directive, "where", 1, 1, false⟩
    let loop : Token := ⟨.directive, "for x in xs", 2, 1, false⟩
    let close : Token := ⟨.directive, "end", 2, 16, false⟩
    (¬ Viable [opening, last, next] ∧
      ∃ before token after cause, [opening, last, next] = before ++ token :: after ∧
        Viable before ∧ ¬ Viable (before ++ [token]) ∧ (∃ openers, Opens before openers) ∧
        (∀ openers, Opens before openers → Blame openers token cause) ∧
        Node.ofTemplate template =
          .error ⟨cause, token.line, token.column, some token.text, none⟩) ∧
    (¬ Word .body [clause, loop, close] ∧ Viable [clause, loop, close] ∧
      ∃ openers opener before after, Opens [clause, loop, close] (openers ++ [opener]) ∧
        [clause, loop, close] = before ++ opener.token :: after ∧ Word .body before ∧
        Node.ofTemplate unclosed = .error
          ⟨.unclosedBlock, opener.token.line, opener.token.column, none,
            some opener.level.kind⟩) := by
  intro template opening last next unclosed clause loop close
  have spells {t : Token} {d : Directive} (hkind : t.kind = .directive)
      (hread : Directive.read? t.text = some d) : t.Spells d :=
    ⟨hkind, Directive.read?_eq_some_iff.1 hread⟩
  have hopening : opening.Spells (.cond "p") := spells rfl (by decide +kernel)
  have hlast : last.Spells .otherwise := spells rfl (by decide +kernel)
  have hnext : next.Spells (.elseCond "q") := spells rfl (by decide +kernel)
  have hclause : clause.Spells (.clause .conditions) := spells rfl (by decide +kernel)
  have hloop : loop.Spells (.loop "x in xs") := spells rfl (by decide +kernel)
  have hclose : close.Spells .close := spells rfl (by decide +kernel)
  have hif : Opens [opening] [⟨opening, .cond⟩] := .block (.word .empty) hopening rfl .empty
  have hbefore : Opens [opening, last] [⟨opening, .otherwise⟩] := (hif.otherwise hlast .empty :)
  have hnot : ¬ Viable [opening, last, next] := (Blame.elseIfAfterElse hnext).not_viable hbefore
  have hblock : Word .block [loop, close] := (Word.loop hloop .empty hclose :)
  have hopen : Opens [clause, loop, close] [⟨clause, .clause .conditions⟩] :=
    .block (.word .empty) hclause rfl hblock.single
  have hword : ¬ Word .body [clause, loop, close] := fun h => by
    simpa using hopen.word_iff.1 h
  refine ⟨⟨hnot, ?_⟩, hword, hopen.viable, ?_⟩
  · have htokens : Token.ofTemplate template = .ok
        [⟨.literal, "a", 1, 1, false⟩, opening, ⟨.literal, "b", 1, 10, false⟩, last,
          ⟨.literal, "", 1, 19, false⟩, ⟨.literal, "  ", 2, 1, true⟩, next,
          ⟨.literal, "", 2, 16, false⟩] := by decide +kernel
    exact ((ofTemplate_grammar template).2 _ _ htokens rfl).2.2.1 ⟨_, List.prefix_rfl, hnot⟩
  · have htokens : Token.ofTemplate unclosed = .ok
        [clause, ⟨.literal, "", 1, 10, false⟩, ⟨.literal, "", 2, 1, true⟩, loop, close,
          ⟨.literal, "", 2, 23, false⟩] := by decide +kernel
    exact ((ofTemplate_grammar unclosed).2 _ _ htokens rfl).2.2.2 hword
      fun start hstart => hopen.viable.mono hstart

end QueryTemplate
