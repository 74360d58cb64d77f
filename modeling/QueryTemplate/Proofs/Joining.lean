import QueryTemplate.Proofs.Cutting
import QueryTemplate.Proofs.Places
import QueryTemplate.Proofs.Scanning

/-!
# Lines joined into one

A template of several lines means what it means in one line: a line is added to the text
before it without its leading blanks, and one blank comes in between unless there is one
already. The last literal of the text before and the first one of the line become one
literal, and everything else is read as before.

* `Text.joinLine`, `flat`: lines joined, and a template in one line;
* `Token.ofLine_joinLine`: the tokens of a line added to a text;
* `Phrase.addLiteral_addLiteral`: the joined literal adds what its parts add;
* `Token.exists_of_flat`: a template in one line has tokens that build the same tree;
* `ofTemplate_flat`: a template in one line has the same tree or the same fault.
-/

namespace QueryTemplate

namespace Text

/-- A text with a blank at its end, which may be there already. -/
def withBlank (cs : List Char) : List Char :=
  cs ++ if cs.getLast?.any isBlank then [] else [' ']

/-- A text with a line added to it. -/
def joinLine (cs line : List Char) : List Char :=
  withBlank cs ++ dropBlanks line

/-- The lines joined into one. -/
def joinLines : List (List Char) → List Char
  | [] => []
  | first :: rest => rest.foldl joinLine first

end Text

/-- A template in one line. -/
def flat (template : String) : String :=
  .ofList (Text.joinLines (Text.splitChar '\n' template.toList))

namespace Text

variable {cs : List Char}

theorem isBlank_getLast?_withBlank (cs : List Char) : (withBlank cs).getLast?.any isBlank := by
  rw [withBlank]
  split
  · next h => rwa [List.append_nil]
  · rw [List.getLast?_concat]
    rfl

theorem mem_withBlank {c : Char} (h : c ∈ withBlank cs) : c ∈ cs ∨ c = ' ' := by
  rw [withBlank] at h
  split at h
  · exact .inl (List.append_nil cs ▸ h)
  · simpa using h

theorem mem_of_mem_dropBlanks {c : Char} (h : c ∈ dropBlanks cs) : c ∈ cs :=
  (List.dropWhile_suffix _).mem h

theorem mem_joinLine {line : List Char} {c : Char} (h : c ∈ joinLine cs line) :
    c ∈ cs ∨ c = ' ' ∨ c ∈ line := by
  rcases List.mem_append.1 h with h | h
  · exact (mem_withBlank h).imp_right .inl
  · exact .inr (.inr (mem_of_mem_dropBlanks h))

theorem mem_foldl_joinLine {lines : List (List Char)} {c : Char}
    (h : c ∈ lines.foldl joinLine cs) : c ∈ cs ∨ c = ' ' ∨ ∃ line ∈ lines, c ∈ line := by
  induction lines generalizing cs with
  | nil => exact .inl h
  | cons line lines ih =>
    rcases ih h with h | h | ⟨line', hline', h⟩
    · rcases mem_joinLine h with h | h | h
      · exact .inl h
      · exact .inr (.inl h)
      · exact .inr (.inr ⟨line, List.mem_cons_self, h⟩)
    · exact .inr (.inl h)
    · exact .inr (.inr ⟨line', List.mem_cons_of_mem _ hline', h⟩)

theorem splitOnce_withBlank (h : splitOnce Token.opening cs = none) :
    splitOnce Token.opening (withBlank cs) = none := by
  rw [withBlank]
  split
  · rwa [List.append_nil]
  · rw [Token.opening, splitOnce_append h (by simp)]
    rfl

/-- Without leading blanks a text is cut at the same place. -/
theorem splitOnce_dropBlanks (cs : List Char) :
    splitOnce Token.opening (dropBlanks cs) =
      (splitOnce Token.opening cs).map fun (before, rest) => (dropBlanks before, rest) := by
  induction cs with
  | nil => rfl
  | cons c cs ih =>
    rw [dropBlanks, List.dropWhile_cons]
    split
    · next hblank =>
      have hstrip : stripStart Token.opening (c :: cs) = none := by
        rw [stripStart_eq_none_iff]
        rintro ⟨rest, hrest⟩
        obtain ⟨rfl, _⟩ := List.cons.inj hrest
        cases hblank
      rw [splitOnce, hstrip, Option.map_map]
      refine ih.trans (congrArg (Option.map · _) ?_)
      funext cut
      simp [dropBlanks, hblank]
    · next hblank =>
      -- The text begins with a character that is not blank, and so does what comes before.
      cases hcut : splitOnce Token.opening (c :: cs) with
      | none => rfl
      | some cut =>
        obtain ⟨before, rest⟩ := cut
        have hcs := ((splitOnce_eq_some_iff (by simp [Token.opening])).1 hcut).1
        cases before with
        | nil => rfl
        | cons d before =>
          obtain ⟨rfl, _⟩ := List.cons.inj hcs
          simp [dropBlanks, hblank]

end Text

/-! ## Tokens of joined lines -/

namespace Token

open Text

variable {line : Nat} {cs : List Char}

/-- The tokens of a text are the same at another place, up to their places. -/
theorem ofLine_unplaced {pos : Nat} {first : Bool} :
    ∀ tokens, ofLine line pos first cs = .ok tokens → ∀ line' pos' first',
      (first' && 1 < line') = (first && 1 < line) →
      ∃ tokens', ofLine line' pos' first' cs = .ok tokens' ∧
        tokens'.map unplaced = tokens.map unplaced := by
  fun_induction ofLine line pos first cs with
  | case1 pos first cs lineStart h =>
    intro tokens htokens line' pos' first' hstart
    obtain rfl := Except.ok.inj htokens
    refine ⟨_, ofLine_of_none h, ?_⟩
    rw [hstart]
    rfl
  | case2 => exact fun _ htokens => by cases htokens
  | case3 pos first cs lineStart before rest h start literal inside after h' _ directive ih =>
    intro tokens htokens line' pos' first' hstart
    obtain ⟨tail, htail, rfl⟩ := Except.exists_of_map htokens
    obtain ⟨tail', htail', hsame⟩ := ih tail htail line'
      (pos' + byteLength before + byteLength inside + 4) false rfl
    refine ⟨_, (ofLine_of_some h h').trans (congrArg (Except.map _) htail'), ?_⟩
    rw [hstart]
    simp only [literal, directive, lineStart, List.map_append, List.map_cons, hsame]
    split <;> simp_all [unplaced]

/-- The literal `next` begins a line and is joined to the literal `last` before it. -/
structure Joins (last next joined : Token) : Prop where
  kind_last : last.kind = .literal
  lineStart_last : last.lineStart = false
  kind_next : next.kind = .literal
  lineStart_next : next.lineStart
  kind_joined : joined.kind = .literal
  lineStart_joined : joined.lineStart = false
  text_joined : joined.text = last.text ++ next.joined (endsBlank last.text)

/-- A literal and the tokens after it, and the same with another text put before the literal. -/
theorem ofLine_append_dropBlanks {tokens : List Token} (hline : 1 < line)
    (htokens : ofLine line 0 true cs = .ok tokens) {left : List Char}
    (hleft : splitOnce opening left = none) (hblank : left.getLast?.any isBlank) (pos : Nat)
    (first : Bool) :
    ∃ next rest joined rest', tokens = next :: rest ∧ next.kind = .literal ∧ next.lineStart ∧
      ofLine 1 pos first (left ++ dropBlanks cs) = .ok (joined :: rest') ∧
      joined.kind = .literal ∧ joined.lineStart = false ∧
      joined.text = .ofList (left ++ dropBlanks next.text.toList) ∧
      rest'.map unplaced = rest.map unplaced := by
  have hseam : left.getLast? = some '\x7b' → (dropBlanks cs).head? ≠ some '\x7b' := by
    intro hlast
    rw [hlast] at hblank
    cases hblank
  have hcut : splitOnce opening (left ++ dropBlanks cs) =
      (splitOnce opening cs).map fun (before, rest) => (left ++ dropBlanks before, rest) := by
    rw [opening, splitOnce_append hleft hseam, ← opening, splitOnce_dropBlanks, Option.map_map]
    rfl
  revert htokens
  fun_cases ofLine line 0 true cs with
  | case1 lineStart h =>
    intro htokens
    obtain rfl := Except.ok.inj htokens
    rw [h] at hcut
    refine ⟨_, [], _, [], rfl, rfl, by simpa [lineStart] using hline, ofLine_of_none hcut, rfl, ?_,
      ?_, rfl⟩
    · simp
    · rw [String.toList_ofList]
  | case2 => exact fun htokens => by cases htokens
  | case3 lineStart before rest h start literal inside after h' _ directive =>
    intro htokens
    obtain ⟨tail, htail, rfl⟩ := Except.exists_of_map htokens
    rw [h] at hcut
    obtain ⟨tail', htail', hsame⟩ := ofLine_unplaced tail htail 1
      (pos + byteLength (left ++ dropBlanks before) + byteLength inside + 4) false rfl
    have hliteral : literal = [⟨.literal, .ofList before, line, 1, true⟩] := by
      simp [literal, lineStart, hline]
    have hempty : (left ++ dropBlanks before).isEmpty = false := by
      cases left with
      | nil => cases hblank
      | cons c left => rfl
    have hjoined : ofLine 1 pos first (left ++ dropBlanks cs) =
        .ok (⟨.literal, .ofList (left ++ dropBlanks before), 1, pos + 1, false⟩ ::
          ⟨.directive, .ofList (trimmed inside), 1,
            pos + byteLength (left ++ dropBlanks before) + 1, false⟩ :: tail') := by
      rw [ofLine_of_some hcut h', htail', hempty]
      simp [Except.map]
    exact ⟨_, directive :: tail, _, _, by rw [hliteral]; rfl, rfl, rfl, hjoined, rfl, rfl,
      by rw [String.toList_ofList], congrArg (directive.unplaced :: ·) hsame⟩

/-- The tokens of a line added to a text: the literals that meet are joined, and the others
    stay as they are, up to their places. -/
theorem ofLine_joinLine {acc : List Char} {tokens more : List Token} (hline : 1 < line)
    (htokens : ofLine 1 0 true acc = .ok tokens) (hmore : ofLine line 0 true cs = .ok more) :
    ∃ front last next rest joined rest', tokens = front ++ [last] ∧ more = next :: rest ∧
      ofLine 1 0 true (joinLine acc cs) = .ok (front ++ joined :: rest') ∧
      rest'.map unplaced = rest.map unplaced ∧ Joins last next joined ∧
      ∀ token ∈ front.getLast?, token.kind = .directive := by
  obtain ⟨front, last, pos, first, rfl, hkind, hstart, hlast, hblank, hacc⟩ :=
    ofLine_append tokens htokens
  have hfalse : last.lineStart = false := hstart.trans (Bool.and_false first)
  obtain ⟨next, rest, joined, rest', rfl, hnext, hbegins, hjoined, hkind', hfalse', htext, hsame⟩ :=
    ofLine_append_dropBlanks hline hmore (splitOnce_withBlank hlast)
      (isBlank_getLast?_withBlank last.text.toList) pos first
  refine ⟨front, last, next, rest, joined, rest', rfl, rfl, ?_, hsame,
    ⟨hkind, hfalse, hnext, hbegins, hkind', hfalse', ?_⟩, ?_⟩
  · rw [joinLine, withBlank, List.append_assoc, hacc, hblank, endsBlank, ← List.append_assoc,
      ← withBlank, hjoined]
    rfl
  · rw [htext, Token.joined, if_pos hbegins, withBlank, endsBlank, trimStart]
    split <;> simp
  · -- Two literals meet only where a line begins.
    intro token htoken
    have hseam := (List.isChain_append.1 (chain_ofLine _ htokens).1).2.2 token htoken last rfl
    cases htoken : token.kind with
    | directive => rfl
    | literal => cases hfalse.symm.trans (hseam htoken hkind)

end Token

/-! ## Trees of joined lines -/

theorem Token.Joins.startsBlank_joined {last next joined : Token}
    (h : Token.Joins last next joined) :
    Text.endsBlank last.text ∨
      Text.startsBlank (next.joined (Text.endsBlank last.text)).toList := by
  cases Text.endsBlank last.text with
  | true => exact .inl rfl
  | false =>
    right
    rw [Token.joined, if_pos h.lineStart_next]
    simp [Text.startsBlank]
    rfl

namespace Phrase

theorem addLiteral_of_inner {token : Token} (h : token.lineStart = false) (nodes : List Node) :
    addLiteral nodes token =
      if token.text.isEmpty then nodes else Builder.addText nodes token.text token.line := by
  rw [addLiteral, Builder.addedText, h]
  rfl

/-- Where no text comes before, a joined literal adds what its parts add. -/
theorem addLiteral_addLiteral {nodes : List Node} {last next joined : Token}
    (hnodes : ∀ front fragment, nodes ≠ front ++ [.text fragment])
    (h : Token.Joins last next joined) :
    addLiteral (addLiteral nodes last.unplaced) next.unplaced =
      addLiteral nodes joined.unplaced := by
  have hlast := addLiteral_of_inner (last.lineStart_unplaced.trans h.lineStart_last) nodes
  have hjoined := addLiteral_of_inner (joined.lineStart_unplaced.trans h.lineStart_joined) nodes
  have htext : joined.unplaced.text = last.text ++ next.joined (Text.endsBlank last.text) :=
    h.text_joined
  rw [hlast, hjoined, htext, Token.text_unplaced]
  by_cases hempty : last.text = ""
  · -- The last literal adds nothing, and the line begins with a blank.
    have hblank : Text.endsBlank "" = Builder.endsBlank nodes :=
      (endsBlank_of_ne_concat_text hnodes).symm
    have hnone : "".isEmpty = true := rfl
    rw [hempty, if_pos hnone, String.empty_append, hblank]
    rfl
  · have hsql (fragment : Fragment) (hfragment : fragment.sql = (extract last.text).sql) :
        Builder.endsBlank (nodes ++ [.text fragment]) = Text.endsBlank last.text := by
      rw [endsBlank_concat_text, hfragment, endsBlank_extract]
    have hne : (last.text ++ next.joined (Text.endsBlank last.text)).isEmpty = false := by
      simp [hempty]
    rw [if_neg (by simpa using hempty), hne, if_neg Bool.false_ne_true,
      Builder.addText_of_ne hnodes, Builder.addText_of_ne hnodes,
      extract_append h.startsBlank_joined, addLiteral, addedText_eq, hsql _ rfl]
    split
    · next hnone =>
      have hjoined : next.joined (Text.endsBlank last.text) = "" := String.isEmpty_iff.1 hnone
      simp [hjoined, extract, Piece.scan]
    · rw [Builder.addText_concat]
      rfl

end Phrase

namespace Builder

/-- After a directive, no text comes before the next literal. -/
theorem ne_concat_text_of_addDirective {b b' : Builder} {token : Token} {directive : Directive}
    (h : b.addDirective token directive = .ok b') :
    ∀ front fragment, b'.body ≠ front ++ [.text fragment] := by
  intro front fragment hbody
  obtain ⟨root, frames⟩ := b
  cases directive with
  | clause | loop | cond =>
    obtain rfl := Except.ok.inj h
    simp [openBlock, body, OpenBlock.body] at hbody
  | elseCond | otherwise =>
    rcases frames with - | ⟨⟨block, line, column⟩, frames⟩
    · cases h
    · cases block with
      | clause | loop | otherwise => cases h
      | cond branches before inner =>
        obtain rfl := Except.ok.inj h
        simp [body, OpenBlock.body] at hbody
  | close =>
    rcases frames with - | ⟨frame, frames⟩
    · cases h
    · obtain rfl := Except.ok.inj h
      rw [body_withBody] at hbody
      have hclose := (List.append_inj' hbody rfl).2
      cases hblock : frame.block <;> simp [hblock, OpenBlock.close] at hclose

theorem ne_concat_text_of_addAll {tokens : List Token} {b : Builder}
    (h : Builder.addAll {} tokens = .ok b)
    (hlast : ∀ token ∈ tokens.getLast?, token.kind = .directive) :
    ∀ front fragment, b.body ≠ front ++ [.text fragment] := by
  rcases List.eq_nil_or_concat tokens with rfl | ⟨front, token, rfl⟩
  · obtain rfl := Except.ok.inj h
    intro front fragment hbody
    simp [body] at hbody
  · rw [List.concat_eq_append] at h hlast
    rw [addAll_append] at h
    obtain ⟨b', hb', h⟩ := Except.exists_of_bind h
    obtain ⟨b'', hadd, h⟩ := Except.exists_of_bind h
    obtain rfl := Except.ok.inj h
    have hkind := hlast token List.getLast?_concat
    rcases cases_add hadd with ⟨hliteral, -⟩ | ⟨d, -, hadd⟩
    · cases hkind.symm.trans hliteral
    · exact ne_concat_text_of_addDirective hadd

/-- Joined literals build what their parts build. -/
theorem addAll_joins {front : List Token} {last next joined : Token}
    (hfront : ∀ token ∈ front.getLast?, token.kind = .directive)
    (h : Token.Joins last next joined) (rest : List Token) :
    Builder.addAll {} ((front ++ last :: next :: rest).map Token.unplaced) =
      Builder.addAll {} ((front ++ joined :: rest).map Token.unplaced) := by
  rw [List.map_append, List.map_append, addAll_append, addAll_append]
  cases hb : Builder.addAll {} (front.map Token.unplaced) with
  | error e => rfl
  | ok b =>
    have hbody := ne_concat_text_of_addAll hb (by simpa using hfront)
    have hliteral {token : Token} (b : Builder) (hkind : token.kind = .literal) :=
      add_literal b (token.kind_unplaced.trans hkind)
    refine (addAll_cons_of_add (hliteral b h.kind_last) _).trans ?_
    refine (addAll_cons_of_add (hliteral _ h.kind_next) _).trans ?_
    refine Eq.trans ?_ (addAll_cons_of_add (hliteral b h.kind_joined) _).symm
    rw [withBody_withBody, body_withBody, Phrase.addLiteral_addLiteral hbody h]

end Builder

/-! ## Templates in one line -/

namespace Token

open Text

/-- A literal among the tokens holds a question mark. -/
def HasMarker (tokens : List Token) : Prop :=
  ∃ token ∈ tokens, token.kind = .literal ∧ '?' ∈ token.text.toList

theorem hasMarker_cons {token : Token} {tokens : List Token} :
    HasMarker (token :: tokens) ↔
      (token.kind = .literal ∧ '?' ∈ token.text.toList) ∨ HasMarker tokens := by
  simp [HasMarker]

theorem hasMarker_append {tokens more : List Token} :
    HasMarker (tokens ++ more) ↔ HasMarker tokens ∨ HasMarker more := by
  simp [HasMarker, or_and_right, exists_or]

theorem hasMarker_unplaced {tokens : List Token} :
    HasMarker (tokens.map unplaced) ↔ HasMarker tokens := by
  simp [HasMarker]

/-- A question mark in a joined literal comes from its parts. -/
theorem Joins.marker {last next joined : Token} (h : Joins last next joined)
    (hmem : '?' ∈ joined.text.toList) : '?' ∈ last.text.toList ∨ '?' ∈ next.text.toList := by
  rw [h.text_joined, String.toList_append, List.mem_append] at hmem
  exact hmem.imp_right fun hmem => (mem_of_mem_joined hmem).resolve_left (by decide)

/-- Lines added to a text, one after the other: the tokens of the joined text build what the
    tokens of the text and of the lines build, and no question mark comes in. -/
theorem ofLine_foldl_joinLine {lines : List (List Char)} {line : Nat} {acc : List Char}
    {tokens more : List Token} (hline : 1 < line) (hreturn : ∀ cs ∈ lines, '\r' ∉ cs)
    (htokens : ofLine 1 0 true acc = .ok tokens) (hmore : ofLines line lines = .ok more) :
    ∃ tokens', ofLine 1 0 true (lines.foldl joinLine acc) = .ok tokens' ∧
      Builder.addAll {} (tokens'.map unplaced) = Builder.addAll {} ((tokens ++ more).map unplaced) ∧
      (HasMarker tokens' → HasMarker (tokens ++ more)) := by
  induction lines generalizing line acc tokens more with
  | nil =>
    obtain rfl := Except.ok.inj hmore
    rw [List.append_nil]
    exact ⟨tokens, htokens, rfl, id⟩
  | cons cs lines ih =>
    rw [ofLines, dropReturn_of_not_mem (hreturn cs List.mem_cons_self)] at hmore
    obtain ⟨first, hfirst, hmore⟩ := Except.exists_of_bind hmore
    obtain ⟨others, hothers, hmore⟩ := Except.exists_of_bind hmore
    obtain rfl := Except.ok.inj hmore
    obtain ⟨front, last, next, rest, joined, rest', rfl, rfl, hjoined, hsame, hjoins, hfront⟩ :=
      ofLine_joinLine hline htokens hfirst
    obtain ⟨tokens', htokens', hbuilds, hmarker⟩ := ih (Nat.lt_succ_of_lt hline)
      (fun cs hcs => hreturn cs (List.mem_cons_of_mem _ hcs)) hjoined hothers
    refine ⟨tokens', htokens', ?_, fun h => ?_⟩
    · have hparts := Builder.addAll_joins hfront hjoins (rest ++ others)
      rw [hbuilds]
      simpa [hsame] using hparts.symm
    · have hrest : HasMarker rest' ↔ HasMarker rest := by
        rw [← hasMarker_unplaced, hsame, hasMarker_unplaced]
      replace hmarker := hmarker h
      simp only [hasMarker_append, hasMarker_cons, hrest, hjoins.kind_last, hjoins.kind_next,
        hjoins.kind_joined, true_and] at hmarker ⊢
      rcases hmarker with (hfront | hjoined | hrest) | hothers
      · exact .inl (.inl hfront)
      · rcases hjoins.marker hjoined with hlast | hnext
        · exact .inl (.inr (.inl hlast))
        · exact .inr (.inl (.inl hnext))
      · exact .inr (.inl (.inr hrest))
      · exact .inr (.inr hothers)

end Token

namespace Text

theorem splitChar_ne_nil (c : Char) (cs : List Char) : splitChar c cs ≠ [] := by
  cases cs with
  | nil => simp [splitChar]
  | cons d cs =>
    rw [splitChar]
    split
    · simp
    · split <;> simp

/-- The lines of a text, joined, hold the characters of the text but the line feeds. -/
theorem mem_joinLines {cs : List Char} {c : Char}
    (h : c ∈ joinLines (splitChar '\n' cs)) : c = ' ' ∨ (c ∈ cs ∧ c ≠ '\n') := by
  cases hlines : splitChar '\n' cs with
  | nil => exact absurd hlines (splitChar_ne_nil _ _)
  | cons first rest =>
    rw [hlines] at h
    rcases mem_foldl_joinLine h with h | h | ⟨line, hline, h⟩
    · exact .inr (mem_of_mem_splitChar (hlines ▸ List.mem_cons_self) h)
    · exact .inl h
    · exact .inr (mem_of_mem_splitChar (hlines ▸ List.mem_cons_of_mem _ hline) h)

end Text

/-- A template in one line has no line breaks. -/
theorem not_mem_flat {template : String} (hreturn : '\r' ∉ template.toList) {c : Char}
    (hc : c = '\n' ∨ c = '\r') : c ∉ (flat template).toList := by
  intro hmem
  rw [flat, String.toList_ofList] at hmem
  rcases Text.mem_joinLines hmem with rfl | ⟨hmem, hne⟩
  · simp at hc
  · rcases hc with rfl | rfl
    · exact hne rfl
    · exact hreturn hmem

/-- A template in one line has tokens that build what those of the template build. -/
theorem Token.exists_of_flat {template : String} {tokens : List Token}
    (hreturn : '\r' ∉ template.toList) (h : Token.ofTemplate template = .ok tokens) :
    ∃ tokens', Token.ofLine 1 0 true (flat template).toList = .ok tokens' ∧
      Token.ofTemplate (flat template) = .ok tokens' ∧
      Node.ofTokens (tokens'.map unplaced) = Node.ofTokens (tokens.map unplaced) ∧
      (HasMarker tokens' → HasMarker tokens) := by
  have hlines (cs : List Char) (hcs : cs ∈ Text.splitChar '\n' template.toList) : '\r' ∉ cs :=
    fun hmem => hreturn (Text.mem_of_mem_splitChar hcs hmem).1
  have htemplate : Token.ofTemplate (flat template) = ofLine 1 0 true (flat template).toList := by
    rw [← Token.ofTemplate_line (not_mem_flat hreturn (.inl rfl))
      (not_mem_flat hreturn (.inr rfl)), String.ofList_toList]
  rw [htemplate]
  rw [Token.ofTemplate] at h
  cases hsplit : Text.splitChar '\n' template.toList with
  | nil => exact absurd hsplit (Text.splitChar_ne_nil _ _)
  | cons first rest =>
    rw [hsplit] at h hlines
    rw [ofLines, dropReturn_of_not_mem (hlines first List.mem_cons_self)] at h
    obtain ⟨before, hbefore, h⟩ := Except.exists_of_bind h
    obtain ⟨more, hmore, h⟩ := Except.exists_of_bind h
    obtain rfl := Except.ok.inj h
    obtain ⟨tokens', htokens', hbuilds, hmarker⟩ := ofLine_foldl_joinLine Nat.one_lt_two
      (fun cs hcs => hlines cs (List.mem_cons_of_mem _ hcs)) hbefore hmore
    rw [flat, hsplit, String.toList_ofList, Text.joinLines]
    exact ⟨tokens', htokens', htokens', congrArg (· >>= Builder.finish) hbuilds, hmarker⟩

/-- A template of several lines means what it means in one line: both have a tree, and the
    trees are equal up to the lines of their texts, or both have a fault, with the same cause, the
    same text and the same block. -/
theorem ofTemplate_flat {template : String} {tokens : List Token}
    (hreturn : '\r' ∉ template.toList) (h : Token.ofTemplate template = .ok tokens) :
    (∃ nodes nodes', Node.ofTemplate template = .ok nodes ∧
      Node.ofTemplate (flat template) = .ok nodes' ∧ Node.unplaced nodes' = Node.unplaced nodes) ∨
    (∃ e e', Node.ofTemplate template = .error e ∧ Node.ofTemplate (flat template) = .error e' ∧
      e'.cause = e.cause ∧ e'.found = e.found ∧ e'.block = e.block) := by
  obtain ⟨tokens', -, h', hbuilds, -⟩ := Token.exists_of_flat hreturn h
  rw [Node.ofTokens_unplaced, Node.ofTokens_unplaced, ← Node.ofTemplate_eq h,
    ← Node.ofTemplate_eq h'] at hbuilds
  cases hnodes : Node.ofTemplate template with
  | ok nodes =>
    left
    cases hnodes' : Node.ofTemplate (flat template) with
    | ok nodes' =>
      rw [hnodes, hnodes'] at hbuilds
      exact ⟨nodes, nodes', rfl, rfl, Except.ok.inj hbuilds⟩
    | error e' =>
      rw [hnodes, hnodes'] at hbuilds
      cases hbuilds
  | error e =>
    right
    cases hnodes' : Node.ofTemplate (flat template) with
    | ok nodes' =>
      rw [hnodes, hnodes'] at hbuilds
      cases hbuilds
    | error e' =>
      rw [hnodes, hnodes'] at hbuilds
      have hfault : e'.unplaced = e.unplaced := Except.error.inj hbuilds
      have hparts := SyntaxError.mk.inj hfault
      exact ⟨e, e', rfl, rfl, hparts.1, hparts.2.2.2⟩

/-- Lines that begin and end with directives, an empty line, and a placeholder at each seam. -/
theorem ofTemplate_flat_lines :
    let template := "@a,\n   @b \n\n\x7b\x7bif p\x7d\x7d\n" ++
      "  \\@@c\x7b\x7belse\x7d\x7dx\n\x7b\x7bend\x7d\x7d\n@@table"
    let line := "@a, @b \x7b\x7bif p\x7d\x7d \\@@c\x7b\x7belse\x7d\x7dx \x7b\x7bend\x7d\x7d @@table"
    flat template = line ∧ '\r' ∉ template.toList ∧
      ∃ nodes nodes', Node.ofTemplate template = .ok nodes ∧ Node.ofTemplate line = .ok nodes' ∧
        Node.unplaced nodes' = Node.unplaced nodes := by
  intro template line
  have hflat : flat template = line := by decide +kernel
  have hreturn : '\r' ∉ template.toList := by decide +kernel
  have hok : (Node.ofTemplate template).isOk = true := by decide +kernel
  refine ⟨hflat, hreturn, ?_⟩
  cases htokens : Token.ofTemplate template with
  | error e =>
    rw [Node.ofTemplate, htokens] at hok
    cases hok
  | ok tokens =>
    rw [← hflat]
    rcases ofTemplate_flat hreturn htokens with h | ⟨e, e', he, -⟩
    · exact h
    · rw [he] at hok
      cases hok

end QueryTemplate
