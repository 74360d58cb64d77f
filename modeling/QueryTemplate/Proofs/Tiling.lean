import Mathlib.Data.List.Forall2
import QueryTemplate.Proofs.Joining

/-!
# Lines tiled by tokens

The tokens of a line cover it from its start to its end, each from where the one before it ends. A
literal covers its text, and a directive what is between its braces, and the braces. Where a
directive begins is decided by reading the line from left to right: at the first opening braces
that are not inside of another directive. If no closing braces come after them, the line has no
tokens, and neither has the template.

* `Token.Covers`, `Token.Tiles`: tokens cover the characters of a line;
* `Token.Row`: they are all the tokens of the line, and `Token.ofLine_eq_ok_iff`: these are found;
* `Token.Finds`: opening braces outside of directives;
* `Token.Unclosed`: such braces without an end, and `Token.ofLine_eq_error_iff`: the fault of a line
  is about these;
* `ofTemplate_tiled`: the tokens of a template, or its fault, line by line.
-/

namespace QueryTemplate

namespace Text

/-! ## Lines -/

/-- The pieces of a text with the separators put back are the text. -/
theorem intercalate_splitChar (sep : Char) (cs : List Char) :
    [sep].intercalate (splitChar sep cs) = cs := by
  induction cs with
  | nil => rfl
  | cons c cs ih =>
    obtain ⟨piece, pieces, hpieces⟩ := List.exists_cons_of_ne_nil (splitChar_ne_nil sep cs)
    rw [hpieces] at ih
    rw [splitChar, hpieces]
    split
    · next hc => rw [List.intercalate_cons_cons, ih, hc]; rfl
    · cases pieces with
      | nil => simpa using ih
      | cons next pieces =>
        rw [List.intercalate_cons_cons] at ih ⊢
        exact congrArg (c :: ·) ih

end Text

namespace Token

open Text

/-! ## Tokens of a line -/

/-- The token covers the characters `covered` of a line, which `after` follows. A literal covers its
    text, in which no directive begins; a directive covers its braces and what is between them, up
    to the first that close it. -/
inductive Covers (token : Token) : (covered after : List Char) → Prop
  | literal {covered after : List Char} : token.kind = .literal → token.text = .ofList covered →
      ¬ opening <:+: covered ++ after.take 1 → Covers token covered after
  | directive {inside after : List Char} : token.kind = .directive →
      token.text = .ofList (trimmed inside) → ¬ closing <:+: inside ++ closing.dropLast →
      Covers token (opening ++ (inside ++ closing)) after

/-- The tokens cover the characters `cs` of a line, which come after `before`, one token after the
    other, and have their places. -/
inductive Tiles (line : Nat) : (before cs : List Char) → List Token → Prop
  | nil {before : List Char} : Tiles line before [] []
  | cons {before covered after : List Char} {token : Token} {tokens : List Token} :
      token.line = line → token.column = (String.ofList before).utf8ByteSize + 1 →
      Covers token covered after → Tiles line (before ++ covered) after tokens →
      Tiles line before (covered ++ after) (token :: tokens)

/-- The tokens of the characters `cs` of a line, which come after `before`. `begins` says that a
    line other than the first begins with them. -/
structure Row (line : Nat) (begins : Bool) (before cs : List Char) (tokens : List Token) :
    Prop where
  /-- The tokens cover the characters. -/
  tiles : Tiles line before cs tokens
  /-- The last token is a literal. -/
  last : ∃ token ∈ tokens.getLast?, token.kind = .literal
  /-- The first token is marked if a line begins with it, and is a literal then. -/
  head : ∃ token ∈ tokens.head?, token.lineStart = begins ∧ (begins → token.kind = .literal)
  /-- No other token is marked. -/
  tail : ∀ token ∈ tokens.tail, token.lineStart = false
  /-- Only a literal that is marked or the last token may be empty. -/
  filled : ∀ token ∈ tokens.dropLast, token.kind = .literal → token.text = "" → token.lineStart
  /-- No literal comes right after another one. -/
  turns : tokens.IsChain fun token next => token.kind = .literal → next.kind = .directive

/-! ## Opening braces -/

/-- Reading the characters `cs` from left to right, opening braces outside of directives are found
    after `before`, and `rest` comes after them. -/
inductive Finds : (cs before rest : List Char) → Prop
  | here {cs rest : List Char} : cs = opening ++ rest → Finds cs [] rest
  | char {c : Char} {cs before rest : List Char} : ¬ opening <+: c :: cs → Finds cs before rest →
      Finds (c :: cs) (c :: before) rest
  | directive {cs inside after before rest : List Char} :
      cs = opening ++ (inside ++ (closing ++ after)) → ¬ closing <:+: inside ++ closing.dropLast →
      Finds after before rest → Finds cs (opening ++ (inside ++ (closing ++ before))) rest

/-- Opening braces outside of directives, after `before` and before `rest`, are not closed. -/
def Unclosed (cs before rest : List Char) : Prop :=
  Finds cs before rest ∧ ¬ closing <:+: rest

/-- The fault of opening braces that are not closed. -/
def unterminated (line : Nat) (before rest : List Char) : SyntaxError where
  cause := .unterminatedDirective
  line := line
  column := (String.ofList before).utf8ByteSize + 1
  found := some (.ofList (trimmed (opening ++ rest)))

/-! ## Places in bytes -/

theorem utf8ByteSize_ofList (cs : List Char) : (String.ofList cs).utf8ByteSize = byteLength cs := by
  induction cs with
  | nil => rfl
  | cons c cs ih =>
    rw [byteLength, List.foldr_cons, ← byteLength, ← ih]
    simp

theorem byteLength_append (cs more : List Char) :
    byteLength (cs ++ more) = byteLength cs + byteLength more := by
  simp only [← utf8ByteSize_ofList, String.ofList_append, String.utf8ByteSize_append]

theorem byteLength_directive (inside : List Char) :
    byteLength (opening ++ (inside ++ closing)) = byteLength inside + 4 := by
  have hbraces : byteLength opening = 2 ∧ byteLength closing = 2 := by decide
  rw [byteLength_append, byteLength_append]
  omega

theorem opening_ne_nil : opening ≠ [] := List.cons_ne_nil _ _

theorem closing_ne_nil : closing ≠ [] := List.cons_ne_nil _ _

variable {line : Nat} {begins : Bool} {before cs front inside after rest : List Char}
  {token next : Token} {tokens tail : List Token}

/-! ## Rows put together -/

/-- The literal with a text that comes after `before`. -/
def literalAt (line : Nat) (begins : Bool) (before text : List Char) : Token :=
  ⟨.literal, .ofList text, line, byteLength before + 1, begins⟩

/-- The directive with `inside` between its braces that comes after `before`. -/
def directiveAt (line : Nat) (before inside : List Char) : Token :=
  ⟨.directive, .ofList (trimmed inside), line, byteLength before + 1, false⟩

/-- The literal before a directive, which is left out if it is empty and no line begins there. -/
def lead (line : Nat) (begins : Bool) (before front : List Char) : List Token :=
  if front.isEmpty && !begins then [] else [literalAt line begins before front]

theorem Row.single (h : ¬ opening <:+: cs) :
    Row line begins before cs [literalAt line begins before cs] where
  tiles := by
    rw [← List.append_nil cs] at h
    have htiles : Tiles line before (cs ++ []) [literalAt line begins before cs] :=
      .cons rfl (by rw [utf8ByteSize_ofList]; rfl) (.literal rfl rfl h) .nil
    rwa [List.append_nil] at htiles
  last := ⟨_, rfl, rfl⟩
  head := ⟨_, rfl, rfl, fun _ => rfl⟩
  tail := nofun
  filled := nofun
  turns := .singleton _

theorem Row.ne_nil (h : Row line begins before cs tokens) : tokens ≠ [] := by
  rintro rfl
  obtain ⟨_, hlast, -⟩ := h.last
  cases hlast

theorem Row.last_cons (h : Row line begins before cs tokens) (token : Token) :
    ∃ last ∈ (token :: tokens).getLast?, last.kind = .literal := by
  obtain ⟨last, hlast, hkind⟩ := h.last
  exact ⟨last, by rw [List.getLast?_cons, hlast]; rfl, hkind⟩

theorem Row.unmarked (h : Row line false before cs tokens) :
    ∀ token ∈ tokens, token.lineStart = false := by
  obtain ⟨first, hfirst, hstart, -⟩ := h.head
  obtain ⟨more, rfl⟩ := List.head?_eq_some_iff.1 hfirst
  exact List.forall_mem_cons.2 ⟨hstart, h.tail⟩

theorem Row.directive (hinside : ¬ closing <:+: inside ++ closing.dropLast)
    (h : Row line false (before ++ (opening ++ (inside ++ closing))) after tail) :
    Row line false before (opening ++ (inside ++ (closing ++ after)))
      (directiveAt line before inside :: tail) where
  tiles := by
    rw [← List.append_assoc inside, ← List.append_assoc opening]
    exact .cons rfl (by rw [utf8ByteSize_ofList]; rfl) (.directive rfl rfl hinside) h.tiles
  last := h.last_cons _
  head := ⟨_, rfl, rfl, nofun⟩
  tail := h.unmarked
  filled := by
    rw [List.dropLast_cons_of_ne_nil h.ne_nil]
    exact List.forall_mem_cons.2 ⟨nofun, h.filled⟩
  turns := List.isChain_cons.2 ⟨fun _ _ => nofun, h.turns⟩

theorem Row.literal (hfront : ¬ opening <:+: front ++ after.take 1) (hfilled : front = [] → begins)
    (hkind : next.kind = .directive)
    (h : Row line false (before ++ front) after (next :: tail)) :
    Row line begins before (front ++ after) (literalAt line begins before front :: next :: tail)
    where
  tiles := .cons rfl (by rw [utf8ByteSize_ofList]; rfl) (.literal rfl rfl hfront) h.tiles
  last := h.last_cons _
  head := ⟨_, rfl, rfl, fun _ => rfl⟩
  tail := h.unmarked
  filled := by
    rw [List.dropLast_cons_of_ne_nil h.ne_nil]
    refine List.forall_mem_cons.2 ⟨fun _ hempty => hfilled ?_, h.filled⟩
    rwa [literalAt, ← String.toList_inj, String.toList_ofList] at hempty
  turns := List.isChain_cons.2 ⟨fun _ hnext _ => Option.some.inj hnext ▸ hkind, h.turns⟩

/-- A row of a directive with what may come before it. -/
theorem Row.block (hfront : ¬ opening <:+: front ++ opening.dropLast)
    (hinside : ¬ closing <:+: inside ++ closing.dropLast)
    (h : Row line false (before ++ front ++ (opening ++ (inside ++ closing))) after tail) :
    Row line begins before (front ++ (opening ++ (inside ++ (closing ++ after))))
      (lead line begins before front ++ directiveAt line (before ++ front) inside :: tail) := by
  have hdirective := Row.directive hinside h
  rw [lead]
  split
  · next hempty =>
    rw [Bool.and_eq_true, List.isEmpty_iff, Bool.not_eq_true'] at hempty
    obtain ⟨rfl, rfl⟩ := hempty
    rwa [List.append_nil] at hdirective ⊢
  · next hempty =>
    refine .literal hfront (fun hnil => ?_) rfl hdirective
    rw [hnil] at hempty
    simpa using hempty

/-! ## Rows taken apart -/

theorem Row.of_cons (h : Row line begins before cs (token :: tokens)) (hrest : tokens ≠ [])
    (htiles : Tiles line (before ++ front) after tokens) :
    Row line false (before ++ front) after tokens where
  tiles := htiles
  last := by
    obtain ⟨last, hlast, hkind⟩ := h.last
    obtain ⟨next, more, rfl⟩ := List.exists_cons_of_ne_nil hrest
    exact ⟨last, hlast, hkind⟩
  head := by
    obtain ⟨next, more, rfl⟩ := List.exists_cons_of_ne_nil hrest
    exact ⟨next, rfl, h.tail next List.mem_cons_self, nofun⟩
  tail := fun token htoken => h.tail token (List.mem_of_mem_tail htoken)
  filled := by
    have hfilled := h.filled
    rw [List.dropLast_cons_of_ne_nil hrest] at hfilled
    exact (List.forall_mem_cons.1 hfilled).2
  turns := (List.isChain_cons.1 h.turns).2

/-- A row that begins with a directive: what is inside of it, and the row after it. -/
theorem Row.of_directive (h : Row line begins before cs (token :: tokens))
    (hkind : token.kind = .directive) :
    ∃ inside after, cs = opening ++ (inside ++ (closing ++ after)) ∧
      ¬ closing <:+: inside ++ closing.dropLast ∧ begins = false ∧
      token = directiveAt line before inside ∧
      Row line false (before ++ (opening ++ (inside ++ closing))) after tokens := by
  -- The last token is a literal.
  have hrest : tokens ≠ [] := by
    rintro rfl
    obtain ⟨last, hlast, hliteral⟩ := h.last
    cases Option.some.inj hlast
    cases hkind.symm.trans hliteral
  obtain ⟨first, hfirst, hstart, hbegins⟩ := h.head
  obtain rfl := Option.some.inj hfirst
  have hfalse : begins = false := by
    by_contra hne
    cases hkind.symm.trans (hbegins (by simpa using hne))
  cases h.tiles with
  | cons hline hcolumn hcovers htiles =>
    cases hcovers with
    | literal hliteral => cases hkind.symm.trans hliteral
    | @directive inside _ _ htext hinside =>
      refine ⟨inside, _, by simp, hinside, hfalse, ?_, h.of_cons hrest htiles⟩
      obtain ⟨kind, text, line', column, lineStart⟩ := token
      simp_all [directiveAt, utf8ByteSize_ofList]

/-- A row that begins with a literal: there is nothing else, or a directive comes next. -/
theorem Row.of_literal (h : Row line begins before cs (token :: tokens))
    (hkind : token.kind = .literal) :
    ∃ front after, cs = front ++ after ∧ ¬ opening <:+: front ++ after.take 1 ∧
      token = literalAt line begins before front ∧ (tokens = [] ∧ after = [] ∨
        (front = [] → begins) ∧ Row line false (before ++ front) after tokens ∧
          ∀ next ∈ tokens.head?, next.kind = .directive) := by
  obtain ⟨first, hfirst, hstart, -⟩ := h.head
  obtain rfl := Option.some.inj hfirst
  cases h.tiles with
  | @cons _ front after _ _ hline hcolumn hcovers htiles =>
    cases hcovers with
    | directive hdirective => cases hkind.symm.trans hdirective
    | literal _ htext hfront =>
      have htoken : token = literalAt line begins before front := by
        obtain ⟨kind, text, line', column, lineStart⟩ := token
        simp_all [literalAt, utf8ByteSize_ofList]
      refine ⟨front, after, rfl, hfront, htoken, ?_⟩
      by_cases hrest : tokens = []
      · subst hrest
        cases htiles
        exact .inl ⟨rfl, rfl⟩
      · refine .inr ⟨fun hnil => ?_, h.of_cons hrest htiles, fun next hnext =>
          (List.isChain_cons.1 h.turns).1 next hnext hkind⟩
        -- It is not the last token, so it is empty only if it is marked.
        have hfilled := h.filled
        rw [List.dropLast_cons_of_ne_nil hrest] at hfilled
        rw [← hstart]
        exact (List.forall_mem_cons.1 hfilled).1 hkind (by rw [htext, hnil])

/-- A row is a literal, or begins with a directive and what may come before it. -/
theorem Row.cases_block (h : Row line begins before cs tokens) :
    (¬ opening <:+: cs ∧ tokens = [literalAt line begins before cs]) ∨
      ∃ front inside after tail,
        splitOnce opening cs = some (front, inside ++ (closing ++ after)) ∧
        splitOnce closing (inside ++ (closing ++ after)) = some (inside, after) ∧
        Row line false (before ++ front ++ (opening ++ (inside ++ closing))) after tail ∧
        tokens = lead line begins before front ++
          directiveAt line (before ++ front) inside :: tail := by
  obtain ⟨token, tokens, rfl⟩ := List.exists_cons_of_ne_nil h.ne_nil
  cases hkind : token.kind with
  | directive =>
    obtain ⟨inside, after, rfl, hinside, rfl, rfl, hrow⟩ := h.of_directive hkind
    refine .inr ⟨[], inside, after, tokens,
      (splitOnce_eq_some_iff opening_ne_nil).2 ⟨rfl, by decide⟩,
      (splitOnce_eq_some_iff closing_ne_nil).2 ⟨rfl, hinside⟩, ?_, ?_⟩
    · rwa [List.append_nil]
    · rw [List.append_nil]
      rfl
  | literal =>
    obtain ⟨front, rest, rfl, hfront, rfl, ⟨rfl, rfl⟩ | ⟨hfilled, hrow, hnext⟩⟩ :=
      h.of_literal hkind
    · rw [List.append_nil]
      exact .inl ⟨by simpa using hfront, rfl⟩
    · obtain ⟨next, tail, rfl⟩ := List.exists_cons_of_ne_nil hrow.ne_nil
      obtain ⟨inside, after, rfl, hinside, -, rfl, hafter⟩ := hrow.of_directive (hnext next rfl)
      refine .inr ⟨front, inside, after, tail,
        (splitOnce_eq_some_iff opening_ne_nil).2 ⟨rfl, hfront⟩,
        (splitOnce_eq_some_iff closing_ne_nil).2 ⟨rfl, hinside⟩, hafter, ?_⟩
      have hlead : ¬ (front.isEmpty && !begins) := by
        rw [Bool.and_eq_true, List.isEmpty_iff, Bool.not_eq_true']
        rintro ⟨hnil, hfalse⟩
        cases hfalse.symm.trans (hfilled hnil)
      rw [lead, if_neg hlead]
      rfl

/-- The tokens that are found in a line are those that make up a row of it. -/
theorem ofLine_eq_ok_iff {pos : Nat} {first : Bool} :
    ∀ before tokens, byteLength before = pos →
      (ofLine line pos first cs = .ok tokens ↔ Row line (first && 1 < line) before cs tokens) := by
  fun_induction ofLine line pos first cs with
  | case1 pos first cs lineStart h =>
    rintro before tokens rfl
    constructor
    · intro htokens
      obtain rfl := Except.ok.inj htokens
      exact .single ((splitOnce_eq_none_iff opening_ne_nil).1 h)
    · intro hrow
      obtain ⟨-, rfl⟩ | ⟨front, inside, after, tail, hcut, -⟩ := hrow.cases_block
      · rfl
      · cases h.symm.trans hcut
  | case2 pos first cs front rest h start h' =>
    refine fun before tokens _ => ⟨fun hok => (by cases hok), fun hrow => ?_⟩
    obtain ⟨hnone, -⟩ | ⟨front', inside, after, tail, hcut, hcut', -⟩ := hrow.cases_block
    · cases h.symm.trans ((splitOnce_eq_none_iff opening_ne_nil).2 hnone)
    · obtain ⟨rfl, rfl⟩ := Prod.mk.inj (Option.some.inj (h.symm.trans hcut))
      cases h'.symm.trans hcut'
  | case3 pos first cs lineStart front rest h start literal inside after h' hlt directive ih =>
    rintro before tokens rfl
    -- The row after the directive begins at the byte that is read next.
    have hstart : byteLength (before ++ front) = start := byteLength_append before front
    have hplace : byteLength (before ++ front ++ (opening ++ (inside ++ closing))) =
        start + byteLength inside + 4 := by
      rw [byteLength_append, hstart, byteLength_directive]
      exact (Nat.add_assoc ..).symm
    have htokens (tail : List Token) : literal ++ directive :: tail =
        lead line lineStart before front ++ directiveAt line (before ++ front) inside :: tail := by
      rw [directiveAt, hstart]
      rfl
    constructor
    · intro hok
      obtain ⟨tail, htail, rfl⟩ := Except.exists_of_map hok
      obtain ⟨rfl, hfront⟩ := (splitOnce_eq_some_iff opening_ne_nil).1 h
      obtain ⟨rfl, hinside⟩ := (splitOnce_eq_some_iff closing_ne_nil).1 h'
      rw [htokens]
      exact .block hfront hinside ((ih _ _ hplace).1 htail)
    · intro hrow
      obtain ⟨hnone, -⟩ | ⟨front', inside', after', tail, hcut, hcut', hrow, rfl⟩ :=
        hrow.cases_block
      · cases h.symm.trans ((splitOnce_eq_none_iff opening_ne_nil).2 hnone)
      · -- The row is cut at the same braces.
        obtain ⟨rfl, rfl⟩ := Prod.mk.inj (Option.some.inj (h.symm.trans hcut))
        obtain ⟨rfl, rfl⟩ := Prod.mk.inj (Option.some.inj (h'.symm.trans hcut'))
        rw [(ih _ _ hplace).2 hrow, ← htokens]
        rfl

/-! ## The fault of a line -/

theorem Finds.occurs (h : Finds cs before rest) : opening <:+: cs := by
  induction h with
  | here h | directive h _ _ => exact ⟨[], _, h.symm⟩
  | char _ _ ih => exact ih.trans (List.suffix_cons _ _).isInfix

/-- Opening braces do not begin inside of a text before the first ones. -/
theorem not_starts_of_not_occurs {c : Char} (h : ¬ opening <:+: c :: front ++ opening.dropLast) :
    ¬ opening <+: c :: (front ++ (opening ++ rest)) := by
  refine fun hstarts => h (List.IsPrefix.isInfix ?_)
  refine List.prefix_of_prefix_length_le hstarts ⟨'\x7b' :: rest, by simp [opening]⟩ ?_
  simp [opening]

/-- The first opening braces are the first that are found. -/
theorem finds_append_iff {cs : List Char} (hfront : ¬ opening <:+: front ++ opening.dropLast) :
    Finds (front ++ (opening ++ cs)) before rest ↔
      ∃ more, before = front ++ more ∧ Finds (opening ++ cs) more rest := by
  induction front generalizing before with
  | nil => exact ⟨fun h => ⟨before, rfl, h⟩, fun ⟨_, hmore, h⟩ => hmore ▸ h⟩
  | cons c front ih =>
    have hc : ¬ opening <+: c :: (front ++ (opening ++ cs)) := not_starts_of_not_occurs hfront
    have ih := fun {before} => @ih before fun hoccurs =>
      hfront (hoccurs.trans (List.suffix_cons _ _).isInfix)
    constructor
    · intro h
      cases h with
      | here h | directive h _ _ => exact absurd ⟨_, h.symm⟩ hc
      | char _ h =>
        obtain ⟨more, rfl, hmore⟩ := ih.1 h
        exact ⟨more, rfl, hmore⟩
    · rintro ⟨more, rfl, h⟩
      exact .char hc (ih.2 ⟨more, rfl, h⟩)

/-- What is found from opening braces on: these, or what is found after their directive. -/
theorem finds_opening_iff : Finds (opening ++ cs) before rest ↔
    before = [] ∧ rest = cs ∨ ∃ inside after more, splitOnce closing cs = some (inside, after) ∧
      before = opening ++ (inside ++ (closing ++ more)) ∧ Finds after more rest := by
  constructor
  · intro h
    generalize hwhole : opening ++ cs = whole at h
    cases h with
    | here h => exact .inl ⟨rfl, List.append_cancel_left (h.symm.trans hwhole.symm)⟩
    | char h => exact absurd ⟨cs, hwhole⟩ h
    | @directive _ inside after more _ h hinside hfinds =>
      obtain rfl := List.append_cancel_left (hwhole.trans h)
      exact .inr ⟨inside, after, more, (splitOnce_eq_some_iff closing_ne_nil).2
        ⟨rfl, hinside⟩, rfl, hfinds⟩
  · rintro (⟨rfl, rfl⟩ | ⟨inside, after, more, hcut, rfl, hfinds⟩)
    · exact .here rfl
    · obtain ⟨rfl, hinside⟩ := (splitOnce_eq_some_iff closing_ne_nil).1 hcut
      exact .directive rfl hinside hfinds

/-- The fault of a line is about the opening braces in it that are not closed. -/
theorem ofLine_eq_error_iff {pos : Nat} {first : Bool} :
    ∀ done error, byteLength done = pos →
      (ofLine line pos first cs = .error error ↔
        ∃ before rest, Unclosed cs before rest ∧
          error = unterminated line (done ++ before) rest) := by
  fun_induction ofLine line pos first cs with
  | case1 pos first cs lineStart h =>
    refine fun done error _ => ⟨fun herror => (by cases herror), ?_⟩
    rintro ⟨before, rest, ⟨hfinds, -⟩, -⟩
    exact absurd hfinds.occurs ((splitOnce_eq_none_iff opening_ne_nil).1 h)
  | case2 pos first cs front rest h start h' =>
    rintro done error rfl
    obtain ⟨rfl, hfront⟩ := (splitOnce_eq_some_iff opening_ne_nil).1 h
    have hrest := (splitOnce_eq_none_iff closing_ne_nil).1 h'
    have hstart : (String.ofList (done ++ front)).utf8ByteSize = start := by
      rw [utf8ByteSize_ofList, byteLength_append]
    constructor
    · intro herror
      refine ⟨front, rest, ⟨(finds_append_iff hfront).2 ⟨[], ?_, .here rfl⟩, hrest⟩, ?_⟩
      · exact (List.append_nil front).symm
      · rw [unterminated, hstart, ← Except.error.inj herror]
    · rintro ⟨before, rest', ⟨hfinds, -⟩, rfl⟩
      obtain ⟨more, rfl, hmore⟩ := (finds_append_iff hfront).1 hfinds
      obtain ⟨rfl, rfl⟩ | ⟨inside, after, more, hcut, -⟩ := finds_opening_iff.1 hmore
      · rw [unterminated, List.append_nil, hstart]
      · cases h'.symm.trans hcut
  | case3 pos first cs lineStart front rest h start literal inside after h' hlt directive ih =>
    rintro done error rfl
    obtain ⟨rfl, hfront⟩ := (splitOnce_eq_some_iff opening_ne_nil).1 h
    have hplace : byteLength (done ++ (front ++ (opening ++ (inside ++ closing)))) =
        start + byteLength inside + 4 := by
      rw [byteLength_append, byteLength_append, byteLength_directive, ← Nat.add_assoc]
      exact (Nat.add_assoc start _ 4).symm
    have hmap : (ofLine line (start + byteLength inside + 4) false after).map
          (fun tokens => literal ++ directive :: tokens) = .error error ↔
        ofLine line (start + byteLength inside + 4) false after = .error error := by
      cases ofLine line (start + byteLength inside + 4) false after <;> simp [Except.map]
    rw [hmap, ih _ error hplace]
    constructor
    · rintro ⟨before, rest', ⟨hfinds, hrest⟩, rfl⟩
      refine ⟨_, rest', ⟨(finds_append_iff hfront).2 ⟨_, rfl, finds_opening_iff.2 <| .inr
        ⟨inside, after, before, h', rfl, hfinds⟩⟩, hrest⟩, ?_⟩
      simp
    · rintro ⟨before, rest', ⟨hfinds, hrest⟩, rfl⟩
      obtain ⟨more, rfl, hmore⟩ := (finds_append_iff hfront).1 hfinds
      obtain ⟨rfl, rfl⟩ | ⟨inside', after', more, hcut, rfl, hafter⟩ := finds_opening_iff.1 hmore
      · -- These braces are closed.
        rw [((splitOnce_eq_some_iff closing_ne_nil).1 h').1] at hrest
        exact absurd ⟨inside, after, by simp⟩ hrest
      · obtain ⟨rfl, rfl⟩ := Prod.mk.inj (Option.some.inj (h'.symm.trans hcut))
        exact ⟨more, rest', ⟨hafter, hrest⟩, by simp⟩

/-! ## The lines of a template -/

theorem eq_dropReturn (cs : List Char) : cs = dropReturn cs ++ ['\r'] ∨
    cs = dropReturn cs ∧ cs.getLast? ≠ some '\r' := by
  by_cases h : cs.getLast? = some '\r'
  · obtain ⟨front, rfl⟩ := List.getLast?_eq_some_iff.1 h
    left
    simp [dropReturn, stripEnd, stripStart]
  · exact .inr ⟨(dropReturn_of_getLast?_ne h).symm, h⟩

/-- The row of a line with a number. A line other than the first begins with it. -/
def RowOf (numbered : List Char × Nat) : List Token → Prop :=
  Row numbered.2 (1 < numbered.2) [] (dropReturn numbered.1)

/-- The line has opening braces that are not closed. -/
def Broken (cs : List Char) : Prop :=
  ∃ before rest, Unclosed (dropReturn cs) before rest

theorem rowOf_iff : RowOf (cs, line) tokens ↔ ofLine line 0 true (dropReturn cs) = .ok tokens := by
  have hrow : ofLine line 0 true (dropReturn cs) = .ok tokens ↔
      Row line (true && 1 < line) [] (dropReturn cs) tokens := ofLine_eq_ok_iff [] tokens rfl
  rw [RowOf, hrow, Bool.true_and]

theorem fault_iff {error : SyntaxError} : ofLine line 0 true (dropReturn cs) = .error error ↔
    ∃ before rest, Unclosed (dropReturn cs) before rest ∧ error = unterminated line before rest :=
  ofLine_eq_error_iff [] error rfl

theorem not_broken_of_rowOf (h : RowOf (cs, line) tokens) : ¬ Broken cs := by
  rintro ⟨before, rest, hunclosed⟩
  cases (rowOf_iff.1 h).symm.trans (fault_iff.2 ⟨before, rest, hunclosed, rfl⟩)

theorem not_broken_of_rows {lines : List (List Char × Nat)} {rows : List (List Token)}
    (h : List.Forall₂ RowOf lines rows) : ∀ numbered ∈ lines, ¬ Broken numbered.1 := by
  induction h with
  | nil => nofun
  | cons hrow _ ih => exact List.forall_mem_cons.2 ⟨not_broken_of_rowOf hrow, ih⟩

theorem ofLines_eq_ok_iff {lines : List (List Char)} : ofLines line lines = .ok tokens ↔
    ∃ rows, List.Forall₂ RowOf (lines.zipIdx line) rows ∧ tokens = rows.flatten := by
  induction lines generalizing line tokens with
  | nil => simp [ofLines, eq_comm]
  | cons cs lines ih =>
    rw [ofLines, List.zipIdx_cons]
    constructor
    · intro h
      obtain ⟨row, hrow, h⟩ := Except.exists_of_bind h
      obtain ⟨more, hmore, h⟩ := Except.exists_of_bind h
      obtain rfl := Except.ok.inj h
      obtain ⟨rows, hrows, rfl⟩ := ih.1 hmore
      exact ⟨row :: rows, .cons (rowOf_iff.2 hrow) hrows, rfl⟩
    · rintro ⟨rows, hrows, rfl⟩
      cases hrows with
      | @cons _ row _ rows hrow hrows =>
        rw [rowOf_iff.1 hrow, ih.2 ⟨rows, hrows, rfl⟩]
        rfl

/-- The fault of lines is that of the first line with one. -/
theorem ofLines_eq_error_iff {lines : List (List Char)} {error : SyntaxError} :
    ofLines line lines = .error error ↔
      ∃ front cs n back before rest, lines.zipIdx line = front ++ (cs, n) :: back ∧
        (∀ numbered ∈ front, ¬ Broken numbered.1) ∧ Unclosed (dropReturn cs) before rest ∧
        error = unterminated n before rest := by
  induction lines generalizing line with
  | nil => simp [ofLines]
  | cons cs lines ih =>
    rw [ofLines, List.zipIdx_cons]
    cases hrow : ofLine line 0 true (dropReturn cs) with
    | error fault =>
      -- The line is broken, so no line before the one at fault is: it is this one.
      obtain ⟨before, rest, hunclosed, hfault⟩ := fault_iff.1 hrow
      constructor
      · intro herror
        obtain rfl := Except.error.inj herror
        exact ⟨[], cs, line, _, before, rest, rfl, by simp, hunclosed, hfault⟩
      · rintro ⟨_ | ⟨first, front⟩, cs', n, back, before', rest', hlines, hfront, hunclosed', rfl⟩
        · obtain ⟨⟨rfl, rfl⟩, rfl⟩ := by simpa using hlines
          exact congrArg Except.error
            (Except.error.inj (hrow.symm.trans (fault_iff.2 ⟨before', rest', hunclosed', rfl⟩)))
        · obtain rfl := (List.cons.inj hlines).1
          exact absurd ⟨before, rest, hunclosed⟩ (hfront _ List.mem_cons_self)
    | ok row =>
      -- The line is sound, so the fault is that of the lines after it.
      have hsound : ¬ Broken cs := not_broken_of_rowOf (rowOf_iff.2 hrow)
      have hmore : (do
            let more ← ofLines (line + 1) lines
            return row ++ more) = .error error ↔ ofLines (line + 1) lines = .error error := by
        cases ofLines (line + 1) lines <;> simp [bind, Except.bind, pure, Except.pure]
      refine hmore.trans (ih.trans ?_)
      constructor
      · rintro ⟨front, cs', n, back, before, rest, hlines, hfront, hunclosed⟩
        exact ⟨(cs, line) :: front, cs', n, back, before, rest, congrArg ((cs, line) :: ·) hlines,
          List.forall_mem_cons.2 ⟨hsound, hfront⟩, hunclosed⟩
      · rintro ⟨_ | ⟨first, front⟩, cs', n, back, before, rest, hlines, hfront, hunclosed⟩
        · obtain ⟨⟨rfl, rfl⟩, rfl⟩ := by simpa using hlines
          exact absurd ⟨before, rest, hunclosed.1⟩ hsound
        · exact ⟨front, cs', n, back, before, rest, (List.cons.inj hlines).2,
            (List.forall_mem_cons.1 hfront).2, hunclosed⟩

/-- The lines of a template are what is between its newlines, each without one carriage return at
    its end. The template has tokens unless a line of it has opening braces that are not closed,
    and then its fault is about those of the first such line. Its tokens are those of its lines. -/
theorem ofTemplate_tiled (template : String) :
    let lines := splitChar '\n' template.toList
    (['\n'].intercalate lines = template.toList ∧ ∀ cs ∈ lines, '\n' ∉ cs ∧
      (cs = dropReturn cs ++ ['\r'] ∨ cs = dropReturn cs ∧ cs.getLast? ≠ some '\r')) ∧
    (∀ tokens, ofTemplate template = .ok tokens ↔
      ∃ rows, List.Forall₂ RowOf (lines.zipIdx 1) rows ∧ tokens = rows.flatten) ∧
    ((∃ error, ofTemplate template = .error error) ↔ ∃ cs ∈ lines, Broken cs) ∧
    ∀ error, ofTemplate template = .error error ↔
      ∃ front cs n back before rest, lines.zipIdx 1 = front ++ (cs, n) :: back ∧
        (∀ numbered ∈ front, ¬ Broken numbered.1) ∧ Unclosed (dropReturn cs) before rest ∧
        error = unterminated n before rest := by
  refine ⟨⟨intercalate_splitChar '\n' _, fun cs hcs => ⟨fun hmem => ?_, eq_dropReturn cs⟩⟩,
    fun tokens => ofLines_eq_ok_iff, ⟨?_, ?_⟩, fun error => ofLines_eq_error_iff⟩
  · exact (mem_of_mem_splitChar hcs hmem).2 rfl
  · rintro ⟨error, herror⟩
    obtain ⟨front, cs, n, back, before, rest, hlines, -, hunclosed, -⟩ :=
      ofLines_eq_error_iff.1 herror
    refine ⟨cs, ?_, before, rest, hunclosed⟩
    rw [← List.zipIdx_map_fst 1 (splitChar _ _), hlines]
    simp
  · rintro ⟨cs, hcs, hbroken⟩
    cases h : ofTemplate template with
    | error error => exact ⟨error, rfl⟩
    | ok tokens =>
      obtain ⟨rows, hrows, -⟩ := ofLines_eq_ok_iff.1 h
      rw [← List.zipIdx_map_fst 1 (splitChar _ _)] at hcs
      obtain ⟨numbered, hmem, rfl⟩ := List.mem_map.1 hcs
      exact absurd hbroken (not_broken_of_rows hrows numbered hmem)

/-- A line that directives and literals cover in turn, the last of them empty, and a line that
    begins with blanks; and braces that are not closed in the second line, after a letter of two
    bytes and a blank. -/
theorem ofTemplate_tiled_lines :
    let first : List Token :=
      [⟨.literal, "a ", 1, 1, false⟩, ⟨.directive, "if é", 1, 3, false⟩,
        ⟨.literal, "\x7db", 1, 13, false⟩, ⟨.directive, "end", 1, 15, false⟩,
        ⟨.literal, "", 1, 24, false⟩]
    let second : List Token := [⟨.literal, "  c", 2, 1, true⟩]
    Row 1 false [] "a \x7b\x7b if é\x7d\x7d\x7db\x7b\x7b end \x7d\x7d".toList first ∧
      Row 2 true [] "  c".toList second ∧
      ofTemplate "a \x7b\x7b if é\x7d\x7d\x7db\x7b\x7b end \x7d\x7d\r\n  c" =
        .ok (first ++ second) ∧
      ofTemplate "a\r\né \x7b\x7b b" =
        .error
          { cause := .unterminatedDirective, line := 2, column := 4
            found := some "\x7b\x7b b" } := by
  intro first second
  have hfirst : RowOf ("a \x7b\x7b if é\x7d\x7d\x7db\x7b\x7b end \x7d\x7d\r".toList, 1) first :=
    rowOf_iff.2 (by decide +kernel)
  have hsecond : RowOf ("  c".toList, 2) second := rowOf_iff.2 (by decide +kernel)
  have hsound : ¬ Broken ['a', '\r'] := by
    rintro ⟨before, rest, hfinds, -⟩
    exact absurd hfinds.occurs (by decide)
  have hfinds : Finds ("é \x7b\x7b b".toList) ['é', ' '] [' ', 'b'] :=
    .char (by decide) (.char (by decide) (.here rfl))
  refine ⟨hfirst, hsecond, ?_, ?_⟩
  · exact ((ofTemplate_tiled _).2.1 _).2
      ⟨[first, second], .cons hfirst (.cons hsecond .nil), rfl⟩
  · refine ((ofTemplate_tiled _).2.2.2 _).2 ⟨[(['a', '\r'], 1)], "é \x7b\x7b b".toList, 2, [],
      ['é', ' '], [' ', 'b'], by decide, ?_, ⟨hfinds, by decide⟩, by decide⟩
    exact fun numbered hnumbered => List.mem_singleton.1 hnumbered ▸ hsound

end Token

end QueryTemplate
