import Mathlib.Data.List.Chain
import QueryTemplate.Proofs.Phrases
import QueryTemplate.Proofs.Spelling

/-!
# Texts of literals

The text of a literal is made of pieces: characters, escapes and placeholders. The
literals of a body are joined, and their pieces are those of the joined text: no
escape arises where two literals meet, since the later one begins a line and a blank
comes in between.

* `Token.pieces`: the pieces that a literal adds to the text before it;
* `unescape_extract`: the SQL of a text, as it is meant, piece by piece;
* `unescaped_append`: escapes of joined texts are those of the parts;
* `Token.Seam`: of two literals in a row, the second begins a line, as it is for the
  tokens of a template (`chain_ofTemplate`).
-/

namespace QueryTemplate

/-! ## Pieces -/

namespace Piece

/-- The character that a piece puts into a query. -/
def symbol : Piece → Char
  | char c => c
  | escape => '@'
  | bind _ => '?'

theorem unescaped_cons {c : Char} {cs : List Char} (h : c = '\\' → cs.head? ≠ some '@') :
    unescaped (c :: cs) = c :: unescaped cs := by
  cases cs with
  | nil => simp [unescaped]
  | cons d cs =>
    rw [unescaped]
    rintro rest rfl hcs
    obtain ⟨rfl, rfl⟩ := List.cons.inj hcs
    exact h rfl rfl

theorem head?_of_head?_sql_scan {cs : List Char} (h : ((scan cs).flatMap sql).head? = some '@') :
    cs.head? = some '@' := by
  revert h
  fun_cases scan cs with
  | case1 => exact id
  | case2 | case3 => simp [sql]
  | case4 => simp [sql]

/-- The SQL of the pieces of a text has its escapes where the text has them. -/
theorem unescaped_scan (cs : List Char) :
    unescaped ((scan cs).flatMap sql) = (scan cs).map symbol := by
  fun_induction scan cs with
  | case1 => rfl
  | case2 cs ih =>
    rw [List.flatMap_cons, List.map_cons, ← ih]
    exact unescaped.eq_1 _
  | case3 c cs hescape b rest hread hlt ih =>
    rw [List.flatMap_cons, List.map_cons, ← ih]
    exact unescaped_cons (by simp)
  | case4 c cs hescape hread ih =>
    rw [List.flatMap_cons, List.map_cons, ← ih]
    -- A backslash before an at sign would have been read as an escape.
    refine unescaped_cons fun hc hhead => ?_
    obtain ⟨rest, rfl⟩ := List.head?_eq_some_iff.1 (head?_of_head?_sql_scan hhead)
    exact hescape rest hc rfl

/-- A character that is neither an at sign nor a backslash is a piece of its own. -/
theorem scan_char {c : Char} {cs : List Char} (hat : c ≠ '@') (hescape : c ≠ '\\') :
    scan (c :: cs) = char c :: scan cs := by
  have hread : Bind.read? (c :: cs) = none := by
    rw [Bind.read?]
    · exact fun _ hcs => hat (List.cons.inj hcs).1
    · exact fun _ hcs => hat (List.cons.inj hcs).1
  rw [scan]
  · split
    · next hsome => cases hread.symm.trans hsome
    · rfl
  · exact fun _ hc => absurd hc hescape

theorem scan_blank {c : Char} {cs : List Char} (h : Text.isBlank c) :
    scan (c :: cs) = char c :: scan cs := by
  refine scan_char ?_ ?_ <;> (rintro rfl; cases h)

theorem suffix_pathRest (cs : List Char) : (pathRest cs).2 <:+ cs := by
  fun_induction pathRest cs with
  | case1 | case2 | case3 => simp
  | case4 c d cs hc path rest hpath ih =>
    rw [hpath] at ih
    exact ih.trans (List.suffix_cons ..)
  | case5 c d cs hc hd path rest hpath ih =>
    rw [hpath] at ih
    exact ih.trans ((List.suffix_cons ..).trans (List.suffix_cons ..))
  | case6 => exact List.suffix_rfl

theorem suffix_of_path? {cs path rest : List Char} (h : path? cs = some (path, rest)) :
    rest <:+ cs := by
  cases cs with
  | nil => cases h
  | cons c cs =>
    rw [path?] at h
    split at h
    · obtain ⟨_, rfl⟩ := Prod.mk.inj (Option.some.inj h)
      exact (suffix_pathRest cs).trans (List.suffix_cons ..)
    · cases h

/-- What follows a placeholder is the end of the text. -/
theorem suffix_of_read? {cs rest : List Char} {b : Bind} (h : Bind.read? cs = some (b, rest)) :
    rest <:+ cs := by
  unfold Bind.read? at h
  split at h
  · split at h
    · next hword =>
      obtain ⟨_, rfl⟩ := Prod.mk.inj (Option.some.inj h)
      rw [tableWord?, Option.filter_eq_some_iff, Text.stripStart_eq_some_iff] at hword
      rw [hword.1]
      exact ⟨'@' :: '@' :: "table".toList, rfl⟩
    · obtain ⟨⟨path, rest'⟩, hpath, heq⟩ := Option.map_eq_some_iff.1 h
      obtain ⟨_, rfl⟩ := Prod.mk.inj heq
      exact (suffix_of_path? hpath).trans ((List.suffix_cons ..).trans (List.suffix_cons ..))
  · obtain ⟨⟨path, rest'⟩, hpath, heq⟩ := Option.map_eq_some_iff.1 h
    obtain ⟨_, rfl⟩ := Prod.mk.inj heq
    exact (suffix_of_path? hpath).trans (List.suffix_cons ..)
  · cases h

theorem mem_of_char_mem_scan {c : Char} {cs : List Char} (h : char c ∈ scan cs) : c ∈ cs := by
  fun_induction scan cs with
  | case1 => cases h
  | case2 cs ih =>
    rcases List.mem_cons.1 h with h | h
    · cases h
    · exact List.mem_cons_of_mem _ (List.mem_cons_of_mem _ (ih h))
  | case3 d cs _ b rest hread _ ih =>
    rcases List.mem_cons.1 h with h | h
    · cases h
    · exact (suffix_of_read? hread).mem (ih h)
  | case4 d cs _ _ ih =>
    rcases List.mem_cons.1 h with h | h
    · obtain rfl := Piece.char.inj h
      exact List.mem_cons_self
    · exact List.mem_cons_of_mem _ (ih h)

theorem binds_scan_dropBlanks (cs : List Char) :
    (scan (Text.dropBlanks cs)).filterMap bind? = (scan cs).filterMap bind? := by
  induction cs with
  | nil => rfl
  | cons c cs ih =>
    rw [Text.dropBlanks, List.dropWhile_cons]
    split
    · next hblank =>
      rw [scan_blank hblank]
      exact ih
    · rfl

theorem scan_eq_nil_iff {cs : List Char} : scan cs = [] ↔ cs = [] := by
  fun_cases scan cs <;> simp

end Piece

/-- The SQL of a text as it is meant. -/
theorem unescape_extract (text : String) :
    unescape (extract text).sql = .ofList ((Piece.scan text.toList).map Piece.symbol) := by
  rw [unescape, extract, String.toList_ofList, Piece.unescaped_scan]

/-- Escapes of joined characters are those of the parts, if none lies across the seam. -/
theorem unescaped_append {left right : List Char}
    (h : left.getLast? = some '\\' → right.head? ≠ some '@') :
    unescaped (left ++ right) = unescaped left ++ unescaped right := by
  fun_induction unescaped left with
  | case1 cs ih =>
    rw [List.cons_append, List.cons_append, unescaped,
      ih fun hcs => h (by simp [List.getLast?_cons, hcs])]
    rfl
  | case2 c cs hescape ih =>
    rw [List.cons_append, Piece.unescaped_cons, ih fun hcs => h (by simp [List.getLast?_cons, hcs])]
    · rfl
    · intro hc hhead
      cases cs with
      | nil =>
        -- The character is the last one before the seam.
        exact h (by simp [hc]) hhead
      | cons d cs =>
        obtain rfl := Option.some.inj hhead
        exact hescape cs hc rfl
  | case3 => rfl

/-! ## Joined literals -/

/-- The text that a literal adds: at the start of a line, blanks give way to one blank,
    which may be there already. -/
def Token.joined (token : Token) (blank : Bool) : String :=
  if token.lineStart then
    let rest := Text.trimStart token.text
    if blank then rest else " " ++ rest
  else token.text

/-- The pieces that a literal adds. -/
def Token.pieces (token : Token) (blank : Bool) : List Piece :=
  Piece.scan (token.joined blank).toList

/-- Whether a text ends in a blank once the pieces are added to it. -/
def Piece.endsBlank (blank : Bool) (pieces : List Piece) : Bool :=
  match pieces.getLast? with
  | none => blank
  | some (char c) => Text.isBlank c
  | some _ => false

/-- A literal adds the placeholders of its text. -/
theorem binds_pieces (token : Token) (blank : Bool) :
    (token.pieces blank).filterMap Piece.bind? = (extract token.text).binds := by
  have hrest : (Piece.scan (Text.trimStart token.text).toList).filterMap Piece.bind? =
      (extract token.text).binds := by
    rw [Text.trimStart, String.toList_ofList, Piece.binds_scan_dropBlanks, extract]
  rw [Token.pieces, Token.joined]
  split
  · cases blank with
    | true => exact hrest
    | false =>
      have hspace (cs : List Char) : " ".toList ++ cs = ' ' :: cs := rfl
      rw [if_neg Bool.false_ne_true, String.toList_append, hspace, Piece.scan_blank rfl]
      exact hrest
  · rfl

/-- A literal adds characters of its text, and blanks. -/
theorem Token.mem_of_mem_joined {token : Token} {blank : Bool} {c : Char}
    (h : c ∈ (token.joined blank).toList) : c = ' ' ∨ c ∈ token.text.toList := by
  have htrim (h : c ∈ (Text.trimStart token.text).toList) : c ∈ token.text.toList := by
    rw [Text.trimStart, String.toList_ofList] at h
    exact (List.dropWhile_suffix _).mem h
  rw [Token.joined] at h
  split at h
  · cases blank with
    | true => exact .inr (htrim h)
    | false =>
      rw [if_neg Bool.false_ne_true, String.toList_append, List.mem_append] at h
      rcases h with h | h
      · exact .inl (List.mem_singleton.1 h)
      · exact .inr (htrim h)
  · exact .inr h

theorem mem_text_of_mem_pieces {token : Token} {blank : Bool} {c : Char}
    (h : .char c ∈ token.pieces blank) (hc : c ≠ ' ') : c ∈ token.text.toList :=
  (Token.mem_of_mem_joined (Piece.mem_of_char_mem_scan h)).resolve_left hc

theorem addedText_eq (nodes : List Node) (token : Token) :
    Builder.addedText nodes token = token.joined (Builder.endsBlank nodes) := rfl

theorem endsBlank_of_ne_concat_text {nodes : List Node}
    (h : ∀ front fragment, nodes ≠ front ++ [.text fragment]) :
    Builder.endsBlank nodes = false := by
  rw [Builder.endsBlank]
  split
  · next fragment hlast =>
    obtain ⟨front, hnodes⟩ := List.getLast?_eq_some_iff.1 hlast
    exact absurd hnodes (h front fragment)
  · rfl

theorem endsBlank_concat_text (nodes : List Node) (fragment : Fragment) :
    Builder.endsBlank (nodes ++ [.text fragment]) = Text.endsBlank fragment.sql := by
  rw [Builder.endsBlank, List.getLast?_concat]

/-- A text that begins a line does not make an escape with the text before it. -/
theorem unescape_append_joined (before : String) {token : Token} (h : token.lineStart) :
    unescape (before ++ (extract (token.joined (Text.endsBlank before))).sql) =
      unescape before ++ unescape (extract (token.joined (Text.endsBlank before))).sql := by
  rw [unescape, unescape, unescape, String.toList_append, unescaped_append, String.ofList_append]
  intro hlast
  -- A backslash is no blank, so that the line is joined by one.
  have hblank : Text.endsBlank before = false := by
    rw [Text.endsBlank, hlast]
    rfl
  rw [hblank, Token.joined, if_pos h, extract, String.toList_ofList]
  intro hhead
  have hspace := Piece.head?_of_head?_sql_scan hhead
  simp at hspace

theorem endsBlank_sql_scan (before : String) {cs : List Char} (h : cs ≠ []) :
    Text.endsBlank (before ++ .ofList ((Piece.scan cs).flatMap Piece.sql)) =
      Piece.endsBlank (Text.endsBlank before) (Piece.scan cs) := by
  rcases List.eq_nil_or_concat (Piece.scan cs) with hnil | ⟨front, piece, hpieces⟩
  · exact absurd (Piece.scan_eq_nil_iff.1 hnil) h
  · rw [hpieces, List.concat_eq_append, Text.endsBlank, String.toList_append, String.toList_ofList,
      List.flatMap_append, List.flatMap_singleton, Piece.endsBlank, List.getLast?_concat,
      List.getLast?_append, List.getLast?_append]
    cases piece with
    | char c => rfl
    | escape | bind b => rfl

/-! ## Seams -/

theorem Except.exists_of_map {ε α β : Type} {f : α → β} {x : Except ε α} {b : β}
    (h : x.map f = .ok b) : ∃ a, x = .ok a ∧ f a = b := by
  cases x with
  | error e => cases h
  | ok a => exact ⟨a, rfl, Except.ok.inj h⟩

theorem Except.exists_of_bind {ε α β : Type} {f : α → Except ε β} {x : Except ε α} {b : β}
    (h : (x >>= f) = .ok b) : ∃ a, x = .ok a ∧ f a = .ok b := by
  cases x with
  | error e => cases h
  | ok a => exact ⟨a, rfl, h⟩

namespace Token

/-- Two literals meet only where a line begins. -/
def Seam (token next : Token) : Prop :=
  token.kind = .literal → next.kind = .literal → next.lineStart

theorem chain_ofLine {line pos : Nat} {first : Bool} {cs : List Char} :
    ∀ tokens, ofLine line pos first cs = .ok tokens → tokens.IsChain Seam ∧
      ∀ token ∈ tokens.head?, token.kind = .literal → token.lineStart = (first && 1 < line) := by
  fun_induction ofLine line pos first cs with
  | case1 =>
    intro tokens h
    obtain rfl := Except.ok.inj h
    refine ⟨.singleton _, fun token htoken _ => ?_⟩
    obtain rfl := Option.some.inj htoken
    rfl
  | case2 => exact fun _ h => by cases h
  | case3 pos first cs lineStart before rest _ start literal inside after _ _ directive ih =>
    intro tokens h
    obtain ⟨more, hmore, rfl⟩ := Except.exists_of_map h
    -- A directive comes after the literal, so that no two literals meet in a line.
    have hdirective : (directive :: more).IsChain Seam :=
      List.isChain_cons.2 ⟨fun _ _ hkind => (by cases hkind), (ih more hmore).1⟩
    rcases Bool.eq_false_or_eq_true (before.isEmpty && !lineStart) with hempty | hempty
    · have hliteral : literal = [] := dif_pos hempty
      rw [hliteral]
      refine ⟨hdirective, fun token htoken hkind => ?_⟩
      obtain rfl := Option.some.inj htoken
      cases hkind
    · have hliteral : literal = [_] := dif_neg (Bool.eq_false_iff.1 hempty)
      rw [hliteral]
      refine ⟨List.isChain_cons_cons.2 ⟨fun _ hkind => (by cases hkind), hdirective⟩, ?_⟩
      intro token htoken _
      obtain rfl := Option.some.inj htoken
      rfl

theorem chain_ofLines {line : Nat} {lines : List (List Char)} {tokens : List Token}
    (hpos : 0 < line) (h : ofLines line lines = .ok tokens) :
    tokens.IsChain Seam ∧
      (1 < line → ∀ token ∈ tokens.head?, token.kind = .literal → token.lineStart) := by
  induction lines generalizing line tokens with
  | nil =>
    obtain rfl := Except.ok.inj h
    exact ⟨.nil, by simp⟩
  | cons cs rest ih =>
    rw [ofLines] at h
    obtain ⟨front, hfront, h⟩ := Except.exists_of_bind h
    obtain ⟨more, hmore, h⟩ := Except.exists_of_bind h
    obtain rfl := Except.ok.inj h
    obtain ⟨hchain, hhead⟩ := chain_ofLine _ hfront
    obtain ⟨hchain', hhead'⟩ := ih (Nat.succ_pos line) hmore
    replace hhead' := hhead' (Nat.succ_lt_succ hpos)
    refine ⟨List.isChain_append.2
      ⟨hchain, hchain', fun _ _ token htoken _ => hhead' token htoken⟩, ?_⟩
    intro hline token htoken hkind
    rw [List.head?_append, Option.mem_def, Option.or_eq_some_iff] at htoken
    rcases htoken with htoken | ⟨_, htoken⟩
    · simpa [hline] using hhead token htoken hkind
    · exact hhead' token htoken hkind

/-- The tokens of a template are in such an order. -/
theorem chain_ofTemplate {template : String} {tokens : List Token}
    (h : ofTemplate template = .ok tokens) : tokens.IsChain Seam :=
  (chain_ofLines Nat.one_pos h).1

end Token

/-- Two literals meet only where a line begins. -/
def Symbol.Seam : Symbol → Symbol → Prop
  | literal _, literal next => next.lineStart
  | _, _ => True

theorem Token.Reads.chain {tokens : List Token} {symbols : List Symbol}
    (h : Token.Reads tokens symbols) (hchain : tokens.IsChain Token.Seam) :
    symbols.IsChain Symbol.Seam := by
  induction symbols generalizing tokens with
  | nil => exact .nil
  | cons symbol symbols ih =>
    obtain ⟨token, rest, rfl, htoken, hrest⟩ := h.cons
    obtain ⟨hseam, hchain⟩ := List.isChain_cons.1 hchain
    refine List.isChain_cons.2 ⟨fun next hnext => ?_, ih hrest hchain⟩
    obtain ⟨symbols, rfl⟩ := List.head?_eq_some_iff.1 hnext
    obtain ⟨token', rest, rfl, htoken', _⟩ := hrest.cons
    cases symbol with
    | directive d => trivial
    | literal t =>
      cases next with
      | directive d => trivial
      | literal t' =>
        obtain ⟨hkind, rfl⟩ := Token.symbol?_eq_literal_iff.1 htoken
        obtain ⟨hkind', rfl⟩ := Token.symbol?_eq_literal_iff.1 htoken'
        exact hseam token' rfl hkind hkind'

end QueryTemplate
