import Mathlib.Data.List.Infix
import QueryTemplate.Proofs.Literals

/-!
# Texts cut and put together

A text is cut at the first place where a separator occurs. What comes before that place
decides it alone: the text after the separator can be replaced or made longer. If a text
without a separator is put before another one, and none arises where they meet, the
place only moves.

So the tokens of a line that is put together are known from its parts: all but the last
literal of the first part stay as they are.

* `Text.splitOnce_eq_some_iff`, `Text.splitOnce_eq_none_iff`: where a text is cut;
* `Text.splitOnce_append`: a text put before another one;
* `Token.ofLine_append`: the tokens of a line made longer;
* `Token.ofTemplate_eq_ofLine`: the tokens of a template of one line.
-/

namespace QueryTemplate

namespace Text

variable {sep cs before rest : List Char}

theorem stripStart_eq_none_iff {start : List Char} :
    stripStart start cs = none ↔ ¬ start <+: cs := by
  rw [Option.eq_none_iff_forall_ne_some]
  constructor
  · rintro h ⟨rest, rfl⟩
    exact h rest (stripStart_eq_some_iff.2 rfl)
  · intro h rest hrest
    exact h ⟨rest, (stripStart_eq_some_iff.1 hrest).symm⟩

theorem splitOnce_eq_none_iff (hsep : sep ≠ []) : splitOnce sep cs = none ↔ ¬ sep <:+: cs := by
  induction cs with
  | nil => simp [splitOnce, hsep]
  | cons c cs ih =>
    rw [splitOnce, List.infix_cons_iff, not_or, ← stripStart_eq_none_iff, ← ih]
    split
    · next hstrip => simp [hstrip]
    · next hstrip => simp [hstrip]

theorem prefix_of_dropLast (front rest : List Char) :
    front ++ sep.dropLast <+: front ++ (sep ++ rest) := by
  rw [List.prefix_append_right_inj]
  exact (List.dropLast_prefix sep).trans (List.prefix_append sep rest)

/-- A text is cut where the separator occurs first: not within what comes before, and not
    across the end of that. -/
theorem splitOnce_eq_some_iff (hsep : sep ≠ []) :
    splitOnce sep cs = some (before, rest) ↔
      cs = before ++ (sep ++ rest) ∧ ¬ sep <:+: before ++ sep.dropLast := by
  have hlength : 0 < sep.length := List.length_pos_iff.2 hsep
  constructor
  · intro h
    induction cs generalizing before with
    | nil => simp [splitOnce, hsep] at h
    | cons c cs ih =>
      rw [splitOnce] at h
      split at h
      · next hstrip =>
        obtain ⟨rfl, rfl⟩ := Prod.mk.inj (Option.some.inj h)
        rw [List.nil_append]
        refine ⟨stripStart_eq_some_iff.1 hstrip, fun hocc => ?_⟩
        have hle := hocc.length_le
        rw [List.nil_append, List.length_dropLast] at hle
        omega
      · next hstrip =>
        obtain ⟨⟨front, rest'⟩, hcs, heq⟩ := Option.map_eq_some_iff.1 h
        obtain ⟨rfl, rfl⟩ := Prod.mk.inj heq
        obtain ⟨rfl, hfront⟩ := ih hcs
        refine ⟨rfl, fun hocc => ?_⟩
        rcases List.infix_cons_iff.1 hocc with hstart | hocc
        · refine stripStart_eq_none_iff.1 hstrip (hstart.trans ?_)
          exact prefix_of_dropLast (c :: front) rest'
        · exact hfront hocc
  · rintro ⟨rfl, hfirst⟩
    induction before with
    | nil =>
      cases sep with
      | nil => exact absurd rfl hsep
      | cons s sep =>
        rw [List.nil_append, List.cons_append, splitOnce, ← List.cons_append,
          stripStart_eq_some_iff.2 rfl]
    | cons c front ih =>
      -- An occurrence at the start would lie before the end of the separator.
      have hstrip : stripStart sep (c :: (front ++ (sep ++ rest))) = none := by
        rw [stripStart_eq_none_iff]
        intro hstart
        have hfront : c :: front ++ sep.dropLast <+: c :: front ++ (sep ++ rest) :=
          prefix_of_dropLast (c :: front) rest
        refine hfirst (List.prefix_of_prefix_length_le hstart hfront ?_).isInfix
        rw [List.length_append, List.length_cons, List.length_dropLast]
        omega
      rw [List.cons_append, splitOnce, hstrip,
        ih fun hocc => hfirst (List.infix_cons_iff.2 (.inr hocc))]
      rfl

/-- What comes after the separator does not matter for the place of the cut. -/
theorem splitOnce_replace (hsep : sep ≠ []) (h : splitOnce sep cs = some (before, rest))
    (more : List Char) : splitOnce sep (before ++ (sep ++ more)) = some (before, more) :=
  (splitOnce_eq_some_iff hsep).2 ⟨rfl, ((splitOnce_eq_some_iff hsep).1 h).2⟩

theorem splitOnce_extend (hsep : sep ≠ []) (h : splitOnce sep cs = some (before, rest))
    (more : List Char) : splitOnce sep (cs ++ more) = some (before, rest ++ more) := by
  obtain ⟨rfl, _⟩ := (splitOnce_eq_some_iff hsep).1 h
  rw [List.append_assoc, List.append_assoc]
  exact splitOnce_replace hsep h _

/-- A text without a separator of two characters put before another text. -/
theorem splitOnce_append {a b : Char} {left : List Char} (h : splitOnce [a, b] left = none)
    {right : List Char} (hseam : left.getLast? = some a → right.head? ≠ some b) :
    splitOnce [a, b] (left ++ right) =
      (splitOnce [a, b] right).map fun (before, rest) => (left ++ before, rest) := by
  induction left with
  | nil => exact Option.map_id'.symm
  | cons c left ih =>
    rw [splitOnce_eq_none_iff (List.cons_ne_nil _ _), List.infix_cons_iff, not_or] at h
    have hstrip : stripStart [a, b] (c :: (left ++ right)) = none := by
      rw [stripStart_eq_none_iff]
      rintro ⟨rest, hrest⟩
      obtain ⟨rfl, hrest'⟩ := List.cons.inj hrest
      cases left with
      | nil => exact hseam rfl (congrArg List.head? hrest').symm
      | cons d left =>
        obtain ⟨rfl, _⟩ := List.cons.inj hrest'
        exact h.1 ⟨left, rfl⟩
    have htail : left.getLast? = some a → right.head? ≠ some b := fun hlast =>
      hseam (by rw [List.getLast?_cons, hlast]; rfl)
    rw [List.cons_append, splitOnce, hstrip,
      ih ((splitOnce_eq_none_iff (List.cons_ne_nil _ _)).2 h.2) htail, Option.map_map]
    rfl

/-! ## Texts within texts -/

/-- What does not contain `c` lies before it or after it. -/
theorem infix_or_of_not_mem {q a b : List Char} {c : Char} (hc : c ∉ q)
    (h : q <:+: a ++ c :: b) : q <:+: a ∨ q <:+: b := by
  obtain ⟨front, back, heq⟩ := h
  rw [List.append_assoc] at heq
  rcases List.append_eq_append_iff.1 heq with ⟨x, rfl, hx⟩ | ⟨x, rfl, hx⟩
  · rcases List.append_eq_append_iff.1 hx with ⟨y, rfl, -⟩ | ⟨y, rfl, hy⟩
    · exact .inl ⟨front, y, List.append_assoc ..⟩
    · cases y with
      | nil => exact .inl ⟨front, [], by simp⟩
      | cons d y =>
        obtain ⟨rfl, -⟩ := List.cons.inj hy
        simp at hc
  · cases x with
    | nil =>
      cases q with
      | nil => exact .inr List.nil_infix
      | cons d q =>
        obtain ⟨rfl, -⟩ := List.cons.inj hx
        simp at hc
    | cons d x =>
      obtain ⟨-, rfl⟩ := List.cons.inj hx
      exact .inr ⟨x, back, List.append_assoc ..⟩

theorem infix_dropWhile {p : Char → Bool} {q : List Char} {c : Char} (hc : p c = false)
    (h : c :: q <:+: cs) :
    c :: q <:+: cs.dropWhile p := by
  induction cs with
  | nil => exact h
  | cons d cs ih =>
    by_cases hd : p d
    · rw [List.dropWhile_cons_of_pos hd]
      rcases List.infix_cons_iff.1 h with ⟨rest, hrest⟩ | htail
      · obtain ⟨rfl, -⟩ := List.cons.inj hrest
        cases hc.symm.trans hd
      · exact ih htail
    · rwa [List.dropWhile_cons_of_neg hd]

/-! ## Lines -/

theorem splitChar_of_not_mem {c : Char} (h : c ∉ cs) : splitChar c cs = [cs] := by
  induction cs with
  | nil => rfl
  | cons d cs ih =>
    rw [List.mem_cons, not_or] at h
    rw [splitChar, if_neg (Ne.symm h.1), ih h.2]

theorem splitChar_append {c : Char} (h : c ∉ before) :
    splitChar c (before ++ c :: rest) = before :: splitChar c rest := by
  induction before with
  | nil => rw [List.nil_append, splitChar, if_pos rfl]
  | cons d before ih =>
    rw [List.mem_cons, not_or] at h
    rw [List.cons_append, splitChar, if_neg (Ne.symm h.1), ih h.2]

/-- The pieces of a text hold its characters without the separator. -/
theorem mem_of_mem_splitChar {c d : Char} {piece : List Char} (h : piece ∈ splitChar c cs)
    (hd : d ∈ piece) : d ∈ cs ∧ d ≠ c := by
  induction cs generalizing piece with
  | nil =>
    rw [splitChar, List.mem_singleton] at h
    rw [h] at hd
    cases hd
  | cons e cs ih =>
    rw [splitChar] at h
    split at h
    · rcases List.mem_cons.1 h with rfl | h
      · cases hd
      · exact ⟨List.mem_cons_of_mem _ (ih h hd).1, (ih h hd).2⟩
    · next he =>
      split at h
      · rw [List.mem_singleton] at h
        rw [h, List.mem_singleton] at hd
        exact ⟨hd ▸ List.mem_cons_self, hd ▸ he⟩
      · next first pieces hpieces =>
        rcases List.mem_cons.1 h with rfl | h
        · rcases List.mem_cons.1 hd with rfl | hd
          · exact ⟨List.mem_cons_self, he⟩
          · have := ih (hpieces ▸ List.mem_cons_self) hd
            exact ⟨List.mem_cons_of_mem _ this.1, this.2⟩
        · have := ih (hpieces ▸ List.mem_cons_of_mem _ h) hd
          exact ⟨List.mem_cons_of_mem _ this.1, this.2⟩

end Text

namespace Token

open Text

variable {line pos : Nat} {first : Bool} {cs before rest inside after : List Char}

theorem dropReturn_of_getLast?_ne (h : cs.getLast? ≠ some '\r') : dropReturn cs = cs := by
  have hstrip : stripStart ['\r'] cs.reverse = none := by
    rw [stripStart_eq_none_iff]
    rintro ⟨rest, hrest⟩
    rw [← List.head?_reverse, ← hrest] at h
    exact h rfl
  rw [dropReturn, stripEnd, List.reverse_singleton, hstrip]
  rfl

theorem dropReturn_of_not_mem (h : '\r' ∉ cs) : dropReturn cs = cs :=
  dropReturn_of_getLast?_ne fun hlast => h (List.mem_of_getLast? hlast)

theorem ofLine_of_none (h : splitOnce opening cs = none) :
    ofLine line pos first cs =
      .ok [⟨.literal, .ofList cs, line, pos + 1, first && 1 < line⟩] := by
  fun_cases ofLine line pos first cs with
  | case1 => rfl
  | case2 _ _ hsome | case3 _ _ _ hsome => cases h.symm.trans hsome

theorem ofLine_of_some (h : splitOnce opening cs = some (before, rest))
    (h' : splitOnce closing rest = some (inside, after)) :
    ofLine line pos first cs =
      (ofLine line (pos + byteLength before + byteLength inside + 4) false after).map fun tokens =>
        (if before.isEmpty && !(first && 1 < line) then []
          else [⟨.literal, .ofList before, line, pos + 1, first && 1 < line⟩]) ++
        ⟨.directive, .ofList (trimmed inside), line, pos + byteLength before + 1, false⟩ ::
          tokens := by
  fun_cases ofLine line pos first cs with
  | case1 _ hnone => cases h.symm.trans hnone
  | case2 _ _ hsome _ hnone =>
    cases h.symm.trans hsome
    cases h'.symm.trans hnone
  | case3 _ _ _ hsome _ _ _ _ hsome' =>
    cases h.symm.trans hsome
    cases h'.symm.trans hsome'
    rfl

/-- A line made longer: its last literal is read together with what is added, and the
    tokens before stay as they are. A line ends in a blank if its last literal does. -/
theorem ofLine_append :
    ∀ tokens, ofLine line pos first cs = .ok tokens →
      ∃ front last pos' first', tokens = front ++ [last] ∧ last.kind = .literal ∧
        last.lineStart = (first' && 1 < line) ∧ splitOnce opening last.text.toList = none ∧
        cs.getLast?.any isBlank = endsBlank last.text ∧
        ∀ more, ofLine line pos first (cs ++ more) =
          (ofLine line pos' first' (last.text.toList ++ more)).map (front ++ ·) := by
  fun_induction ofLine line pos first cs with
  | case1 pos first cs lineStart h =>
    intro tokens htokens
    obtain rfl := Except.ok.inj htokens
    refine ⟨[], _, pos, first, rfl, rfl, rfl, ?_, ?_, fun more => ?_⟩
    · rwa [String.toList_ofList]
    · rw [endsBlank, String.toList_ofList]
    · rw [String.toList_ofList]
      cases ofLine line pos first (cs ++ more) <;> rfl
  | case2 => exact fun _ htokens => by cases htokens
  | case3 pos first cs lineStart before rest h start literal inside after h' hlt directive ih =>
    intro tokens htokens
    obtain ⟨tail, htail, rfl⟩ := Except.exists_of_map htokens
    obtain ⟨front, last, pos', first', rfl, hkind, hstart, hlast, hblank, hmore⟩ := ih tail htail
    refine ⟨literal ++ directive :: front, last, pos', first', by simp, hkind, hstart, hlast, ?_,
      fun more => ?_⟩
    · -- The line ends in what follows the directive, or in its closing brace.
      obtain ⟨rfl, _⟩ := (splitOnce_eq_some_iff (by simp [opening])).1 h
      obtain ⟨rfl, _⟩ := (splitOnce_eq_some_iff (by simp [closing])).1 h'
      rw [← hblank, ← List.append_assoc, ← List.append_assoc, ← List.append_assoc,
        List.getLast?_append]
      cases after.getLast? with
      | none => simp [closing]; rfl
      | some c => rfl
    · rw [ofLine_of_some (splitOnce_extend (by simp [opening]) h more)
        (splitOnce_extend (by simp [closing]) h' more), hmore]
      cases ofLine line pos' first' (last.text.toList ++ more) with
      | error e => rfl
      | ok tokens => simp [Except.map, literal, lineStart, directive, start]

/-- The tokens of a template of one line are those of the line, if no carriage return ends it. -/
theorem ofTemplate_eq_ofLine (hnewline : '\n' ∉ cs) (hreturn : cs.getLast? ≠ some '\r') :
    ofTemplate (.ofList cs) = ofLine 1 0 true cs := by
  rw [ofTemplate, String.toList_ofList, splitChar_of_not_mem hnewline, ofLines,
    dropReturn_of_getLast?_ne hreturn]
  cases ofLine 1 0 true cs with
  | error e => rfl
  | ok tokens => exact congrArg Except.ok (List.append_nil tokens)

theorem ofTemplate_line (hnewline : '\n' ∉ cs) (hreturn : '\r' ∉ cs) :
    ofTemplate (.ofList cs) = ofLine 1 0 true cs :=
  ofTemplate_eq_ofLine hnewline fun hlast => hreturn (List.mem_of_getLast? hlast)

end Token

end QueryTemplate
