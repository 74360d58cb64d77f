import QueryTemplate.Proofs.Printing

/-!
# Regular expressions for connectives

What joined a clause to parts left out is taken off in two ways: by going over its characters from
both ends, and by a regular expression of which all matches are removed. A regular expression is
matched as a backtracking search would do it: at the first place where it matches, in the way it
prefers. Which characters are blank differs between dialects, so it is a parameter.

* `Regex.ends`: what may be left after a match, the preferred one first;
* `Regex.removeAll`: a text without the matches in it;
* `Regex.removeAll_congr`: dialects that agree about the characters of a text agree about the text;
* `Regex.removeAll_connective`: if no blanks are around a text, removing the matches is taking the
  connectives off its ends.
-/

namespace QueryTemplate

namespace Text

/-! ## Ends of texts -/

/-- If there is no blank at the end of a text, it does not end in blanks. -/
theorem eq_nil_of_blank_end {before after : List Char}
    (hend : (before ++ after).getLast?.any isBlank = false) (h : ∀ c ∈ after, isBlank c) :
    after = [] := by
  rcases List.eq_nil_or_concat after with hnil | ⟨init, c, rfl⟩
  · exact hnil
  · have hc : isBlank c := h c (by simp)
    simp [hc] at hend

theorem getLast?_of_suffix {cs t : List Char} (ht : t <:+ cs)
    (h : cs.getLast?.any isBlank = false) : t.getLast?.any isBlank = false := by
  obtain ⟨before, rfl⟩ := ht
  rw [List.getLast?_append] at h
  cases hlast : t.getLast? with
  | none => rfl
  | some c => simpa [hlast] using h

theorem startsBlank_eq_false_of_start {cs start : List Char} (hstart : start <+: cs)
    (h : startsBlank cs = false) : startsBlank start = false := by
  obtain ⟨rest, rfl⟩ := hstart
  cases start with
  | nil => rfl
  | cons c start => exact h

end Text

open Text

/-- Regular expressions over words and blanks. -/
inductive Regex where
  /-- The start of the text. -/
  | start
  /-- The end of the text. -/
  | stop
  /-- A word, in whatever case. -/
  | word (text : String)
  /-- As many blanks as possible; at least one if they are `needed`. -/
  | blanks (needed : Bool)
  /-- One after the other. -/
  | seq (p q : Regex)
  /-- The first or, if that leads to no match, the second. -/
  | either (p q : Regex)
  /-- An expression in parentheses. -/
  | group (p : Regex)
deriving DecidableEq

namespace Regex

/-- The expression in writing. -/
def source : Regex → String
  | start => "^"
  | stop => "$"
  | word text => text
  | blanks false => "\\s*"
  | blanks true => "\\s+"
  | seq p q => p.source ++ q.source
  | either p q => p.source ++ "|" ++ q.source
  | group p => "(?:" ++ p.source ++ ")"

/-- Any of the words that join conditions. -/
def joining : Regex :=
  group (either (word "and") (word "or"))

/-- A connective at the start of a text. -/
def leading : Regex :=
  seq start (seq (blanks false) (seq joining (group (either (blanks true) stop))))

/-- A connective at the end of a text. -/
def trailing : Regex :=
  seq (blanks true) (seq joining (seq (blanks false) stop))

/-- A connective at either end of a text. -/
def connective : Regex :=
  either leading trailing

/-! ## Words -/

theorem afterWord?_eq_some_iff {word cs rest : List Char} :
    afterWord? word cs = some rest ↔ ∃ used, used.map Char.toLower = word ∧ cs = used ++ rest := by
  induction word generalizing cs with
  | nil => simp [afterWord?]
  | cons w word ih =>
    cases cs with
    | nil => simp [afterWord?]
    | cons c cs =>
      by_cases hc : c.toLower = w
      · simp [afterWord?, hc, ih, List.map_eq_cons_iff, and_assoc, and_left_comm]
      · simp [afterWord?, hc, List.map_eq_cons_iff]

/-! ## Matching -/

/-- What is left after blanks, the longest run of them first. -/
def afterBlanks (blank : Char → Bool) : List Char → List (List Char)
  | [] => [[]]
  | c :: cs => if blank c then afterBlanks blank cs ++ [c :: cs] else [c :: cs]

/-- What may be left after a match at the start of the last characters of a text that has `total`
    of them, the preferred one first. -/
def ends (blank : Char → Bool) (total : Nat) : Regex → List Char → List (List Char)
  | start, cs => if cs.length = total then [cs] else []
  | stop, cs => if cs.isEmpty then [cs] else []
  | word text, cs => (afterWord? text.toList cs).toList
  | blanks false, cs => afterBlanks blank cs
  | blanks true, [] => []
  | blanks true, c :: cs => if blank c then afterBlanks blank cs else []
  | seq p q, cs => (p.ends blank total cs).flatMap (q.ends blank total)
  | either p q, cs => p.ends blank total cs ++ q.ends blank total cs
  | group p, cs => p.ends blank total cs

/-- The last characters of a text that has `total` of them, without the matches that begin in them.
    The first `skip` of them belong to a match before. -/
def removeFrom (blank : Char → Bool) (total : Nat) (p : Regex) :
    (skip : Nat) → List Char → List Char
  | _, [] => []
  | skip + 1, _ :: cs => removeFrom blank total p skip cs
  | 0, c :: cs =>
    match (p.ends blank total (c :: cs)).head? with
    | some rest =>
      -- a match of no characters removes nothing
      if rest.length ≤ cs.length then removeFrom blank total p (cs.length - rest.length) cs
      else c :: removeFrom blank total p 0 cs
    | none => c :: removeFrom blank total p 0 cs

/-- The characters without all matches. -/
def removeAll (blank : Char → Bool) (p : Regex) (cs : List Char) : List Char :=
  removeFrom blank cs.length p 0 cs

variable {blank blank' : Char → Bool} {total : Nat} {p q : Regex} {cs rest : List Char}

theorem mem_afterBlanks :
    rest ∈ afterBlanks blank cs ↔ ∃ skipped, cs = skipped ++ rest ∧ ∀ c ∈ skipped, blank c := by
  induction cs with
  | nil => simp [afterBlanks]
  | cons c cs ih =>
    by_cases hc : blank c
    · simp [afterBlanks, hc, ih, List.cons_eq_append_iff, or_and_right, exists_or, or_comm]
    · simp [afterBlanks, hc, List.cons_eq_append_iff, or_and_right, exists_or]

theorem head?_afterBlanks (blank : Char → Bool) (cs : List Char) :
    (afterBlanks blank cs).head? = some (cs.dropWhile blank) := by
  induction cs with
  | nil => rfl
  | cons c cs ih =>
    rw [afterBlanks]
    by_cases hc : blank c
    · rw [if_pos hc, List.head?_append, ih, List.dropWhile_cons_of_pos hc]
      rfl
    · rw [if_neg hc, List.dropWhile_cons_of_neg hc]
      rfl

theorem mem_ends_needed : rest ∈ (blanks true).ends blank total cs ↔
    ∃ skipped, skipped ≠ [] ∧ cs = skipped ++ rest ∧ ∀ c ∈ skipped, blank c := by
  constructor
  · intro h
    cases cs with
    | nil => exact absurd h List.not_mem_nil
    | cons c cs =>
      rw [ends] at h
      split at h
      · next hc =>
        obtain ⟨skipped, rfl, hskipped⟩ := mem_afterBlanks.1 h
        exact ⟨c :: skipped, List.cons_ne_nil c skipped, rfl,
          List.forall_mem_cons.2 ⟨hc, hskipped⟩⟩
      · exact absurd h List.not_mem_nil
  · rintro ⟨_ | ⟨c, skipped⟩, hne, rfl, h⟩
    · exact absurd rfl hne
    · rw [List.forall_mem_cons] at h
      rw [List.cons_append, ends, if_pos h.1]
      exact mem_afterBlanks.2 ⟨skipped, rfl, h.2⟩

/-- A match leaves the last characters of what it is matched with. -/
theorem suffix_of_mem_ends (h : rest ∈ p.ends blank total cs) : rest <:+ cs := by
  induction p generalizing cs rest with
  | start => simp_all [ends]
  | stop => simp_all [ends]
  | word text =>
    rw [ends, Option.mem_toList, afterWord?_eq_some_iff] at h
    obtain ⟨used, -, rfl⟩ := h
    exact List.suffix_append _ _
  | blanks needed =>
    cases needed with
    | false =>
      obtain ⟨skipped, rfl, -⟩ := mem_afterBlanks.1 h
      exact List.suffix_append _ _
    | true =>
      obtain ⟨skipped, -, rfl, -⟩ := mem_ends_needed.1 h
      exact List.suffix_append _ _
  | seq p q ihp ihq =>
    obtain ⟨mid, hmid, hrest⟩ := List.mem_flatMap.1 h
    exact (ihq hrest).trans (ihp hmid)
  | either p q ihp ihq => exact (List.mem_append.1 h).elim ihp ihq
  | group p ih => exact ih h

/-! ## Dialects -/

/-- The blanks of a dialect that has no others than these. -/
def isNarrowBlank (c : Char) : Bool :=
  c == '\t' || c == '\n' || c == '\x0c' || c == '\r' || c == ' '

theorem isBlank_of_isNarrowBlank {c : Char} (h : isNarrowBlank c) : isBlank c := by
  simp only [isNarrowBlank, Bool.or_eq_true, beq_iff_eq] at h
  rcases h with (((rfl | rfl) | rfl) | rfl) | rfl <;> decide

theorem afterBlanks_congr (h : ∀ c ∈ cs, blank c = blank' c) :
    afterBlanks blank cs = afterBlanks blank' cs := by
  induction cs with
  | nil => rfl
  | cons c cs ih =>
    rw [List.forall_mem_cons] at h
    rw [afterBlanks, afterBlanks, h.1, ih h.2]

theorem ends_congr (h : ∀ c ∈ cs, blank c = blank' c) :
    p.ends blank total cs = p.ends blank' total cs := by
  induction p generalizing cs with
  | start => rfl
  | stop => rfl
  | word text => rfl
  | blanks needed =>
    cases needed with
    | false => exact afterBlanks_congr h
    | true =>
      cases cs with
      | nil => rfl
      | cons c cs =>
        rw [List.forall_mem_cons] at h
        rw [ends, ends, h.1, afterBlanks_congr h.2]
  | seq p q ihp ihq =>
    rw [ends, ends, ihp h]
    exact List.flatMap_congr fun mid hmid =>
      ihq fun c hc => h c ((suffix_of_mem_ends hmid).mem hc)
  | either p q ihp ihq => rw [ends, ends, ihp h, ihq h]
  | group p ih => exact ih h

theorem removeFrom_congr {skip : Nat} (h : ∀ c ∈ cs, blank c = blank' c) :
    removeFrom blank total p skip cs = removeFrom blank' total p skip cs := by
  induction cs generalizing skip with
  | nil => cases skip <;> rfl
  | cons c cs ih =>
    have hcs := (List.forall_mem_cons.1 h).2
    cases skip with
    | zero =>
      rw [removeFrom, removeFrom, ends_congr h, ih hcs]
      simp only [ih hcs]
    | succ skip => exact ih hcs

/-- Dialects that agree about the characters of a text agree about the text. -/
theorem removeAll_congr (h : ∀ c ∈ cs, blank c = blank' c) :
    p.removeAll blank cs = p.removeAll blank' cs :=
  removeFrom_congr h

/-! ## Removing matches -/

theorem removeFrom_skip (used rest : List Char) :
    removeFrom blank total p used.length (used ++ rest) = removeFrom blank total p 0 rest := by
  induction used with
  | nil => rfl
  | cons c used ih => exact ih

theorem removeFrom_of_match {used : List Char} (hused : used ≠ [])
    (hmatch : (p.ends blank total (used ++ rest)).head? = some rest) :
    removeFrom blank total p 0 (used ++ rest) = removeFrom blank total p 0 rest := by
  cases used with
  | nil => exact absurd rfl hused
  | cons c used =>
    have hle : rest.length ≤ (used ++ rest).length := (List.suffix_append used rest).length_le
    have hskip : (used ++ rest).length - rest.length = used.length := by
      rw [List.length_append, Nat.add_sub_cancel]
    rw [List.cons_append] at hmatch ⊢
    rw [removeFrom, hmatch]
    simp only [if_pos hle]
    rw [hskip, removeFrom_skip]

/-- Characters stay if no match begins with one of them. -/
theorem removeFrom_append {kept : List Char}
    (h : ∀ t, t <:+ kept → t ≠ [] → p.ends blank total (t ++ rest) = []) :
    removeFrom blank total p 0 (kept ++ rest) = kept ++ removeFrom blank total p 0 rest := by
  induction kept with
  | nil => rfl
  | cons c kept ih =>
    have hnone : p.ends blank total (c :: (kept ++ rest)) = [] :=
      h (c :: kept) List.suffix_rfl (List.cons_ne_nil c kept)
    rw [List.cons_append, removeFrom, hnone,
      ih fun t ht => h t (ht.trans (List.suffix_cons c kept))]
    rfl

/-! ## Connectives -/

/-- The characters spell a connective. -/
def Joins (cs : List Char) : Prop :=
  cs.map Char.toLower ∈ connectives

instance (cs : List Char) : Decidable (Joins cs) :=
  inferInstanceAs (Decidable (_ ∈ connectives))

/-- Of two words that begin differently, a text begins with at most one. -/
theorem afterWord?_pair {u v : Char} (h : u ≠ v) (us vs cs : List Char) :
    afterWord? (u :: us) cs = none ∨ afterWord? (v :: vs) cs = none := by
  cases cs with
  | nil => exact .inl rfl
  | cons c cs =>
    by_cases hc : c.toLower = u
    · exact .inr (if_neg fun hv => h (hc.symm.trans hv))
    · exact .inl (if_neg hc)

theorem findSome?_afterWord?_pair {u v : Char} (h : u ≠ v) (us vs cs rest : List Char) :
    [u :: us, v :: vs].findSome? (afterWord? · cs) = some rest ↔
      afterWord? (u :: us) cs = some rest ∨ afterWord? (v :: vs) cs = some rest := by
  rcases afterWord?_pair h us vs cs with hu | hv
  · cases hv : afterWord? (v :: vs) cs <;> simp [List.findSome?, hu, hv]
  · cases hu : afterWord? (u :: us) cs <;> simp [List.findSome?, hu, hv]

theorem connectives_eq : connectives = [['a', 'n', 'd'], ['o', 'r']] := by
  decide

theorem leadingConnective_iff :
    connectives.findSome? (afterWord? · cs) = some rest ↔ ∃ w, Joins w ∧ cs = w ++ rest := by
  rw [connectives_eq, findSome?_afterWord?_pair (by decide), afterWord?_eq_some_iff,
    afterWord?_eq_some_iff, ← exists_or]
  simp [Joins, connectives_eq, or_and_right]

theorem trailingConnective_iff :
    (connectives.findSome? fun word => afterWord? word.reverse cs.reverse) = some rest ↔
      ∃ w, Joins w ∧ cs = rest.reverse ++ w := by
  have hpair := findSome?_afterWord?_pair (by decide : 'd' ≠ 'r') ['n', 'a'] ['o'] cs.reverse rest
  have hsplit (word : List Char) :
      afterWord? word.reverse cs.reverse = some rest ↔
        ∃ w, w.map Char.toLower = word ∧ cs = rest.reverse ++ w := by
    refine afterWord?_eq_some_iff.trans (List.reverse_surjective.exists.trans ?_)
    simp [List.reverse_eq_iff]
  rw [connectives_eq]
  refine hpair.trans ?_
  rw [show ['d', 'n', 'a'] = ['a', 'n', 'd'].reverse from rfl,
    show ['r', 'o'] = ['o', 'r'].reverse from rfl, hsplit, hsplit, ← exists_or]
  simp [Joins, connectives_eq, or_and_right]

/-- The connective at the end of a text is determined. -/
theorem Joins.append_inj {x x' w w' : List Char} (hw : Joins w) (hw' : Joins w')
    (h : x ++ w = x' ++ w') : x = x' := by
  have hx := trailingConnective_iff.2 ⟨w, hw, congrArg (· ++ w) (List.reverse_reverse x).symm⟩
  have hx' := trailingConnective_iff.2 ⟨w', hw', congrArg (· ++ w') (List.reverse_reverse x').symm⟩
  rw [h] at hx
  exact List.reverse_injective (Option.some.inj (hx.symm.trans hx'))

/-- The characters end with blanks and a connective. -/
structure EndsJoined (cs before gap w : List Char) : Prop where
  eq : cs = before ++ (gap ++ w)
  gap_ne : gap ≠ []
  blank_gap : ∀ c ∈ gap, isBlank c
  joins : Joins w

/-- Either the characters end with a connective after blanks, and are left without it and without
    all blanks before it, or they do not, and are left as they are. -/
theorem dropTrailingConnective_cases (cs : List Char) :
    (∃ gap w, EndsJoined cs (dropTrailingConnective cs) gap w ∧
      (dropTrailingConnective cs).getLast?.any isBlank = false) ∨
    ((∀ before gap w, ¬ EndsJoined cs before gap w) ∧ dropTrailingConnective cs = cs) := by
  have hfound {before gap w : List Char} (h : EndsJoined cs before gap w) :
      ∃ c rest, isBlank c ∧
        (connectives.findSome? fun word => afterWord? word.reverse cs.reverse) =
          some (c :: rest) := by
    obtain ⟨c, rest, hgap⟩ := List.exists_cons_of_ne_nil (List.reverse_ne_nil_iff.2 h.gap_ne)
    have hc : c ∈ gap := by
      rw [← List.mem_reverse, hgap]
      exact .head _
    refine ⟨c, rest ++ before.reverse, h.blank_gap c hc, trailingConnective_iff.2 ⟨w, h.joins, ?_⟩⟩
    rw [← List.cons_append, ← hgap, h.eq]
    simp
  rw [dropTrailingConnective]
  split
  · next c before hfind =>
    split
    · next hc =>
      obtain ⟨w, hw, hcs⟩ := trailingConnective_iff.1 hfind
      have hbefore : before.reverse =
          (dropBlanks before).reverse ++ (before.takeWhile isBlank).reverse := by
        rw [← List.reverse_append, dropBlanks, List.takeWhile_append_dropWhile]
      refine .inl ⟨(before.takeWhile isBlank).reverse ++ [c], w, ⟨?_, by simp, ?_, hw⟩, ?_⟩
      · simp [hcs, hbefore]
      · intro d hd
        rcases List.mem_append.1 hd with hd | hd
        · exact List.all_eq_true.1 List.all_takeWhile d (List.mem_reverse.1 hd)
        · rwa [List.mem_singleton.1 hd]
      · rw [List.getLast?_reverse]
        exact startsBlank_dropBlanks before
    · next hc =>
      refine .inr ⟨fun before' gap w h => ?_, rfl⟩
      obtain ⟨d, rest, hd, hfind'⟩ := hfound h
      rw [hfind] at hfind'
      cases hfind'
      exact hc hd
  · next hfind =>
    refine .inr ⟨fun before gap w h => ?_, rfl⟩
    obtain ⟨c, rest, -, hfind'⟩ := hfound h
    exact hfind c rest hfind'

/-! ## Removing connectives -/

theorem mem_ends_stop : rest ∈ stop.ends blank total cs ↔ cs = [] ∧ rest = [] := by
  cases cs <;> simp [ends]

theorem ends_joining (blank : Char → Bool) (total : Nat) (cs : List Char) :
    joining.ends blank total cs = (connectives.findSome? (afterWord? · cs)).toList := by
  have hwords : joining.ends blank total cs =
      (afterWord? ['a', 'n', 'd'] cs).toList ++ (afterWord? ['o', 'r'] cs).toList := rfl
  rw [hwords, connectives_eq]
  rcases afterWord?_pair (by decide : 'a' ≠ 'o') ['n', 'd'] ['r'] cs with hand | hor
  · cases hor : afterWord? ['o', 'r'] cs <;> simp [List.findSome?, hand, hor]
  · cases hand : afterWord? ['a', 'n', 'd'] cs <;> simp [List.findSome?, hand, hor]

theorem mem_ends_joining :
    rest ∈ joining.ends blank total cs ↔ ∃ w, Joins w ∧ cs = w ++ rest := by
  rw [ends_joining, Option.mem_toList, leadingConnective_iff]

theorem mem_ends_trailing : rest ∈ trailing.ends blank total cs ↔
    rest = [] ∧ ∃ gap w after, gap ≠ [] ∧ (∀ c ∈ gap, blank c) ∧ Joins w ∧
      (∀ c ∈ after, blank c) ∧ cs = gap ++ (w ++ after) := by
  constructor
  · intro h
    obtain ⟨cs₁, hcs, h₁⟩ := List.mem_flatMap.1 h
    obtain ⟨cs₂, hcs₁, h₂⟩ := List.mem_flatMap.1 h₁
    obtain ⟨cs₃, hcs₂, hrest⟩ := List.mem_flatMap.1 h₂
    obtain ⟨gap, hne, rfl, hgap⟩ := mem_ends_needed.1 hcs
    obtain ⟨w, hw, rfl⟩ := mem_ends_joining.1 hcs₁
    obtain ⟨after, rfl, hafter⟩ := mem_afterBlanks.1 hcs₂
    obtain ⟨rfl, rfl⟩ := mem_ends_stop.1 hrest
    exact ⟨rfl, gap, w, after, hne, hgap, hw, hafter, by rw [List.append_nil]⟩
  · rintro ⟨rfl, gap, w, after, hne, hgap, hw, hafter, rfl⟩
    refine List.mem_flatMap.2 ⟨_, mem_ends_needed.2 ⟨gap, hne, rfl, hgap⟩, ?_⟩
    refine List.mem_flatMap.2 ⟨_, mem_ends_joining.2 ⟨w, hw, rfl⟩, ?_⟩
    refine List.mem_flatMap.2 ⟨[], mem_afterBlanks.2 ⟨after, (List.append_nil _).symm, hafter⟩, ?_⟩
    exact mem_ends_stop.2 ⟨rfl, rfl⟩

/-- Where no connective at the start of the text is found, the matches are the connective at the end
    of the text with the blanks before it. -/
theorem removeFrom_connective (hlead : ∀ t, t <:+ cs → leading.ends isBlank total t = [])
    (hend : cs.getLast?.any isBlank = false) :
    removeFrom isBlank total connective 0 cs = dropTrailingConnective cs := by
  -- a match is at the end of the text, and there are no blanks after it
  have hmatch {before t rest : List Char} (hcs : cs = before ++ t)
      (ht : rest ∈ connective.ends isBlank total t) :
      rest = [] ∧ ∃ gap w, EndsJoined cs before gap w ∧ t = gap ++ w := by
    rw [connective, ends, hlead t (hcs ▸ List.suffix_append _ _), List.nil_append,
      mem_ends_trailing] at ht
    obtain ⟨rfl, gap, w, after, hne, hgap, hw, hafter, rfl⟩ := ht
    have hnil : after = [] := by
      rw [hcs, ← List.append_assoc, ← List.append_assoc] at hend
      exact eq_nil_of_blank_end hend hafter
    subst hnil
    rw [List.append_nil] at hcs ⊢
    exact ⟨rfl, gap, w, ⟨hcs, hne, hgap, hw⟩, rfl⟩
  rcases dropTrailingConnective_cases cs with ⟨gap, w, h, hlast⟩ | ⟨hno, heq⟩
  · generalize dropTrailingConnective cs = kept at h hlast ⊢
    have hkept (t : List Char) (ht : t <:+ kept) (hne : t ≠ []) :
        connective.ends isBlank total (t ++ (gap ++ w)) = [] := by
      rw [List.eq_nil_iff_forall_not_mem]
      intro rest hrest
      obtain ⟨before, rfl⟩ := ht
      have hcs : cs = before ++ (t ++ (gap ++ w)) := by rw [h.eq, List.append_assoc]
      obtain ⟨-, gap', w', h', heq⟩ := hmatch hcs hrest
      rw [← List.append_assoc] at heq
      -- a longer gap would end what is kept with a blank
      have hgap : t ++ gap = gap' := h.joins.append_inj h'.joins heq
      have hblank : ∀ c ∈ t, isBlank c := fun c hc =>
        h'.blank_gap c (hgap ▸ List.mem_append_left gap hc)
      exact hne (eq_nil_of_blank_end hlast hblank)
    have hfirst : (connective.ends isBlank total (gap ++ w ++ [])).head? = some [] := by
      rw [List.append_nil]
      have hmem : [] ∈ connective.ends isBlank total (gap ++ w) :=
        List.mem_append_right _ (mem_ends_trailing.2
          ⟨rfl, gap, w, [], h.gap_ne, h.blank_gap, h.joins, nofun, by rw [List.append_nil]⟩)
      obtain ⟨first, rest, hends⟩ := List.exists_cons_of_ne_nil (List.ne_nil_of_mem hmem)
      have hnil : first = [] := (hmatch h.eq (hends ▸ .head _)).1
      rw [hends, hnil]
      rfl
    have hgone := removeFrom_of_match (List.append_ne_nil_of_left_ne_nil h.gap_ne w) hfirst
    rw [List.append_nil] at hgone
    rw [h.eq, removeFrom_append hkept, hgone, removeFrom, List.append_nil]
  · have hkept (t : List Char) (ht : t <:+ cs) (_ : t ≠ []) :
        connective.ends isBlank total (t ++ []) = [] := by
      rw [List.append_nil, List.eq_nil_iff_forall_not_mem]
      intro rest hrest
      obtain ⟨before, hcs⟩ := ht
      obtain ⟨-, gap, w, h, -⟩ := hmatch hcs.symm hrest
      exact hno before gap w h
    have hall := removeFrom_append hkept
    rw [List.append_nil, removeFrom, List.append_nil] at hall
    exact hall.trans heq.symm

theorem ends_leading_of_length_ne (h : cs.length ≠ total) : leading.ends blank total cs = [] := by
  rw [leading, ends, ends, if_neg h, List.flatMap_nil]

/-- What a connective at the start of a text leaves. -/
theorem ends_leading (h : startsBlank cs = false) :
    leading.ends isBlank cs.length cs = (connectives.findSome? (afterWord? · cs)).toList.flatMap
      ((either (blanks true) stop).ends isBlank cs.length) := by
  have hblanks : afterBlanks isBlank cs = [cs] := by
    cases cs with
    | nil => rfl
    | cons c cs =>
      have hc : ¬ isBlank c := by simpa [startsBlank] using h
      rw [afterBlanks, if_neg hc]
  rw [leading, ends, ends, if_pos rfl, List.flatMap_singleton, ends, ends, hblanks,
    List.flatMap_singleton, ends, ends_joining]
  rfl

/-- Either the text starts with a connective, and the preferred match leaves it without that, or
    there is no match and it is left as it is. -/
theorem dropLeadingConnective_cases (h : startsBlank cs = false) :
    ((leading.ends isBlank cs.length cs).head? = some (dropLeadingConnective cs) ∧
      ∃ used, used ≠ [] ∧ cs = used ++ dropLeadingConnective cs) ∨
    (leading.ends isBlank cs.length cs = [] ∧ dropLeadingConnective cs = cs) := by
  rw [ends_leading h, dropLeadingConnective]
  cases hfind : connectives.findSome? (afterWord? · cs) with
  | none => exact .inr ⟨rfl, rfl⟩
  | some rest =>
    obtain ⟨w, hw, rfl⟩ := leadingConnective_iff.1 hfind
    have hne : w ≠ [] := by
      rintro rfl
      exact absurd hw (by decide)
    rw [Option.toList_some, List.flatMap_singleton, ends]
    cases rest with
    | nil => exact .inl ⟨rfl, w, hne, rfl⟩
    | cons c rest =>
      by_cases hc : isBlank c
      · refine .inl ⟨?_, w ++ c :: rest.takeWhile isBlank, by simp, ?_⟩
        · simp [ends, hc, head?_afterBlanks, dropBlanks]
        · simp [hc, dropBlanks]
      · refine .inr ⟨?_, ?_⟩
        · simp [ends, hc]
        · simp [hc]

/-- If no blanks are around a text, removing the matches is taking the connectives off its ends. -/
theorem removeAll_connective (h : Bare cs) :
    connective.removeAll isBlank cs = dropTrailingConnective (dropLeadingConnective cs) := by
  rw [removeAll]
  rcases dropLeadingConnective_cases h.1 with ⟨hfirst, used, hne, hcs⟩ | ⟨hnone, heq⟩
  · generalize dropLeadingConnective cs = rest at hfirst hcs ⊢
    have hshort {t : List Char} (ht : t <:+ rest) : t.length ≠ cs.length := by
      have hpos := List.length_pos_iff.2 hne
      have hle := ht.length_le
      rw [hcs, List.length_append]
      omega
    have hmatch : (connective.ends isBlank cs.length (used ++ rest)).head? = some rest := by
      rw [← hcs, connective, ends, List.head?_append, hfirst]
      rfl
    have hgone := removeFrom_of_match hne hmatch
    rw [← hcs] at hgone
    rw [hgone]
    exact removeFrom_connective (fun t ht => ends_leading_of_length_ne (hshort ht))
      (getLast?_of_suffix ⟨used, hcs.symm⟩ h.2)
  · rw [heq]
    refine removeFrom_connective (fun t ht => ?_) h.2
    by_cases hlen : t.length = cs.length
    · rwa [ht.eq_of_length hlen]
    · exact ends_leading_of_length_ne hlen

end Regex

end QueryTemplate
