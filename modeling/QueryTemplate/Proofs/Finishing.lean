import Mathlib.Data.List.TakeWhile
import QueryTemplate.Proofs.Regex

/-!
# Finished clauses

A clause is finished by taking off what joined it to parts left out: one connective at its start
and one at its end, with the blanks next to it, or one comma at its end. What that leaves is said
here by relations, which do not tell how a connective is found. Each of them has one result, and it
is what the functions for clauses come to.

* `Text.Gap`, `Text.exists_gaps`: blanks, and those around a text;
* `LeadOff`, `TrailOff`, `CommaOff`: what is left without a connective at the start or at the end,
  or without a comma;
* `ClauseKind.Leaves`: what is left of a clause (`ClauseKind.leaves_iff`);
* `ClauseKind.Leaves.eq_nil_iff`: nothing is left of no text, and of what only joins;
* `finish_leaves`: the text of a finished clause.
-/

namespace QueryTemplate

namespace Text

/-! ## Ends of texts -/

theorem stripEnd_eq_some_iff {stop cs before : List Char} :
    stripEnd stop cs = some before ↔ cs = before ++ stop := by
  rw [stripEnd, Option.map_eq_some_iff]
  constructor
  · rintro ⟨rest, hrest, rfl⟩
    have hcs := stripStart_eq_some_iff.1 hrest
    rw [← List.reverse_reverse cs, hcs, List.reverse_append, List.reverse_reverse]
  · rintro rfl
    exact ⟨before.reverse, stripStart_eq_some_iff.2 List.reverse_append,
      List.reverse_reverse before⟩

theorem eq_nil_of_blanks {cs : List Char} (hstart : startsBlank cs = false)
    (h : ∀ c ∈ cs, isBlank c) : cs = [] := by
  cases cs with
  | nil => rfl
  | cons c cs =>
    have hc : isBlank c := h c List.mem_cons_self
    exact absurd hc (Bool.eq_false_iff.1 hstart)

theorem dropBlanksEnd_eq_nil_iff {cs : List Char} :
    dropBlanksEnd cs = [] ↔ ∀ c ∈ cs, isBlank c := by
  simp [dropBlanksEnd]

theorem trimmed_eq_nil_iff {cs : List Char} : trimmed cs = [] ↔ ∀ c ∈ cs, isBlank c := by
  rw [trimmed, dropBlanksEnd_eq_nil_iff]
  constructor
  · intro h
    exact List.dropWhile_eq_nil_iff.1 (eq_nil_of_blanks (startsBlank_dropBlanks cs) h)
  · exact fun h c hc => h c ((List.dropWhile_suffix isBlank).mem hc)

theorem dropBlanksEnd_concat {c : Char} (h : isBlank c) (cs : List Char) :
    dropBlanksEnd (cs ++ [c]) = dropBlanksEnd cs := by
  rw [dropBlanksEnd, List.reverse_concat, List.dropWhile_cons_of_pos h, dropBlanksEnd]

theorem getLast?_dropBlanksEnd (cs : List Char) :
    (dropBlanksEnd cs).getLast?.any isBlank = false := by
  rw [dropBlanksEnd, List.getLast?_reverse]
  exact startsBlank_dropBlanks cs.reverse

/-- No blank is a `?`. -/
theorem count_dropBlanks (cs : List Char) : (dropBlanks cs).count '?' = cs.count '?' := by
  have hblanks : (cs.takeWhile isBlank).count '?' = 0 := by
    rw [List.count_eq_zero]
    intro hmem
    cases List.all_eq_true.1 List.all_takeWhile _ hmem
  conv_rhs => rw [← List.takeWhile_append_dropWhile (p := isBlank) (l := cs), List.count_append]
  rw [hblanks, Nat.zero_add, dropBlanks]

theorem count_dropBlanksEnd (cs : List Char) : (dropBlanksEnd cs).count '?' = cs.count '?' := by
  have hreverse := count_dropBlanks cs.reverse
  rw [List.count_reverse] at hreverse
  rw [dropBlanksEnd, List.count_reverse]
  exact hreverse

theorem count_trimmed (cs : List Char) : (trimmed cs).count '?' = cs.count '?' := by
  rw [trimmed, count_dropBlanksEnd, count_dropBlanks]

/-! ## Blanks around words -/

variable {cs a b w : List Char}

/-- Blanks and nothing else. -/
def Gap (cs : List Char) : Prop :=
  ∀ c ∈ cs, isBlank c

instance (cs : List Char) : Decidable (Gap cs) :=
  decidable_of_iff (cs.all isBlank) List.all_eq_true

theorem gap_nil : Gap [] := by
  simp [Gap]

theorem Gap.not_mem {c : Char} (h : Gap cs) (hc : isBlank c = false := by decide) : c ∉ cs :=
  fun hmem => Bool.eq_false_iff.1 hc (h c hmem)

/-- A text without blanks before it has no gap before it. -/
theorem Gap.eq_nil_of_start (ha : Gap a) (h : startsBlank (a ++ cs) = false) : a = [] :=
  eq_nil_of_blanks (startsBlank_eq_false_of_start (List.prefix_append a cs) h) ha

theorem bare_end_of_append (h : (a ++ b).getLast?.any isBlank = false) :
    b.getLast?.any isBlank = false := by
  cases b with
  | nil => rfl
  | cons c b => rwa [List.getLast?_append_of_ne_nil _ (List.cons_ne_nil c b)] at h

theorem Gap.eq_nil_of_end (hb : Gap b) (h : (cs ++ b).getLast?.any isBlank = false) : b = [] := by
  have hend := dropBlanksEnd_of_bare (bare_end_of_append h)
  rw [← hend]
  exact dropBlanksEnd_eq_nil_iff.2 hb

theorem bare_of_forall (h : ∀ c ∈ w, isBlank c = false) : Bare w := by
  constructor
  · exact (Option.any_eq_false _ _).2 fun c hc => h c (List.mem_of_mem_head? hc)
  · exact (Option.any_eq_false _ _).2 fun c hc => h c (List.mem_of_getLast? hc)

/-- A text is what is left of it without the blanks at its ends, and those blanks. -/
theorem exists_gaps (cs : List Char) : ∃ a b, Gap a ∧ Gap b ∧ cs = a ++ trimmed cs ++ b := by
  refine ⟨cs.takeWhile isBlank, ((dropBlanks cs).reverse.takeWhile isBlank).reverse, ?_, ?_, ?_⟩
  · exact fun c => List.mem_takeWhile_imp
  · exact fun c hc => List.mem_takeWhile_imp (List.mem_reverse.1 hc)
  · have hend : dropBlanks cs = trimmed cs ++
        ((dropBlanks cs).reverse.takeWhile isBlank).reverse := by
      rw [trimmed, dropBlanksEnd, ← List.reverse_append, List.takeWhile_append_dropWhile,
        List.reverse_reverse]
    rw [List.append_assoc, ← hend, dropBlanks, List.takeWhile_append_dropWhile]

theorem exists_gap_of_start (h : startsBlank cs = false) : ∃ b, Gap b ∧ cs = trimmed cs ++ b := by
  obtain ⟨a, b, ha, hb, hcs⟩ := exists_gaps cs
  rw [hcs, List.append_assoc] at h
  obtain rfl := ha.eq_nil_of_start h
  exact ⟨b, hb, hcs⟩

theorem exists_gap_of_end (h : cs.getLast?.any isBlank = false) :
    ∃ a, Gap a ∧ cs = a ++ trimmed cs := by
  obtain ⟨a, b, ha, hb, hcs⟩ := exists_gaps cs
  rw [hcs] at h
  obtain rfl := hb.eq_nil_of_end h
  exact ⟨a, ha, by rwa [List.append_nil] at hcs⟩

theorem trimmed_append (hw : Bare w) (ha : Gap a) (hb : Gap b) : trimmed (a ++ w ++ b) = w := by
  cases w with
  | nil =>
    rw [trimmed_eq_nil_iff, List.append_nil]
    exact List.forall_mem_append.2 ⟨ha, hb⟩
  | cons c w =>
    have hstart : dropBlanks (a ++ (c :: w ++ b)) = c :: w ++ b := by
      rw [dropBlanks_append ha]
      exact dropBlanks_of_not_startsBlank hw.1
    rw [List.append_assoc, trimmed, hstart, dropBlanksEnd, List.reverse_append,
      List.dropWhile_append_of_pos fun c hc => hb c (List.mem_reverse.1 hc), ← dropBlanksEnd,
      dropBlanksEnd_of_bare hw.2]

/-! ## Characters repeated at an end -/

variable {c : Char}

theorem dropWhile_of_head?_ne (h : cs.head? ≠ some c) : cs.dropWhile (· == c) = cs := by
  cases cs with
  | nil => rfl
  | cons d cs => exact List.dropWhile_cons_of_neg (by simpa using h)

theorem dropEnd_of_getLast?_ne (h : cs.getLast? ≠ some c) : dropEnd c cs = cs := by
  rw [← List.head?_reverse] at h
  rw [dropEnd, dropWhile_of_head?_ne h, List.reverse_reverse]

theorem dropWhile_replicate_append (n : Nat) (cs : List Char) :
    (List.replicate n c ++ cs).dropWhile (· == c) = cs.dropWhile (· == c) :=
  List.dropWhile_append_of_pos fun d hd => by simp [(List.mem_replicate.1 hd).2]

theorem dropEnd_append_replicate (n : Nat) (cs : List Char) :
    dropEnd c (cs ++ List.replicate n c) = dropEnd c cs := by
  rw [dropEnd, List.reverse_append, List.reverse_replicate, dropWhile_replicate_append, dropEnd]

/-- A text is what is left of it without a character repeated at its start, and those. -/
theorem exists_replicate_append (c : Char) (cs : List Char) :
    ∃ n rest, cs = List.replicate n c ++ rest ∧ rest.head? ≠ some c := by
  refine ⟨(cs.takeWhile (· == c)).length, cs.dropWhile (· == c), ?_, ?_⟩
  · have hstart : cs.takeWhile (· == c) = List.replicate (cs.takeWhile (· == c)).length c :=
      List.eq_replicate_iff.2 ⟨rfl, fun d hd => by simpa using List.mem_takeWhile_imp hd⟩
    rw [← hstart, List.takeWhile_append_dropWhile]
  · intro hhead
    have hnot := List.head?_dropWhile_not (· == c) cs
    rw [hhead] at hnot
    simp at hnot

end Text

open Text
open Regex (Joins leadingConnective_iff trailingConnective_iff)

variable {cs mid text : List Char}

/-! ## Connectives taken off -/

/-- The characters begin with a connective, and a blank or the end comes after it. -/
def LeadsJoined (cs : List Char) : Prop :=
  ∃ w rest, Joins w ∧ cs = w ++ rest ∧ rest.head?.all isBlank

/-- The characters end with a connective, and a blank comes before it. -/
def TrailsJoined (cs : List Char) : Prop :=
  ∃ before w, Joins w ∧ cs = before ++ w ∧ before.getLast?.any isBlank

theorem leadsJoined_iff : LeadsJoined cs ↔
    (connectives.findSome? (afterWord? · cs)).any fun rest => rest.head?.all isBlank := by
  simp only [Option.any_eq_true, leadingConnective_iff, LeadsJoined]
  constructor
  · rintro ⟨w, rest, hw, hcs, hblank⟩
    exact ⟨rest, ⟨w, hw, hcs⟩, hblank⟩
  · rintro ⟨rest, ⟨w, hw, hcs⟩, hblank⟩
    exact ⟨w, rest, hw, hcs, hblank⟩

instance (cs : List Char) : Decidable (LeadsJoined cs) :=
  decidable_of_iff _ leadsJoined_iff.symm

/-- What is left of characters without a connective at their start and the blanks after it. -/
inductive LeadOff (cs : List Char) : List Char → Prop
  | taken {w rest : List Char} : Joins w → cs = w ++ rest → rest.head?.all isBlank →
      LeadOff cs (dropBlanks rest)
  | absent : ¬ LeadsJoined cs → LeadOff cs cs

/-- What is left of characters without a connective at their end and the blanks before it. -/
inductive TrailOff (cs : List Char) : List Char → Prop
  | taken {before w : List Char} : Joins w → cs = before ++ w → before.getLast?.any isBlank →
      TrailOff cs (dropBlanksEnd before)
  | absent : ¬ TrailsJoined cs → TrailOff cs cs

/-- What is left of characters without one comma at their end, and without blanks around them. -/
inductive CommaOff (cs : List Char) : List Char → Prop
  | taken {before : List Char} : cs = before ++ [','] → CommaOff cs (trimmed before)
  | absent : cs.getLast? ≠ some ',' → CommaOff cs (trimmed cs)

theorem dropLeadingConnective_append {w rest : List Char} (hw : Joins w)
    (hrest : rest.head?.all isBlank) : dropLeadingConnective (w ++ rest) = dropBlanks rest := by
  rw [dropLeadingConnective, leadingConnective_iff.2 ⟨w, hw, rfl⟩]
  cases rest with
  | nil => rfl
  | cons c rest =>
    have hdrop : dropBlanks (c :: rest) = dropBlanks rest := List.dropWhile_cons_of_pos hrest
    rw [hdrop]
    exact if_pos hrest

theorem dropLeadingConnective_of_not_leadsJoined (h : ¬ LeadsJoined cs) :
    dropLeadingConnective cs = cs := by
  rw [dropLeadingConnective]
  split
  · next hfind =>
    obtain ⟨w, hw, hcs⟩ := leadingConnective_iff.1 hfind
    exact absurd ⟨w, [], hw, hcs, rfl⟩ h
  · next c rest hfind =>
    obtain ⟨w, hw, hcs⟩ := leadingConnective_iff.1 hfind
    exact if_neg fun hc => h ⟨w, c :: rest, hw, hcs, hc⟩
  · rfl

theorem leadOff_iff : LeadOff cs mid ↔ mid = dropLeadingConnective cs := by
  constructor
  · rintro (⟨hw, rfl, hrest⟩ | habsent)
    · exact (dropLeadingConnective_append hw hrest).symm
    · exact (dropLeadingConnective_of_not_leadsJoined habsent).symm
  · rintro rfl
    by_cases h : LeadsJoined cs
    · obtain ⟨w, rest, hw, rfl, hrest⟩ := h
      rw [dropLeadingConnective_append hw hrest]
      exact .taken hw rfl hrest
    · rw [dropLeadingConnective_of_not_leadsJoined h]
      exact .absent h

theorem dropTrailingConnective_append {before w : List Char} (hw : Joins w)
    (hbefore : before.getLast?.any isBlank) :
    dropTrailingConnective (before ++ w) = dropBlanksEnd before := by
  obtain ⟨c, hc, hblank⟩ := (Option.any_eq_true _ _).1 hbefore
  obtain ⟨front, rfl⟩ := List.getLast?_eq_some_iff.1 hc
  have hfind : (connectives.findSome? fun word => afterWord? word.reverse
      (front ++ [c] ++ w).reverse) = some (c :: front.reverse) :=
    trailingConnective_iff.2 ⟨w, hw, by rw [List.reverse_cons, List.reverse_reverse]⟩
  rw [dropTrailingConnective, hfind, dropBlanksEnd_concat hblank]
  exact if_pos hblank

theorem dropTrailingConnective_of_not_trailsJoined (h : ¬ TrailsJoined cs) :
    dropTrailingConnective cs = cs := by
  rw [dropTrailingConnective]
  split
  · next c before hfind =>
    obtain ⟨w, hw, hcs⟩ := trailingConnective_iff.1 hfind
    refine if_neg fun hc => h ⟨_, w, hw, hcs, ?_⟩
    rwa [List.getLast?_reverse]
  · rfl

theorem trailOff_iff : TrailOff cs text ↔ text = dropTrailingConnective cs := by
  constructor
  · rintro (⟨hw, rfl, hbefore⟩ | habsent)
    · exact (dropTrailingConnective_append hw hbefore).symm
    · exact (dropTrailingConnective_of_not_trailsJoined habsent).symm
  · rintro rfl
    by_cases h : TrailsJoined cs
    · obtain ⟨before, w, hw, rfl, hbefore⟩ := h
      rw [dropTrailingConnective_append hw hbefore]
      exact .taken hw rfl hbefore
    · rw [dropTrailingConnective_of_not_trailsJoined h]
      exact .absent h

theorem dropTrailingComma_concat {before : List Char} (h : startsBlank before = false) :
    dropTrailingComma (before ++ [',']) = trimmed before := by
  rw [dropTrailingComma, stripEnd_eq_some_iff.2 rfl, trimmed, dropBlanks_of_not_startsBlank h]

theorem dropTrailingComma_of_getLast?_ne (h : cs.getLast? ≠ some ',') :
    dropTrailingComma cs = cs := by
  rw [dropTrailingComma]
  split
  · next before hstrip =>
    rw [stripEnd_eq_some_iff.1 hstrip] at h
    exact absurd List.getLast?_concat h
  · rfl

theorem commaOff_iff (hcs : Bare cs) : CommaOff cs text ↔ text = dropTrailingComma cs := by
  have hstart {before : List Char} (h : cs = before ++ [',']) : startsBlank before = false :=
    startsBlank_eq_false_of_start ⟨[','], h.symm⟩ hcs.1
  constructor
  · rintro (hbefore | habsent)
    · rw [hbefore, dropTrailingComma_concat (hstart hbefore)]
    · rw [dropTrailingComma_of_getLast?_ne habsent, hcs.trimmed]
  · rintro rfl
    by_cases h : cs.getLast? = some ','
    · obtain ⟨before, hbefore⟩ := List.getLast?_eq_some_iff.1 h
      rw [hbefore, dropTrailingComma_concat (hstart hbefore)]
      exact .taken rfl
    · rw [dropTrailingComma_of_getLast?_ne h, ← hcs.trimmed]
      exact hcs.trimmed.symm ▸ .absent h

/-! ## What is left -/

/-- A connective has no other letters than those of the connectives. -/
theorem Regex.Joins.toLower_mem {w : List Char} {c : Char} (h : Joins w) (hc : c ∈ w) :
    c.toLower ∈ connectives.flatten :=
  List.mem_flatten.2 ⟨_, h, List.mem_map_of_mem hc⟩

theorem Regex.Joins.count {w : List Char} (h : Joins w) : w.count '?' = 0 := by
  rw [List.count_eq_zero]
  intro hmem
  exact absurd (h.toLower_mem hmem) (by decide)

namespace LeadOff

theorem suffix (h : LeadOff cs mid) : mid <:+ cs := by
  obtain ⟨-, rfl, -⟩ | - := h
  · exact (List.dropWhile_suffix isBlank).trans (List.suffix_append _ _)
  · exact List.suffix_rfl

theorem bare (h : LeadOff cs mid) (hcs : Bare cs) : Bare mid := by
  refine ⟨?_, getLast?_of_suffix h.suffix hcs.2⟩
  obtain _ | _ := h
  · exact startsBlank_dropBlanks _
  · exact hcs.1

theorem count (h : LeadOff cs mid) : mid.count '?' = cs.count '?' := by
  obtain ⟨hw, rfl, -⟩ | - := h
  · rw [count_dropBlanks, List.count_append, hw.count, Nat.zero_add]
  · rfl

/-- Nothing is left of no characters, and of a connective. -/
theorem eq_nil_iff (h : LeadOff cs mid) (hcs : Bare cs) : mid = [] ↔ cs = [] ∨ Joins cs := by
  constructor
  · intro hmid
    obtain ⟨hw, rfl, -⟩ | - := h
    · -- the blanks after the connective would be at the end
      have hrest := eq_nil_of_blank_end hcs.2 (List.dropWhile_eq_nil_iff.1 hmid)
      rw [hrest, List.append_nil]
      exact .inr hw
    · exact .inl hmid
  · rintro (rfl | hjoins)
    · exact List.eq_nil_of_suffix_nil h.suffix
    · rw [leadOff_iff.1 h, ← List.append_nil cs]
      exact dropLeadingConnective_append hjoins rfl

end LeadOff

namespace TrailOff

theorem prefix_of (h : TrailOff mid text) : text <+: mid := by
  obtain ⟨-, rfl, -⟩ | - := h
  · exact (prefix_dropBlanksEnd _).trans (List.prefix_append _ _)
  · exact List.prefix_rfl

theorem bare (h : TrailOff mid text) (hmid : Bare mid) : Bare text := by
  refine ⟨startsBlank_eq_false_of_start h.prefix_of hmid.1, ?_⟩
  obtain _ | _ := h
  · exact getLast?_dropBlanksEnd _
  · exact hmid.2

theorem count (h : TrailOff mid text) : text.count '?' = mid.count '?' := by
  obtain ⟨hw, rfl, -⟩ | - := h
  · rw [count_dropBlanksEnd, List.count_append, hw.count, Nat.add_zero]
  · rfl

/-- A connective at the end is never all there is, as a blank comes before it. -/
theorem eq_nil_iff (h : TrailOff mid text) (hmid : Bare mid) : text = [] ↔ mid = [] := by
  constructor
  · intro htext
    obtain ⟨hw, rfl, hbefore⟩ | - := h
    · have hnil := eq_nil_of_blanks
        (startsBlank_eq_false_of_start (List.prefix_append _ _) hmid.1)
        (dropBlanksEnd_eq_nil_iff.1 htext)
      rw [hnil] at hbefore
      cases hbefore
    · exact htext
  · rintro rfl
    exact List.eq_nil_of_prefix_nil h.prefix_of

end TrailOff

namespace CommaOff

theorem infix_of (h : CommaOff cs text) : text <:+: cs := by
  obtain rfl | - := h
  · exact (infix_trimmed _).trans (List.prefix_append _ _).isInfix
  · exact infix_trimmed cs

theorem bare (h : CommaOff cs text) : Bare text := by
  obtain _ | _ := h
  · exact bare_trimmed _
  · exact bare_trimmed _

theorem count (h : CommaOff cs text) : text.count '?' = cs.count '?' := by
  obtain rfl | - := h
  · rw [count_trimmed, List.count_append]
    rfl
  · exact count_trimmed cs

theorem eq_nil_iff (h : CommaOff cs text) (hcs : Bare cs) : text = [] ↔ cs = [] ∨ cs = [','] := by
  obtain @⟨before, rfl⟩ | hlast := h
  · have hstart := startsBlank_eq_false_of_start (List.prefix_append before [',']) hcs.1
    rw [trimmed_eq_nil_iff]
    constructor
    · intro hblank
      rw [eq_nil_of_blanks hstart hblank]
      exact .inr rfl
    · rintro (hnil | hcomma)
      · exact absurd hnil (by simp)
      · rw [List.append_left_eq_self.1 hcomma]
        exact nofun
  · rw [hcs.trimmed]
    constructor
    · exact .inl
    · rintro (hnil | rfl)
      · exact hnil
      · exact absurd rfl hlast

end CommaOff

namespace ClauseKind

/-- What is left of the characters of a clause when it is finished. -/
def Leaves : ClauseKind → (cs text : List Char) → Prop
  | conditions, cs, text => ∃ mid, LeadOff cs mid ∧ TrailOff mid text
  | assignments, cs, text => CommaOff cs text

/-- The characters only join parts of a clause. -/
def OnlyJoins : ClauseKind → List Char → Prop
  | conditions, cs => Joins cs
  | assignments, cs => cs = [',']

variable {kind : ClauseKind}

theorem leaves_iff (hcs : Bare cs) : kind.Leaves cs text ↔ text = kind.clean cs := by
  cases kind with
  | conditions =>
    constructor
    · rintro ⟨mid, hmid, htext⟩
      rw [trailOff_iff.1 htext, leadOff_iff.1 hmid]
      rfl
    · rintro rfl
      exact ⟨_, leadOff_iff.2 rfl, trailOff_iff.2 rfl⟩
  | assignments => exact commaOff_iff hcs

namespace Leaves

theorem infix_of (h : kind.Leaves cs text) : text <:+: cs := by
  cases kind with
  | conditions =>
    obtain ⟨mid, hmid, htext⟩ := h
    exact htext.prefix_of.isInfix.trans hmid.suffix.isInfix
  | assignments => exact CommaOff.infix_of h

theorem bare (h : kind.Leaves cs text) (hcs : Bare cs) : Bare text := by
  cases kind with
  | conditions =>
    obtain ⟨mid, hmid, htext⟩ := h
    exact htext.bare (hmid.bare hcs)
  | assignments => exact CommaOff.bare h

theorem count (h : kind.Leaves cs text) : text.count '?' = cs.count '?' := by
  cases kind with
  | conditions =>
    obtain ⟨mid, hmid, htext⟩ := h
    rw [htext.count, hmid.count]
  | assignments => exact CommaOff.count h

/-- Nothing is left of no text, and of what only joins. -/
theorem eq_nil_iff (h : kind.Leaves cs text) (hcs : Bare cs) :
    text = [] ↔ cs = [] ∨ kind.OnlyJoins cs := by
  cases kind with
  | conditions =>
    obtain ⟨mid, hmid, htext⟩ := h
    rw [htext.eq_nil_iff (hmid.bare hcs), hmid.eq_nil_iff hcs]
    rfl
  | assignments => exact CommaOff.eq_nil_iff h hcs

end Leaves

theorem bare_clean (kind : ClauseKind) (hcs : Bare cs) : Bare (kind.clean cs) :=
  ((leaves_iff hcs).2 rfl).bare hcs

theorem finish_eq_ite (kind : ClauseKind) (body : String) :
    kind.finish body =
      if kind.clean (trimmed body.toList) = [] then none
      else some (.ofList (kind.clean (trimmed body.toList))) := by
  rw [finish]
  split
  · next h => rw [if_pos h]
  · next h => rw [if_neg h]

theorem getD_finish (kind : ClauseKind) (body : String) :
    (kind.finish body).getD "" = .ofList (kind.clean (trimmed body.toList)) := by
  rw [finish_eq_ite]
  split
  · next h =>
    rw [h]
    rfl
  · rfl

theorem finish_ne_some_empty (kind : ClauseKind) (body : String) :
    kind.finish body ≠ some "" := by
  rw [finish_eq_ite]
  split
  · nofun
  · next hne =>
    intro h
    rw [Option.some.injEq, ← String.toList_inj, String.toList_ofList] at h
    exact hne h

end ClauseKind

/-- The text of a finished clause is what its characters, without the blanks around them, leave
    without a connective at each end, or without a comma at the end. For conditions it is also what
    stays when the matches of the regular expression for connectives are removed. There is no text
    if the characters are none or only join. It has no blanks at its ends, is a piece of the clause,
    and has all its question marks. -/
theorem finish_leaves (kind : ClauseKind) (body : String) :
    let b := trimmed body.toList
    ∃ text, (∀ left, kind.Leaves b left ↔ left = text) ∧
      kind.finish body = (if text = [] then none else some (.ofList text)) ∧
      (kind = .conditions → trimmed (Regex.connective.removeAll isBlank b) = text) ∧
      (text = [] ↔ b = [] ∨ kind.OnlyJoins b) ∧
      Bare text ∧ text <:+: body.toList ∧ text.count '?' = body.toList.count '?' := by
  intro b
  have hb : Bare b := bare_trimmed body.toList
  have hleaves : kind.Leaves b (kind.clean b) := (ClauseKind.leaves_iff hb).2 rfl
  refine ⟨kind.clean b, fun left => ClauseKind.leaves_iff hb, kind.finish_eq_ite body, ?_,
    hleaves.eq_nil_iff hb, hleaves.bare hb, hleaves.infix_of.trans (infix_trimmed _), ?_⟩
  · rintro rfl
    rw [Regex.removeAll_connective hb]
    exact (hleaves.bare hb).trimmed
  · rw [hleaves.count, count_trimmed]

theorem finish_leaves_inner :
    ClauseKind.conditions.finish " and\u2003OR and AND\n" = some "OR and" ∧
      trimmed (Regex.connective.removeAll isBlank (trimmed " and\u2003OR and AND\n".toList)) =
        "OR and".toList := by
  have hsome : ClauseKind.conditions.finish " and\u2003OR and AND\n" = some "OR and" := by
    decide +kernel
  obtain ⟨text, -, hfinish, hregex, -⟩ := finish_leaves .conditions " and\u2003OR and AND\n"
  refine ⟨hsome, (hregex rfl).trans ?_⟩
  rw [hsome] at hfinish
  split at hfinish
  · cases hfinish
  · rw [Option.some.inj hfinish, String.toList_ofList]

end QueryTemplate
