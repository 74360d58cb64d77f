import QueryTemplate.Directive

/-!
# Spelling of directives

How a directive is written between its braces: a keyword alone, or a keyword, a
blank and an argument that is not blank. Keywords are in lower case, and the
argument is what is left of the rest of the text without the blanks at its ends.
Reading a text finds the directive that it spells.

* `Directive.Spelled`: a text spells a directive;
* `read?_eq_some_iff`: reading finds a directive exactly in a text that spells it.
-/

namespace QueryTemplate

namespace Text

theorem stripStart_eq_some_iff {start cs rest : List Char} :
    stripStart start cs = some rest ↔ cs = start ++ rest := by
  induction start generalizing cs with
  | nil => simp [stripStart, eq_comm]
  | cons s start ih =>
    cases cs with
    | nil => simp [stripStart]
    | cons c cs =>
      rw [stripStart, List.cons_append, List.cons.injEq]
      split
      · next h => rw [ih, h, eq_self, true_and]
      · next h => simp [Ne.symm h]

/-- Whether the characters begin with a blank. -/
def startsBlank (cs : List Char) : Bool :=
  cs.head?.any isBlank

theorem startsBlank_iff {cs : List Char} :
    startsBlank cs ↔ ∃ c rest, cs = c :: rest ∧ isBlank c := by
  cases cs with
  | nil => simp [startsBlank]
  | cons c cs => simp [startsBlank]

theorem dropBlanks_append {gap cs : List Char} (h : ∀ c ∈ gap, isBlank c) :
    dropBlanks (gap ++ cs) = dropBlanks cs :=
  List.dropWhile_append_of_pos h

end Text

open Text

namespace Directive

/-- The text spells the directive. -/
inductive Spelled : List Char → Directive → Prop
  | clause (kind : ClauseKind) : Spelled kind.keyword.toList (.clause kind)
  | loop {arg : List Char} : startsBlank arg → trimmed arg ≠ [] →
      Spelled ("for".toList ++ arg) (.loop (.ofList (trimmed arg)))
  | cond {arg : List Char} : startsBlank arg → trimmed arg ≠ [] →
      Spelled ("if".toList ++ arg) (.cond (.ofList (trimmed arg)))
  | elseCond {gap arg : List Char} : gap ≠ [] → (∀ c ∈ gap, isBlank c) → startsBlank arg →
      trimmed arg ≠ [] →
      Spelled ("else".toList ++ (gap ++ ("if".toList ++ arg))) (.elseCond (.ofList (trimmed arg)))
  | otherwise : Spelled "else".toList .otherwise
  | close : Spelled "end".toList .close

theorem afterKeyword?_eq_some_iff {keyword : String} {cs rest : List Char} :
    afterKeyword? keyword cs = some rest ↔
      ∃ arg, cs = keyword.toList ++ arg ∧ startsBlank arg ∧ rest = dropBlanks arg := by
  rw [afterKeyword?]
  constructor
  · intro h
    split at h
    · next c arg harg =>
      split at h
      · next hc =>
        obtain rfl : dropBlanks arg = rest := by simpa using h
        refine ⟨c :: arg, stripStart_eq_some_iff.1 harg, by simpa [startsBlank] using hc, ?_⟩
        rw [dropBlanks, dropBlanks, List.dropWhile_cons_of_pos hc]
      · simp at h
    · simp at h
  · rintro ⟨arg, hcs, harg, rfl⟩
    obtain ⟨c, arg, rfl, hc⟩ := startsBlank_iff.1 harg
    rw [stripStart_eq_some_iff.2 hcs]
    simp only [hc, if_true, dropBlanks, List.dropWhile_cons_of_pos]

theorem argument?_eq_some_iff {keyword : String} {cs : List Char} {argument : String} :
    argument? keyword cs = some argument ↔
      ∃ arg, cs = keyword.toList ++ arg ∧ startsBlank arg ∧ trimmed arg ≠ [] ∧
        argument = .ofList (trimmed arg) := by
  rw [argument?]
  constructor
  · intro h
    split at h
    · next c arg harg =>
      obtain ⟨rest, hrest, harg⟩ := Option.map_eq_some_iff.1 harg
      obtain ⟨arg', hcs, hblank, rfl⟩ := afterKeyword?_eq_some_iff.1 hrest
      have htrimmed : trimmed arg' = c :: arg := harg
      obtain rfl : String.ofList (c :: arg) = argument := by simpa using h
      exact ⟨arg', hcs, hblank, by simp [htrimmed], by rw [htrimmed]⟩
    · simp at h
  · rintro ⟨arg, hcs, hblank, htrimmed, rfl⟩
    rw [afterKeyword?_eq_some_iff.2 ⟨arg, hcs, hblank, rfl⟩, Option.map_some]
    have hne : dropBlanksEnd (dropBlanks arg) ≠ [] := htrimmed
    split
    · next heq =>
      rw [trimmed, Option.some.inj heq]
    · next heq =>
      cases harg : dropBlanksEnd (dropBlanks arg) with
      | nil => exact absurd harg hne
      | cons c arg => exact absurd (congrArg some harg) (heq c arg)

/-- What follows `else` is an `if` with its argument. -/
theorem elseArgument?_eq_some_iff {cs : List Char} {argument : String} :
    (afterKeyword? "else" cs).bind (argument? "if") = some argument ↔
      ∃ gap arg, cs = "else".toList ++ (gap ++ ("if".toList ++ arg)) ∧ gap ≠ [] ∧
        (∀ c ∈ gap, isBlank c) ∧ startsBlank arg ∧ trimmed arg ≠ [] ∧
        argument = .ofList (trimmed arg) := by
  rw [Option.bind_eq_some_iff]
  constructor
  · rintro ⟨rest, hrest, hargument⟩
    obtain ⟨more, rfl, hmore, rfl⟩ := afterKeyword?_eq_some_iff.1 hrest
    obtain ⟨arg, hdrop, harg⟩ := argument?_eq_some_iff.1 hargument
    refine ⟨more.takeWhile isBlank, arg, ?_, ?_,
      fun c hc => List.all_eq_true.1 List.all_takeWhile c hc, harg⟩
    · rw [← hdrop, dropBlanks, List.takeWhile_append_dropWhile]
    · obtain ⟨c, more, rfl, hc⟩ := startsBlank_iff.1 hmore
      simp [hc]
  · rintro ⟨gap, arg, rfl, hgap, hblank, harg⟩
    refine ⟨"if".toList ++ arg, afterKeyword?_eq_some_iff.2 ⟨_, rfl, ?_, ?_⟩,
      argument?_eq_some_iff.2 ⟨arg, rfl, harg⟩⟩
    · cases gap with
      | nil => exact absurd rfl hgap
      | cons c gap => simpa [startsBlank] using hblank c List.mem_cons_self
    · rw [dropBlanks_append hblank]
      rfl

/-- A keyword is not found in characters that begin otherwise. -/
theorem afterKeyword?_eq_none {keyword : String} {cs : List Char}
    (h : ∀ arg, cs.head? ≠ (keyword.toList ++ arg).head?) : afterKeyword? keyword cs = none := by
  rw [Option.eq_none_iff_forall_ne_some]
  intro rest hrest
  obtain ⟨arg, hcs, _⟩ := afterKeyword?_eq_some_iff.1 hrest
  exact h arg (by rw [hcs])

theorem argument?_eq_none {keyword : String} {cs : List Char}
    (h : ∀ arg, cs.head? ≠ (keyword.toList ++ arg).head?) : argument? keyword cs = none := by
  rw [argument?, afterKeyword?_eq_none h]
  rfl

theorem withArgument?_eq_some_iff {cs : List Char} {d : Directive} :
    withArgument? cs = some d ↔
      (∃ header, argument? "for" cs = some header ∧ d = .loop header) ∨
      (∃ condition, argument? "if" cs = some condition ∧ d = .cond condition) ∨
      ∃ condition, (afterKeyword? "else" cs).bind (argument? "if") = some condition ∧
        d = .elseCond condition := by
  rw [withArgument?]
  constructor
  · intro h
    cases hloop : argument? "for" cs with
    | some header =>
      rw [hloop] at h
      exact .inl ⟨header, rfl, (Option.some.inj h).symm⟩
    | none =>
      cases hcond : argument? "if" cs with
      | some condition =>
        rw [hloop, hcond] at h
        exact .inr (.inl ⟨condition, rfl, (Option.some.inj h).symm⟩)
      | none =>
        cases helse : (afterKeyword? "else" cs).bind (argument? "if") with
        | some condition =>
          rw [hloop, hcond, helse] at h
          exact .inr (.inr ⟨condition, rfl, (Option.some.inj h).symm⟩)
        | none =>
          rw [hloop, hcond, helse] at h
          exact absurd h nofun
  · -- The keywords begin with different letters, so only one of them is found.
    rintro (⟨header, hloop, rfl⟩ | ⟨condition, hcond, rfl⟩ | ⟨condition, helse, rfl⟩)
    · rw [hloop]
    · obtain ⟨arg, rfl, _⟩ := argument?_eq_some_iff.1 hcond
      rw [argument?_eq_none (by simp), hcond]
    · obtain ⟨gap, arg, rfl, _⟩ := elseArgument?_eq_some_iff.1 helse
      rw [argument?_eq_none (by simp), argument?_eq_none (by simp), helse]

theorem read?_of_ne_keyword {text : String} (hwhere : text.toList ≠ "where".toList)
    (hset : text.toList ≠ "set".toList) (helse : text.toList ≠ "else".toList)
    (hend : text.toList ≠ "end".toList) : read? text = withArgument? text.toList := by
  rw [read?, if_neg fun h => hwhere (by rw [h]), if_neg fun h => hset (by rw [h]),
    if_neg fun h => helse (by rw [h]), if_neg fun h => hend (by rw [h])]

/-- Reading finds a directive exactly in a text that spells it. -/
theorem read?_eq_some_iff {text : String} {d : Directive} :
    read? text = some d ↔ Spelled text.toList d := by
  constructor
  · intro h
    rw [read?] at h
    split at h
    · next hwhere =>
      rw [hwhere, ← Option.some.inj h]
      exact .clause .conditions
    split at h
    · next hset =>
      rw [hset, ← Option.some.inj h]
      exact .clause .assignments
    split at h
    · next helse =>
      rw [helse, ← Option.some.inj h]
      exact .otherwise
    split at h
    · next hend =>
      rw [hend, ← Option.some.inj h]
      exact .close
    rcases withArgument?_eq_some_iff.1 h with
      ⟨header, hloop, rfl⟩ | ⟨condition, hcond, rfl⟩ | ⟨condition, helse, rfl⟩
    · obtain ⟨arg, hcs, hblank, harg, rfl⟩ := argument?_eq_some_iff.1 hloop
      exact hcs ▸ .loop hblank harg
    · obtain ⟨arg, hcs, hblank, harg, rfl⟩ := argument?_eq_some_iff.1 hcond
      exact hcs ▸ .cond hblank harg
    · obtain ⟨gap, arg, hcs, hgap, hblanks, hblank, harg, rfl⟩ :=
        elseArgument?_eq_some_iff.1 helse
      exact hcs ▸ .elseCond hgap hblanks hblank harg
  · -- A text with an argument is none of the keywords that stand alone.
    intro h
    generalize htext : text.toList = cs at h
    cases h with
    | clause kind =>
      obtain rfl := String.toList_inj.1 htext
      cases kind <;> rfl
    | otherwise =>
      obtain rfl := String.toList_inj.1 htext
      rfl
    | close =>
      obtain rfl := String.toList_inj.1 htext
      rfl
    | loop hblank harg =>
      rw [read?_of_ne_keyword (by simp [htext]) (by simp [htext]) (by simp [htext])
        (by simp [htext]), withArgument?_eq_some_iff]
      exact .inl ⟨_, argument?_eq_some_iff.2 ⟨_, htext, hblank, harg, rfl⟩, rfl⟩
    | cond hblank harg =>
      rw [read?_of_ne_keyword (by simp [htext]) (by simp [htext]) (by simp [htext])
        (by simp [htext]), withArgument?_eq_some_iff]
      exact .inr (.inl ⟨_, argument?_eq_some_iff.2 ⟨_, htext, hblank, harg, rfl⟩, rfl⟩)
    | elseCond hgap hblanks hblank harg =>
      rw [read?_of_ne_keyword (by simp [htext]) (by simp [htext]) (by simp [htext, hgap])
        (by simp [htext]), withArgument?_eq_some_iff]
      exact .inr (.inr ⟨_, elseArgument?_eq_some_iff.2
        ⟨_, _, htext, hgap, hblanks, hblank, harg, rfl⟩, rfl⟩)

end Directive

end QueryTemplate
