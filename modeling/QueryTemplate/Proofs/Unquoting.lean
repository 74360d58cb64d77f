import QueryTemplate.DocComment
import QueryTemplate.Proofs.Finishing
import QueryTemplate.Proofs.Joining

/-!
# Quoted fragments in comments

A comment may hold a fragment in quotes, after `where` or `select` and between parentheses. The
fragment is found in it without telling which quotes are those around it: all quotes at its ends are
taken off, then the blanks at the ends of what is left. So a fragment with a quote of its own at an
end loses it. It is kept as it is exactly if there is none.

* `DocSql.quoted`: a comment with a fragment;
* `DocSql.Unquoted`: what is left of a text without quotes at its ends;
* `DocSql.ofComment_quoted`: what is found in a comment with a fragment.
-/

namespace QueryTemplate

namespace DocSql

open Text

variable {cs inner core : List Char} {c : Char}

/-- The comment with a fragment for a chain. -/
def quoted (word text : String) : String :=
  word ++ "(\"" ++ text ++ "\")"

/-- What is left of a text when all quotes are taken off its ends, and then all blanks. -/
inductive Unquoted : List Char → List Char → Prop
  | mk {gap gap' inner : List Char} (before after : Nat) : Gap gap → Gap gap' → Bare inner →
      (gap ++ inner ++ gap').head? ≠ some '"' → (gap ++ inner ++ gap').getLast? ≠ some '"' →
      Unquoted (List.replicate before '"' ++ (gap ++ inner ++ gap') ++ List.replicate after '"')
        inner

/-! ## Quotes at the ends of a text -/

theorem dropEnd_dropWhile_quotes (before after : Nat) (hhead : core.head? ≠ some '"')
    (hlast : core.getLast? ≠ some '"') :
    dropEnd '"' ((List.replicate before '"' ++ core ++ List.replicate after '"').dropWhile
      (· == '"')) = core := by
  rw [List.append_assoc, dropWhile_replicate_append]
  cases core with
  | nil =>
    have hnone := dropWhile_replicate_append (c := '"') after []
    rw [List.append_nil] at hnone
    rw [List.nil_append, hnone]
    rfl
  | cons c core =>
    have hstart : (c :: core ++ List.replicate after '"').head? ≠ some '"' := hhead
    rw [dropWhile_of_head?_ne hstart, dropEnd_append_replicate, dropEnd_of_getLast?_ne hlast]

/-- A text in quotes is read as what is left of it. -/
theorem Unquoted.trimmed_eq (h : Unquoted cs inner) :
    trimmed (dropEnd '"' (('"' :: (cs ++ ['"'])).dropWhile (· == '"'))) = inner := by
  cases h with
  | @mk gap gap' _ before after hgap hgap' hbare hhead hlast =>
    -- The quotes around the text make the ones at its ends one more each.
    have htext : '"' :: (List.replicate before '"' ++ (gap ++ inner ++ gap') ++
        List.replicate after '"' ++ ['"']) = List.replicate (before + 1) '"' ++
          (gap ++ inner ++ gap') ++ List.replicate (after + 1) '"' := by
      rw [List.replicate_succ, List.replicate_succ']
      simp only [List.cons_append, List.append_assoc]
    rw [htext, dropEnd_dropWhile_quotes _ _ hhead hlast]
    exact trimmed_append hbare hgap hgap'

theorem exists_unquoted (cs : List Char) : ∃ inner, Unquoted cs inner := by
  obtain ⟨before, rest, rfl, hhead⟩ := exists_replicate_append '"' cs
  obtain ⟨after, core, hrest, hlast⟩ := exists_replicate_append '"' rest.reverse
  obtain ⟨gap, gap', hgap, hgap', hcore⟩ := exists_gaps core.reverse
  have heq : rest = core.reverse ++ List.replicate after '"' := by
    rw [← List.reverse_reverse rest, hrest, List.reverse_append, List.reverse_replicate]
  have hhead' : core.reverse.head? ≠ some '"' := by
    intro hquote
    rw [heq, List.head?_append, hquote] at hhead
    exact hhead rfl
  rw [← List.getLast?_reverse] at hlast
  rw [hcore] at hhead' hlast
  have hunquoted := Unquoted.mk before after hgap hgap' (bare_trimmed core.reverse) hhead' hlast
  rw [← hcore, List.append_assoc, ← heq] at hunquoted
  exact ⟨_, hunquoted⟩

/-- A text is left as it is exactly if there is no quote at its ends. -/
theorem Unquoted.eq_iff (h : Unquoted cs inner) (hcs : Bare cs) :
    inner = cs ↔ cs.head? ≠ some '"' ∧ cs.getLast? ≠ some '"' := by
  cases h with
  | @mk gap gap' _ before after hgap hgap' hbare hhead hlast =>
    constructor
    · intro heq
      have hlength := congrArg List.length heq
      simp only [List.length_append, List.length_replicate] at hlength
      obtain rfl : before = 0 := by omega
      obtain rfl : after = 0 := by omega
      simpa using And.intro hhead hlast
    · rintro ⟨hstart, hend⟩
      obtain rfl : before = 0 := by
        cases before with
        | zero => rfl
        | succ before => exact absurd rfl hstart
      obtain rfl : after = 0 := by
        cases after with
        | zero => rfl
        | succ after =>
          rw [List.replicate_succ', ← List.append_assoc, List.getLast?_concat] at hend
          exact absurd rfl hend
      simp only [List.replicate_zero, List.nil_append, List.append_nil] at hcs ⊢
      obtain rfl := hgap'.eq_nil_of_end hcs.2
      rw [List.append_assoc] at hcs
      obtain rfl := hgap.eq_nil_of_start hcs.1
      simp

/-! ## Comments with a fragment -/

variable {word text method : String}

theorem toList_quoted (word text : String) :
    (quoted word text).toList =
      word.toList ++ "(".toList ++ '"' :: (text.toList ++ ['"', ')']) := by
  simp [quoted]

theorem bare_quoted (hword : word ∈ ["where", "select"]) (text : String) :
    Bare (quoted word text).toList := by
  constructor
  · rcases List.mem_pair.1 hword with rfl | rfl
    · rw [toList_quoted]
      rfl
    · rw [toList_quoted]
      rfl
  · have hend : (quoted word text).toList = (word ++ "(\"" ++ text ++ "\"").toList ++ [')'] := by
      simp [quoted]
    rw [hend, List.getLast?_concat]
    rfl

theorem paragraph_quoted (hword : word ∈ ["where", "select"])
    (hlines : ¬ ['\n', '\n'] <:+: text.toList) (method : List Char) :
    paragraph (quoted word text).toList method = (quoted word text).toList := by
  have hnone : splitOnce ['\n', '\n'] (quoted word text).toList = .none := by
    refine (splitOnce_eq_none_iff (by decide)).2 fun hinfix => ?_
    rw [toList_quoted] at hinfix
    rcases infix_or_of_not_mem (by decide) hinfix with hfront | hrest
    · have hmem : '\n' ∈ word.toList ++ "(".toList := hfront.subset (by decide)
      rcases List.mem_pair.1 hword with rfl | rfl <;> exact absurd hmem (by decide)
    · rcases infix_or_of_not_mem (by decide) hrest with htext | hend
      · exact hlines htext
      · exact absurd (hend.subset List.mem_cons_self) (by decide)
  rw [paragraph, hnone]

theorem fragment?_quoted {opening : String} (hopening : opening.toList = word.toList ++ "(".toList)
    (h : Unquoted text.toList inner) :
    fragment? opening (quoted word text).toList = some (.ofList inner) := by
  have hstart : stripStart opening.toList (quoted word text).toList =
      some ('"' :: (text.toList ++ ['"', ')'])) :=
    stripStart_eq_some_iff.2 (by rw [toList_quoted, hopening])
  have hend : stripEnd [')'] ('"' :: (text.toList ++ ['"', ')'])) =
      some ('"' :: (text.toList ++ ['"'])) :=
    stripEnd_eq_some_iff.2 (by simp)
  rw [fragment?, hstart]
  simp only [Option.bind_eq_bind, Option.bind_some, hend, h.trimmed_eq, Option.pure_def]

/-- The SQL of a comment with a fragment is the whole comment, so that it is what is found in it
    after `where`, or else after `select`. -/
theorem ofComment_of_fragment? {inner : String} (hword : word ∈ ["where", "select"])
    (hlines : ¬ ['\n', '\n'] <:+: text.toList)
    (hmethod : ¬ method.toList <+: (quoted word text).toList) :
    (fragment? "where(" (quoted word text).toList = some inner →
      ofComment (quoted word text) method = filter inner) ∧
    (fragment? "where(" (quoted word text).toList = .none →
      fragment? "select(" (quoted word text).toList = some inner →
      ofComment (quoted word text) method = select inner) := by
  have hbare := bare_quoted hword text
  rw [ofComment, hbare.trimmed, paragraph_quoted hword hlines, stripStart_eq_none_iff.2 hmethod,
    Option.getD_none, hbare.trimmed]
  constructor
  · intro hwhere
    rw [hwhere]
  · intro hwhere hselect
    rw [hwhere, hselect]

/-- What is found in a comment with a fragment in quotes is the fragment without the quotes and
    blanks at its ends. It is the fragment itself exactly if that has no quote at an end. -/
theorem ofComment_quoted {text : String} (hbare : Bare text.toList)
    (hlines : ¬ ['\n', '\n'] <:+: text.toList) :
    ∃ inner : String, Unquoted text.toList inner.toList ∧
      (inner = text ↔ text.toList.head? ≠ some '"' ∧ text.toList.getLast? ≠ some '"') ∧
      ∀ method : String,
        (¬ method.toList <+: (quoted "where" text).toList →
          ofComment (quoted "where" text) method = .filter inner) ∧
        (¬ method.toList <+: (quoted "select" text).toList →
          ofComment (quoted "select" text) method = .select inner) := by
  obtain ⟨inner, hunquoted⟩ := exists_unquoted text.toList
  refine ⟨.ofList inner, by rwa [String.toList_ofList], ?_,
    fun method => ⟨fun h => ?_, fun h => ?_⟩⟩
  · rw [← hunquoted.eq_iff hbare, ← String.toList_inj, String.toList_ofList]
  · exact (ofComment_of_fragment? (by simp) hlines h).1 (fragment?_quoted rfl hunquoted)
  · have hwhere : fragment? "where(" (quoted "select" text).toList = .none := by
      rw [toList_quoted]
      rfl
    exact (ofComment_of_fragment? (by simp) hlines h).2 hwhere (fragment?_quoted rfl hunquoted)

/-- Quotes and parentheses within a fragment are kept, and those at its start and end as well unless
    they are quotes. -/
theorem ofComment_quoted_inner :
    let text := "(name = \"a\" OR f(\"b\"))"
    ofComment (quoted "where" text) "Find" = .filter text ∧
      ofComment (quoted "select" text) "Find" = .select text := by
  intro text
  have htext : text.toList = _ := String.toList_ofList
  have hbare : Bare text.toList := by
    rw [htext]
    exact ⟨rfl, rfl⟩
  have hlines : ¬ ['\n', '\n'] <:+: text.toList := by
    rw [htext, ← splitOnce_eq_none_iff (by decide)]
    rfl
  obtain ⟨inner, -, hiff, hfound⟩ := ofComment_quoted hbare hlines
  obtain rfl : inner = text := by
    rw [hiff, htext]
    decide
  refine ⟨(hfound "Find").1 ?_, (hfound "Find").2 ?_⟩
  · rw [← stripStart_eq_none_iff, toList_quoted]
    rfl
  · rw [← stripStart_eq_none_iff, toList_quoted]
    rfl

/-- A fragment that ends in a quoted word loses the quote. -/
theorem ofComment_quoted_word :
    let text := "name=\"x\""
    let comment := quoted "where" text
    text ≠ "" ∧ Bare text.toList ∧ ¬ ['\n', '\n'] <:+: text.toList ∧
      ¬ "FilterByName".toList <+: comment.toList ∧
      ofComment comment "FilterByName" = .filter "name=\"x" ∧
      ofComment comment "FilterByName" ≠ .filter text := by
  intro text comment
  have htext : text.toList = _ := String.toList_ofList
  have hcomment : ofComment comment "FilterByName" = .filter "name=\"x" := by decide +kernel
  refine ⟨by simp [text], ?_, ?_, ?_, hcomment, ?_⟩
  · rw [htext]
    exact ⟨rfl, rfl⟩
  · rw [htext, ← splitOnce_eq_none_iff (by decide)]
    rfl
  · rw [← stripStart_eq_none_iff, toList_quoted]
    rfl
  · rw [hcomment]
    simp [text]

end DocSql

end QueryTemplate
