import QueryTemplate.Proofs.Finishing
import QueryTemplate.Proofs.GoRun

/-!
# Clauses appended by Go statements

The Go statements that close a clause append it as `Query.addClause` does, up to two differences.
Their regular expression knows fewer blanks, so that a connective next to another blank stays. And
they look at the last byte of the query before, not at its last character: a character of several
bytes may end in one that is a blank on its own, and a blank of several bytes may not.

* `Text.getLast?_bytes`: the last byte of a text comes from its last character;
* `GoCode.cleaned_conditions`: if all blanks in conditions are known, the text is the finished one;
* `GoCode.spliced_eq_iff`: what can be told from a query after a clause has been appended;
* `GoCode.closing_eq_addClause_iff`: the statements run to their end, and when they append a clause
  as `Query.addClause` does.
-/

namespace QueryTemplate

namespace Text

/-! ## Last bytes -/

/-- The last byte of a character. -/
def lastByte (c : Char) : UInt8 :=
  if c.toNat ≤ 0x7F then .ofNat c.toNat else .ofNat (c.toNat % 64 + 0x80)

theorem getLast?_utf8EncodeChar (c : Char) :
    (String.utf8EncodeChar c).getLast? = some (lastByte c) := by
  by_cases h : c.toNat ≤ 0x7F
  · rw [lastByte, if_pos h, String.utf8EncodeChar]
    exact congrArg List.getLast? (if_pos h)
  · rw [lastByte, if_neg h, String.utf8EncodeChar]
    refine (congrArg List.getLast? (if_neg h)).trans ?_
    split
    · rfl
    · split
      · rfl
      · rfl

theorem bytes_eq (s : String) : bytes s = s.toList.flatMap String.utf8EncodeChar := by
  rw [bytes, ← String.utf8Encode_toList, List.utf8Encode, List.toList_data_toByteArray]

theorem getLast?_bytes (s : String) : (bytes s).getLast? = s.toList.getLast?.map lastByte := by
  rw [bytes_eq]
  rcases List.eq_nil_or_concat s.toList with hnil | ⟨front, c, hs⟩
  · rw [hnil]
    rfl
  · rw [hs, List.concat_eq_append, List.flatMap_append, List.flatMap_singleton,
      List.getLast?_append, getLast?_utf8EncodeChar, List.getLast?_concat]
    rfl

/-- Of the bytes that do not stand alone, two are blanks. -/
theorem isBlank_lastByte (c : Char) : isBlank (.ofNat (lastByte c).toNat) =
    if c.toNat ≤ 0x7F then isBlank c else c.toNat % 64 = 5 ∨ c.toNat % 64 = 32 := by
  rw [lastByte]
  by_cases h : c.toNat ≤ 0x7F
  · have hbyte : (UInt8.ofNat c.toNat).toNat = c.toNat := by
      rw [UInt8.toNat_ofNat']
      omega
    rw [if_pos h, if_pos h, hbyte, Char.ofNat_toNat]
  · have hbyte : (UInt8.ofNat (c.toNat % 64 + 0x80)).toNat = c.toNat % 64 + 0x80 := by
      rw [UInt8.toNat_ofNat']
      omega
    have hchar : (Char.ofNat (c.toNat % 64 + 0x80)).toNat = c.toNat % 64 + 0x80 := by
      have hvalid : (c.toNat % 64 + 0x80).isValidChar := .inl (by omega)
      rw [Char.ofNat, dif_pos hvalid]
      rfl
    rw [if_neg h, if_neg h, hbyte, isBlank, hchar, Bool.eq_iff_iff]
    simp only [Bool.or_eq_true, Bool.and_eq_true, beq_iff_eq, decide_eq_true_eq]
    omega

end Text

open Text

namespace GoCode

theorem cleaned_assignments (body : String) :
    cleaned .assignments (trim body) = (ClauseKind.assignments.finish body).getD "" := by
  rw [ClauseKind.getD_finish, cleaned, trim, trim, String.toList_ofList, String.toList_ofList,
    ClauseKind.clean, dropTrailingComma]
  have hbare := bare_trimmed body.toList
  cases hstrip : stripEnd [','] (trimmed body.toList) with
  | none => rw [Option.getD_none, hbare.trimmed]
  | some before =>
    have hstart : startsBlank before = false :=
      startsBlank_eq_false_of_start ⟨[','], (stripEnd_eq_some_iff.1 hstrip).symm⟩ hbare.1
    rw [Option.getD_some, trimmed, dropBlanks_of_not_startsBlank hstart]

theorem cleaned_conditions {body : String}
    (h : ∀ c ∈ trimmed body.toList, isBlank c → Regex.isNarrowBlank c) :
    cleaned .conditions (trim body) = (ClauseKind.conditions.finish body).getD "" := by
  have hbare := bare_trimmed body.toList
  have hagree (c : Char) (hc : c ∈ trimmed body.toList) : Regex.isNarrowBlank c = isBlank c :=
    Bool.eq_iff_iff.2 ⟨Regex.isBlank_of_isNarrowBlank, h c hc⟩
  have hremoved : Regex.connective.removeAll Regex.isNarrowBlank (trimmed body.toList) =
      ClauseKind.conditions.clean (trimmed body.toList) := by
    rw [Regex.removeAll_congr hagree, Regex.removeAll_connective hbare]
    rfl
  rw [ClauseKind.getD_finish, cleaned, trim, trim, String.toList_ofList, String.toList_ofList,
    hremoved, (ClauseKind.conditions.bare_clean hbare).trimmed]

variable {α : Type}

/-! ## Appended clauses -/

/-- What comes between a query and a clause: nothing if the last character is a blank. -/
theorem addClause_eq_spliced (query clause : Query α) (kind : ClauseKind) :
    query.addClause kind clause =
      spliced kind (if query.sql.toList.getLast?.all isBlank then "" else " ")
        ((kind.finish clause.sql).getD "") clause.params query := by
  have hgap : (query.sql.isEmpty || endsBlank query.sql) =
      query.sql.toList.getLast?.all isBlank := by
    rw [endsBlank]
    cases hlast : query.sql.toList.getLast? with
    | none =>
      rw [List.getLast?_eq_none_iff, String.toList_eq_nil_iff] at hlast
      rw [hlast]
      rfl
    | some c =>
      have hne : query.sql ≠ "" := by
        intro hempty
        rw [hempty] at hlast
        cases hlast
      simp [hne]
  have hfinish := kind.finish_ne_some_empty clause.sql
  rw [Query.addClause, Query.addClause?, spliced, hgap]
  cases htext : kind.finish clause.sql with
  | none => rfl
  | some text =>
    have hne : text ≠ "" := by
      rintro rfl
      exact hfinish htext
    rw [Option.map_some, Option.getD_some, Option.getD_some, if_neg hne]

theorem gap_eq (sql : String) : gap sql =
    if sql.toList.getLast?.all fun c => isBlank (.ofNat (lastByte c).toNat) then "" else " " := by
  rw [gap, getLast?_bytes, Option.all_map]

/-- Text after a blank can be told from text after none, since a clause begins with its word. -/
theorem append_head_inj {kind : ClauseKind} {tight tight' : Bool} {before text text' : String} :
    before ++ (if tight then "" else " ") ++ kind.head ++ text =
        before ++ (if tight' then "" else " ") ++ kind.head ++ text' ↔
      text = text' ∧ tight = tight' := by
  cases kind <;> cases tight <;> cases tight' <;> simp [ClauseKind.head, ← String.toList_inj]

theorem append_head_ne {kind : ClauseKind} {before gap text : String} :
    before ++ gap ++ kind.head ++ text ≠ before := by
  intro h
  have hlength := congrArg String.length h
  have hhead : 0 < kind.head.length := by cases kind <;> decide
  simp only [String.length_append] at hlength
  omega

theorem spliced_eq_iff {kind : ClauseKind} {tight tight' : Bool} {text text' : String}
    {params : List α} {query : Query α} :
    spliced kind (if tight then "" else " ") text params query =
        spliced kind (if tight' then "" else " ") text' params query ↔
      text = text' ∧ (text = "" ∨ tight = tight') := by
  rw [spliced, spliced]
  by_cases htext : text = "" <;> by_cases htext' : text' = ""
  · simp [htext, htext']
  · rw [if_pos htext, if_neg htext', htext]
    exact ⟨fun h => absurd (congrArg Query.sql h).symm append_head_ne,
      fun h => absurd h.1.symm htext'⟩
  · rw [if_neg htext, if_pos htext', htext']
    exact ⟨fun h => absurd (congrArg Query.sql h) append_head_ne, fun h => absurd h.1 htext⟩
  · rw [if_neg htext, if_neg htext', Query.mk.injEq, append_head_inj]
    simp [htext]

/-- The last byte of a query is a blank exactly if its last character is. -/
theorem all_lastByte_eq_iff (sql : String) :
    (sql.toList.getLast?.all fun c => isBlank (.ofNat (lastByte c).toNat)) =
        sql.toList.getLast?.all isBlank ↔
      ∀ c ∈ sql.toList.getLast?, 0x80 ≤ c.toNat →
        (isBlank c ↔ c.toNat % 64 = 5 ∨ c.toNat % 64 = 32) := by
  cases sql.toList.getLast? with
  | none => simp
  | some c =>
    rw [Option.all_some, Option.all_some, isBlank_lastByte]
    by_cases h : c.toNat ≤ 0x7F
    · simp [h, show ¬ 0x80 ≤ c.toNat by omega]
    · rw [if_neg h, Bool.eq_iff_iff, decide_eq_true_iff]
      constructor
      · intro heq d hd _
        rw [← Option.some.inj hd]
        exact heq.symm
      · intro hlast
        exact (hlast c rfl (by omega)).symm

/-- The statements that close a clause read as they are printed. They run to their end, and after
    the block of the clause the variables around it are as before, except that those that collect
    hold the query with the clause. This is the query that `Query.addClause` makes exactly if the
    text of the clause is the finished one and, unless there is none, the last character of the
    query before is a blank just if its last byte is one. The text is the finished one for
    assignments, and for conditions in which all blanks are among those of regular expressions. -/
theorem closing_eq_addClause_iff (kind : ClauseKind) (scratch outer : Sink)
    (hnames : Distinct scratch outer) (env : Env α) (clause query : Query α)
    (hquery : env.Holds outer query) :
    let text := cleaned kind (trim clause.sql)
    let result := spliced kind (gap query.sql) text clause.params query
    linesOf (closing kind scratch outer) ++ [.closing] =
        GoSource.endClauseLines kind scratch outer ∧
      (runAll (env.declare scratch clause) (closing kind scratch outer)).map env.leave =
        some (env.collect outer result) ∧
      (result = query.addClause kind clause ↔
        text = (kind.finish clause.sql).getD "" ∧
          (text = "" ∨ ∀ c ∈ query.sql.toList.getLast?, 0x80 ≤ c.toNat →
            (isBlank c ↔ c.toNat % 64 = 5 ∨ c.toNat % 64 = 32))) ∧
      ((kind = .conditions →
          ∀ c ∈ trimmed clause.sql.toList, isBlank c → Regex.isNarrowBlank c) →
        text = (kind.finish clause.sql).getD "") := by
  intro text result
  refine ⟨lines_closing kind scratch outer, runAll_closing hnames hquery, ?_, ?_⟩
  · have hresult : result = spliced kind (gap query.sql) text clause.params query := rfl
    rw [hresult, addClause_eq_spliced, gap_eq, spliced_eq_iff, all_lastByte_eq_iff]
  · intro h
    cases kind with
    | conditions => exact cleaned_conditions (h rfl)
    | assignments => exact cleaned_assignments clause.sql

/-- Conditions with a tab, after a character of two bytes. -/
theorem closing_eq_addClause_iff_tab :
    let tmp : Sink := ⟨"tmp", "tmpParams"⟩
    let sb : Sink := ⟨"sb", "params"⟩
    let env : Env Nat := [("params", .slice [7]), ("sb", .builder "SELECT ? é")]
    let clause : Query Nat := ⟨" and a = ?\tOR\n", [8]⟩
    let query : Query Nat := ⟨"SELECT ? é", [7]⟩
    Distinct tmp sb ∧ env.Holds sb query ∧
      (runAll (env.declare tmp clause) (closing .conditions tmp sb)).map env.leave =
        some (env.collect sb (query.addClause .conditions clause)) := by
  intro tmp sb env clause query
  have hnames : Distinct tmp sb := by decide +kernel
  have hholds : env.Holds sb query := ⟨by decide +kernel, by decide +kernel⟩
  obtain ⟨-, hrun, hsame, htext⟩ :=
    closing_eq_addClause_iff .conditions tmp sb hnames env clause query hholds
  have hblanks (c : Char) (hc : c ∈ trimmed clause.sql.toList) (hblank : isBlank c) :
      Regex.isNarrowBlank c := by
    have hall : (trimmed clause.sql.toList).all fun c => !isBlank c || Regex.isNarrowBlank c := by
      decide +kernel
    simpa [hblank] using List.all_eq_true.1 hall c hc
  have hlast : ∀ c ∈ query.sql.toList.getLast?, 0x80 ≤ c.toNat →
      (isBlank c ↔ c.toNat % 64 = 5 ∨ c.toNat % 64 = 32) := by
    have hchar : query.sql.toList.getLast? = some 'é' := by decide +kernel
    rw [hchar]
    rintro _ ⟨rfl⟩ _
    decide
  have hquery := hsame.2 ⟨htext fun _ => hblanks, .inr hlast⟩
  rw [hquery] at hrun
  exact ⟨hnames, hholds, hrun⟩

/-- A connective stays after a blank that regular expressions do not know, and there is no blank
    after a character whose last byte is one. -/
theorem closing_ne_addClause :
    let tmp : Sink := ⟨"tmp", "tmpParams"⟩
    let sb : Sink := ⟨"sb", "params"⟩
    let env (sql : String) : Env Nat := [("params", .slice []), ("sb", .builder sql)]
    let run (sql body : String) : Option (Env Nat) :=
      (runAll ((env sql).declare tmp ⟨body, [1]⟩) (closing .conditions tmp sb)).map (env sql).leave
    (run "SELECT 1" "a=?\u00a0AND" =
        some ((env "SELECT 1").collect sb ⟨"SELECT 1 WHERE a=?\u00a0AND", [1]⟩) ∧
      ((⟨"SELECT 1", []⟩ : Query Nat).addClause .conditions ⟨"a=?\u00a0AND", [1]⟩).sql =
        "SELECT 1 WHERE a=?") ∧
    run "SELECT à" "a=?" = some ((env "SELECT à").collect sb ⟨"SELECT àWHERE a=?", [1]⟩) ∧
      ((⟨"SELECT à", []⟩ : Query Nat).addClause .conditions ⟨"a=?", [1]⟩).sql =
        "SELECT à WHERE a=?" := by
  decide +kernel

end GoCode

end QueryTemplate
