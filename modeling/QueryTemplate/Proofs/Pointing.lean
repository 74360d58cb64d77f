import Mathlib.Data.List.DropRight
import QueryTemplate.Proofs.Finishing
import QueryTemplate.Proofs.Parsing
import QueryTemplate.Proofs.Tiling
import QueryTemplate.Template

/-!
# Reports that point

The fault of a template is at the opening braces of a directive, and the caret of its report is
under the first of these braces. The place of the fault is given in bytes of the line of the source,
and the caret counts the characters of the line that is shown. In between, tabs become blanks, the
blanks at the ends are left out, and so is what is far from the caret in a long line.

All of this is done on either side of the braces: they are not blank, so that what is left out at
an end of the line is before or after them, and the caret is at the length of what is left of the
characters before them.

* `Token.OpensAt`: opening braces at a place of a source, and `opensAt_of_fault`: the place of a
  fault has them;
* `Report.shownLeft`, `Report.shownRight`: what is shown on either side of opening braces, and
  `Report.snippet_of_opening`: the lines of a report that show them;
* `Report.PointsAt`: the caret of a report is under some characters of the line that is shown;
* `report_pointsAt`: the report of a fault points at the opening braces at its place.
-/

namespace QueryTemplate

open Text

/-! ## Opening braces at a place -/

namespace Token

variable {line n : Nat} {before cs front rest covered after : List Char} {source : String}
  {token : Token} {tokens : List Token}

/-- The line with the given number has opening braces at the column, in bytes, that are outside of
    its other directives. They come after `before` and before `after`. -/
structure OpensAt (source : String) (line column : Nat) (before after : List Char) : Prop where
  /-- Lines are counted from one. -/
  pos : 0 < line
  /-- The line is the characters before the braces, the braces and the characters after them. -/
  line : (splitChar '\n' source.toList)[line - 1]? = some (before ++ (opening ++ after))
  /-- Columns are counted from one, too. -/
  column : column = (String.ofList before).utf8ByteSize + 1
  /-- A directive begins with the braces. -/
  finds : Finds (before ++ (opening ++ after)) before after

theorem Finds.eq_append (h : Finds cs before rest) : cs = before ++ (opening ++ rest) := by
  induction h with
  | here h => exact h
  | char _ _ ih => rw [ih, List.cons_append]
  | directive h _ _ ih => rw [h, ih]; simp

theorem Finds.length_pos (h : Finds cs before rest) : 0 < cs.length := by
  rw [h.eq_append, List.length_append]
  exact Nat.add_pos_right _ (Nat.succ_pos _)

/-- What comes after a line does not change what is found in it. -/
theorem Finds.append (h : Finds cs before rest) (more : List Char) :
    Finds (cs ++ more) before (rest ++ more) := by
  induction h with
  | here h => exact .here (by rw [h, List.append_assoc])
  | @char c cs before rest hc h ih =>
    refine .char (fun hstarts => hc ?_) ih
    -- Something is found after the character, so the line has the next one, too.
    exact List.prefix_of_prefix_length_le hstarts (List.prefix_append (c :: cs) more)
      (Nat.succ_le_succ h.length_pos)
  | directive h hinside _ ih => exact .directive (by rw [h]; simp) hinside ih

/-- Nothing is found in a literal. -/
theorem Finds.literal (h : Finds after before rest)
    (hcovered : ¬ opening <:+: covered ++ after.take 1) :
    Finds (covered ++ after) (covered ++ before) rest := by
  induction covered with
  | nil => exact h
  | cons c covered ih =>
    refine .char (fun hstarts => hcovered (List.IsPrefix.isInfix ?_)) (ih fun hoccurs =>
      hcovered (hoccurs.trans (List.suffix_cons _ _).isInfix))
    refine List.prefix_of_prefix_length_le hstarts ?_ ?_
    · exact List.cons_prefix_cons.2 ⟨rfl, List.prefix_append_right_inj _ |>.2 (List.take_prefix ..)⟩
    · have hafter := h.length_pos
      simp only [opening, List.length_cons, List.length_nil, List.length_append, List.length_take]
      omega

/-- The directives of a line begin with opening braces that are found in it. -/
theorem Tiles.finds (h : Tiles line before cs tokens) (htoken : token ∈ tokens)
    (hkind : token.kind = .directive) : ∃ front rest, Finds cs front rest ∧ token.line = line ∧
      token.column = (String.ofList (before ++ front)).utf8ByteSize + 1 := by
  induction h with
  | nil => cases htoken
  | @cons before covered after first tokens hline hcolumn hcovers _ ih =>
    rcases List.mem_cons.1 htoken with rfl | htoken
    · cases hcovers with
      | literal hliteral => cases hkind.symm.trans hliteral
      | directive => exact ⟨[], _, .here (List.append_assoc ..), hline, by rwa [List.append_nil]⟩
    · obtain ⟨front, rest, hfinds, hplace⟩ := ih htoken
      rw [List.append_assoc] at hplace
      cases hcovers with
      | literal _ _ hcovered => exact ⟨_, rest, hfinds.literal hcovered, hplace⟩
      | directive _ _ hinside =>
        exact ⟨_, rest, .directive (by simp) hinside hfinds, by simpa using hplace⟩

/-- Braces found in a line without its carriage return are in the line. -/
theorem opensAt_of_finds (hline : (cs, n) ∈ (splitChar '\n' source.toList).zipIdx 1)
    (h : Finds (dropReturn cs) before rest) :
    ∃ after, OpensAt source n ((String.ofList before).utf8ByteSize + 1) before after := by
  obtain ⟨hpos, hline⟩ := List.mk_mem_zipIdx_iff_le_and_getElem?_sub.1 hline
  obtain ⟨after, hfinds⟩ : ∃ after, Finds cs before after := by
    obtain hcs | ⟨hcs, -⟩ := eq_dropReturn cs
    · rw [hcs]
      exact ⟨_, h.append ['\r']⟩
    · rw [hcs]
      exact ⟨rest, h⟩
  obtain rfl := hfinds.eq_append
  exact ⟨after, hpos, hline, rfl, hfinds⟩

theorem exists_row_of_mem {lines : List (List Char × Nat)} {rows : List (List Token)}
    (h : List.Forall₂ RowOf lines rows) (htoken : token ∈ rows.flatten) :
    ∃ numbered ∈ lines, ∃ row, RowOf numbered row ∧ token ∈ row := by
  induction h with
  | nil => cases htoken
  | cons hrow _ ih =>
    rw [List.flatten_cons, List.mem_append] at htoken
    rcases htoken with htoken | htoken
    · exact ⟨_, List.mem_cons_self, _, hrow, htoken⟩
    · obtain ⟨numbered, hnumbered, hrow⟩ := ih htoken
      exact ⟨numbered, List.mem_cons_of_mem _ hnumbered, hrow⟩

/-- The directives of a template have opening braces at their places. -/
theorem opensAt_of_directive (h : ofTemplate source = .ok tokens)
    (htoken : token ∈ directives tokens) :
    ∃ before after, OpensAt source token.line token.column before after := by
  obtain ⟨htoken, hkind⟩ := List.mem_filter.1 htoken
  obtain ⟨rows, hrows, rfl⟩ := ofLines_eq_ok_iff.1 h
  obtain ⟨⟨cs, n⟩, hline, row, hrow, htoken⟩ := exists_row_of_mem hrows htoken
  obtain ⟨before, rest, hfinds, hn, hcolumn⟩ := hrow.tiles.finds htoken (of_decide_eq_true hkind)
  rw [hn, hcolumn]
  exact ⟨before, opensAt_of_finds hline hfinds⟩

/-- A fault has opening braces at its place: those that are not closed, or those of the directive
    that is blamed, or of the directive whose block is left open. -/
theorem opensAt_of_fault {e : SyntaxError} (h : Node.ofTemplate source = .error e) :
    ∃ before after, OpensAt source e.line e.column before after := by
  cases htokens : ofTemplate source with
  | error e' =>
    obtain rfl := Except.error.inj (h.symm.trans (ofTemplate_of_error htokens))
    obtain ⟨front, cs, n, back, before, rest, hlines, -, hunclosed, rfl⟩ :=
      ofLines_eq_error_iff.1 htokens
    have hline : (cs, n) ∈ (splitChar '\n' source.toList).zipIdx 1 := by simp [hlines]
    exact ⟨before, opensAt_of_finds hline hunclosed.1⟩
  | ok tokens =>
    by_cases hviable : Viable (directives tokens)
    · by_cases hword : Word .body (directives tokens)
      · obtain ⟨phrases, -, hok⟩ := ofTemplate_of_word htokens hword
        cases h.symm.trans hok
      · obtain ⟨openers, opener, hopens, herror⟩ :=
          ofTemplate_of_viable htokens hviable hword
        obtain rfl := Except.error.inj (h.symm.trans herror)
        obtain ⟨before, after, hdirectives, -⟩ := hopens.outermost
        exact opensAt_of_directive htokens (by simp [hdirectives])
    · obtain ⟨before, token, after, cause, hdirectives, -, -, -, -, herror⟩ :=
        ofTemplate_of_not_viable htokens hviable
      obtain rfl := Except.error.inj (h.symm.trans herror)
      exact opensAt_of_directive htokens (by simp [hdirectives])

end Token

/-! ## Ends that are left out -/

namespace Text

theorem dropWhile_append_cons {p : Char → Bool} {c : Char} (h : p c = false)
    (front back : List Char) :
    (front ++ c :: back).dropWhile p = front.dropWhile p ++ c :: back := by
  rw [List.dropWhile_append]
  split
  · next hempty =>
    rw [List.isEmpty_iff.1 hempty, List.nil_append, List.dropWhile_cons_of_neg (by simp [h])]
  · rfl

theorem rdropWhile_append_cons {p : Char → Bool} {c : Char} (h : p c = false)
    (front back : List Char) :
    (front ++ c :: back).rdropWhile p = front ++ c :: back.rdropWhile p := by
  have hreverse : (front ++ c :: back).reverse = back.reverse ++ c :: front.reverse := by simp
  rw [List.rdropWhile, hreverse, dropWhile_append_cons h]
  simp [List.rdropWhile]

theorem dropBlanks_opening (front back : List Char) :
    dropBlanks (front ++ (Token.opening ++ back)) = dropBlanks front ++ (Token.opening ++ back) :=
  dropWhile_append_cons (by decide) front _

theorem rdropWhile_opening {p : Char → Bool} (h : p '\x7b' = false) (front back : List Char) :
    (front ++ (Token.opening ++ back)).rdropWhile p =
      front ++ (Token.opening ++ back.rdropWhile p) := by
  have hend := rdropWhile_append_cons h (front ++ ['\x7b']) back
  simpa [Token.opening] using hend

theorem dropBlanksEnd_opening (front back : List Char) :
    dropBlanksEnd (front ++ (Token.opening ++ back)) =
      front ++ (Token.opening ++ dropBlanksEnd back) :=
  rdropWhile_opening (by decide) front back

theorem dropEnd_opening (front back : List Char) :
    dropEnd '\r' (front ++ (Token.opening ++ back)) =
      front ++ (Token.opening ++ dropEnd '\r' back) :=
  rdropWhile_opening (by decide) front back

/-- The lines of a text are its pieces, except for an empty last one. -/
theorem getElem?_lines {n : Nat} {cs line : List Char}
    (h : (splitChar '\n' cs)[n]? = some line) (hline : line ≠ []) :
    (lines cs)[n]? = some line := by
  rw [lines]
  split
  · next hlast =>
    rw [List.getLast?_eq_getElem?] at hlast
    obtain ⟨hlt, -⟩ := List.getElem?_eq_some_iff.1 h
    have hn : n ≠ (splitChar '\n' cs).length - 1 := by
      rintro rfl
      exact hline (Option.some.inj (h.symm.trans hlast))
    rw [List.getElem?_dropLast, if_pos (by omega), h]
  · exact h

end Text

/-! ## What is shown of a line -/

namespace Report

variable {before after left right : List Char}

/-- Three dots for the characters that are left out, if there are any. -/
def ellipsis (out : List Char) : List Char :=
  if out.isEmpty then [] else "...".toList

/-- The last `n` characters, with dots for those before them. -/
def lastShown (n : Nat) (cs : List Char) : List Char :=
  ellipsis (cs.take (cs.length - n)) ++ cs.drop (cs.length - n)

/-- The first `n` characters, with dots for those after them. -/
def firstShown (n : Nat) (cs : List Char) : List Char :=
  cs.take n ++ ellipsis (cs.drop n)

/-- A line with opening braces, with its tabs as blanks and without the blanks at its ends. -/
def whole (before after : List Char) : List Char :=
  trimmed (expandTabs (before ++ (Token.opening ++ after)))

/-- What is shown of a line before opening braces. -/
def shownLeft (before after : List Char) : List Char :=
  let cs := dropBlanks (expandTabs before)
  if (whole before after).length ≤ 80 then cs else lastShown 30 cs

/-- What is shown of a line after opening braces. -/
def shownRight (before after : List Char) : List Char :=
  let cs := dropBlanksEnd (expandTabs after)
  if (whole before after).length ≤ 80 then cs else firstShown 28 cs

theorem expandTabs_append (cs more : List Char) :
    expandTabs (cs ++ more) = expandTabs cs ++ expandTabs more :=
  List.flatMap_append

theorem length_expandTabs_cons (c : Char) (cs : List Char) :
    (expandTabs (c :: cs)).length = shownWidth c + (expandTabs cs).length := by
  rw [expandTabs, List.flatMap_cons, List.length_append, shownWidth]
  split <;> rfl

/-- The characters before a byte are shown as wide as they are with their tabs as blanks. -/
theorem shownColumn_append (before cs : List Char) :
    shownColumn (Token.byteLength before) (before ++ cs) = (expandTabs before).length := by
  induction before with
  | nil => cases cs <;> rfl
  | cons c before ih =>
    have hbytes : Token.byteLength (c :: before) = c.utf8Size + Token.byteLength before := rfl
    have hpos := c.utf8Size_pos
    rw [hbytes, List.cons_append, shownColumn, if_neg (by omega), Nat.add_sub_cancel_left, ih,
      length_expandTabs_cons]

theorem expandTabs_opening (before after : List Char) :
    expandTabs (before ++ (Token.opening ++ after)) =
      expandTabs before ++ (Token.opening ++ expandTabs after) := by
  rw [expandTabs_append, expandTabs_append]
  rfl

theorem whole_eq (before after : List Char) : whole before after =
    dropBlanks (expandTabs before) ++ (Token.opening ++ dropBlanksEnd (expandTabs after)) := by
  rw [whole, expandTabs_opening, trimmed, dropBlanks_opening, dropBlanksEnd_opening]

/-- Carriage returns at the end of a line are blanks that are not shown. -/
theorem dropBlanksEnd_dropEnd (cs : List Char) :
    dropBlanksEnd (expandTabs (dropEnd '\r' cs)) = dropBlanksEnd (expandTabs cs) := by
  induction cs using List.reverseRecOn with
  | nil => rfl
  | append_singleton cs c ih =>
    by_cases hc : c = '\r'
    · subst hc
      have hdrop : dropEnd '\r' (cs ++ ['\r']) = dropEnd '\r' cs := by simp [dropEnd]
      rw [hdrop, ih, expandTabs_append]
      exact (dropBlanksEnd_concat (by decide) _).symm
    · have hdrop : dropEnd '\r' (cs ++ [c]) = cs ++ [c] := by simp [dropEnd, hc]
      rw [hdrop]

/-! ## The window of a long line -/

/-- Dots are shown if a character is left out. -/
theorem ellipsis_eq (out : List Char) :
    (if 0 < out.length then "...".toList else []) = ellipsis out := by
  cases out <;> rfl

/-- A long line is shown from some characters before the caret to as many from it on. -/
theorem excerpt_of_long (h : maxLength < (left ++ right).length) :
    excerpt (left ++ right) left.length =
      (lastShown surroundings left ++ firstShown surroundings right,
        (lastShown surroundings left).length) := by
  have hout : (left.take (left.length - surroundings)).length = left.length - surroundings :=
    List.length_take_of_le (Nat.sub_le ..)
  have hstart : min (left.length - surroundings) (left ++ right).length =
      (left.take (left.length - surroundings)).length := by
    rw [hout, List.length_append]
    omega
  have hstop : (min (left.length + surroundings) (left ++ right).length < (left ++ right).length) =
      (0 < (right.drop surroundings).length) := by
    rw [List.length_append, List.length_drop, eq_iff_iff]
    omega
  have hwindow : ((left ++ right).take (left.length + surroundings)).drop
      (left.length - surroundings) =
        left.drop (left.length - surroundings) ++ right.take surroundings := by
    rw [List.take_length_add_append, List.drop_append_of_le_length (Nat.sub_le ..)]
  rw [excerpt, if_neg (Nat.not_le.2 h)]
  simp only [hstop, ellipsis_eq, ← List.take_eq_take_min]
  rw [hstart, ellipsis_eq, hout, hwindow, lastShown, firstShown, List.length_append,
    List.length_drop, Nat.add_comm]
  simp only [List.append_assoc]

/-- What is shown of a line with opening braces if the caret is at their place. -/
theorem excerpt_opening (before after : List Char) :
    excerpt (whole before after) (dropBlanks (expandTabs before)).length =
      (shownLeft before after ++ (Token.opening ++ shownRight before after),
        (shownLeft before after).length) := by
  by_cases h : (whole before after).length ≤ 80
  · have hshort : (whole before after).length ≤ maxLength := h
    rw [excerpt, if_pos hshort, shownLeft, if_pos h, shownRight, if_pos h, ← whole_eq]
  · rw [shownLeft, if_neg h, shownRight, if_neg h]
    rw [whole_eq] at h ⊢
    exact excerpt_of_long (Nat.not_le.1 h)

theorem length_ellipsis_le (out : List Char) : (ellipsis out).length ≤ 3 := by
  cases out with
  | nil => exact Nat.zero_le 3
  | cons c out => exact Nat.le_refl 3

theorem length_lastShown_le (n : Nat) (cs : List Char) : (lastShown n cs).length ≤ n + 3 := by
  have hdots := length_ellipsis_le (cs.take (cs.length - n))
  rw [lastShown, List.length_append, List.length_drop]
  omega

theorem length_firstShown_le (n : Nat) (cs : List Char) : (firstShown n cs).length ≤ n + 3 := by
  have hdots := length_ellipsis_le (cs.drop n)
  rw [firstShown, List.length_append, List.length_take]
  omega

theorem length_shown_le (h : 80 < (whole before after).length) :
    (shownLeft before after ++ (Token.opening ++ shownRight before after)).length ≤ 66 := by
  have hlong : ¬ (whole before after).length ≤ 80 := Nat.not_le.2 h
  have hopening : Token.opening.length = 2 := rfl
  have hleft : (shownLeft before after).length ≤ 33 := by
    rw [shownLeft, if_neg hlong]
    exact length_lastShown_le 30 _
  have hright : (shownRight before after).length ≤ 31 := by
    rw [shownRight, if_neg hlong]
    exact length_firstShown_le 28 _
  rw [List.length_append, List.length_append]
  omega

theorem shown_of_short (h : (whole before after).length ≤ 80) :
    shownLeft before after ++ (Token.opening ++ shownRight before after) = whole before after := by
  rw [shownLeft, if_pos h, shownRight, if_pos h, ← whole_eq]

/-- The caret of a place at opening braces is where the braces are in the line without the blanks
    at its start. -/
theorem caret_opening (before after : List Char) :
    shownColumn (Token.byteLength before) (before ++ (Token.opening ++ after)) -
        ((expandTabs (before ++ (Token.opening ++ after))).length -
          (dropBlanks (expandTabs (before ++ (Token.opening ++ after)))).length) =
      (dropBlanks (expandTabs before)).length := by
  have hle : (dropBlanks (expandTabs before)).length ≤ (expandTabs before).length :=
    (List.dropWhile_suffix isBlank).length_le
  rw [shownColumn_append, expandTabs_opening, dropBlanks_opening]
  simp only [List.length_append]
  omega

/-! ## The text of a report -/

/-- The lines of a report above the line of the source. -/
def heading (r : Report) : String :=
  "error: " ++ r.message ++ "\n --> " ++ r.name ++ ":" ++ toString r.line ++ ":" ++
    toString r.column ++ "\n" ++ blanks (toString r.line).length ++ " |\n"

/-- The line of a report below its heading is `start` and then `there`, and the first caret of the
    next line is under where `there` begins. -/
def PointsAt (r : Report) (start there : List Char) : Prop :=
  ∃ indent bottom, r.text.toList =
      r.heading.toList ++ (start ++ there ++ '\n' :: (indent ++ '^' :: bottom)) ∧
    '\n' ∉ start ++ there ∧ '\n' ∉ indent ∧ '^' ∉ indent ∧ indent.length = start.length

theorem snippet_of_opening (r : Report) (h : r.column = (String.ofList before).utf8ByteSize + 1) :
    r.snippet (before ++ (Token.opening ++ dropEnd '\r' after)) =
      blanks (toString r.line).length ++ " |\n" ++ toString r.line ++ " | " ++
        .ofList (shownLeft before after ++ (Token.opening ++ shownRight before after)) ++ "\n" ++
        trimEnd (blanks (toString r.line).length ++ " | " ++
          blanks (shownLeft before after).length ++ "^ " ++ r.annotated.getD "") ++ "\n" := by
  have hcolumn : r.column - 1 = Token.byteLength before := by
    rw [h, Nat.add_sub_cancel, Token.utf8ByteSize_ofList]
  have hwhole : trimmed (expandTabs (before ++ (Token.opening ++ dropEnd '\r' after))) =
      whole before after := by
    rw [← whole, whole_eq, dropBlanksEnd_dropEnd, whole_eq]
  rw [snippet, hcolumn, caret_opening, hwhole, excerpt_opening]

/-- The caret is not blank, so that what is left out at the end of its line is after it. -/
theorem toList_trimEnd_caret (indent remark : String) :
    (trimEnd (indent ++ "^ " ++ remark)).toList =
      indent.toList ++ '^' :: dropBlanksEnd (' ' :: remark.toList) := by
  rw [trimEnd, String.toList_ofList, String.toList_append, String.toList_append, List.append_assoc]
  exact rdropWhile_append_cons (by decide) indent.toList (' ' :: remark.toList)

theorem not_mem_ellipsis (out : List Char) : '\n' ∉ ellipsis out := by
  cases out with
  | nil => exact List.not_mem_nil
  | cons c out => exact (by decide : '\n' ∉ "...".toList)

theorem not_mem_expandTabs {cs : List Char} (h : '\n' ∉ cs) : '\n' ∉ expandTabs cs := by
  rw [expandTabs, List.mem_flatMap]
  rintro ⟨c, hc, hmem⟩
  split at hmem
  · exact absurd (List.eq_of_mem_replicate hmem) (by decide)
  · exact h (List.mem_singleton.1 hmem ▸ hc)

theorem not_mem_shownLeft (h : '\n' ∉ before) : '\n' ∉ shownLeft before after := by
  have hcs : '\n' ∉ dropBlanks (expandTabs before) := fun hmem =>
    not_mem_expandTabs h (mem_of_mem_dropBlanks hmem)
  rw [shownLeft]
  split
  · exact hcs
  · rw [lastShown, List.mem_append, not_or]
    exact ⟨not_mem_ellipsis _, fun hmem => hcs (List.mem_of_mem_drop hmem)⟩

theorem not_mem_shownRight (h : '\n' ∉ after) : '\n' ∉ shownRight before after := by
  have hcs : '\n' ∉ dropBlanksEnd (expandTabs after) := fun hmem =>
    not_mem_expandTabs h ((prefix_dropBlanksEnd _).mem hmem)
  rw [shownRight]
  split
  · exact hcs
  · rw [firstShown, List.mem_append, not_or]
    exact ⟨fun hmem => hcs (List.mem_of_mem_take hmem), not_mem_ellipsis _⟩

theorem not_mem_toDigits (n : Nat) : '\n' ∉ Nat.toDigits 10 n := by
  intro hmem
  exact absurd (Nat.isDigit_of_mem_toDigits (by decide) (by decide) hmem) (by decide)

theorem content?_of_opensAt {r : Report}
    (h : Token.OpensAt r.source r.line r.column before after) :
    r.content? = some (before ++ (Token.opening ++ dropEnd '\r' after)) := by
  obtain ⟨n, hn⟩ := Nat.exists_eq_add_one.2 h.pos
  have hline := h.line
  rw [hn, Nat.add_sub_cancel] at hline
  have hne : before ++ (Token.opening ++ after) ≠ [] := by simp [Token.opening]
  rw [content?, hn, ← dropEnd_opening]
  exact congrArg (Option.map (dropEnd '\r')) (getElem?_lines hline hne)

/-- A report about opening braces points at them. -/
theorem pointsAt_of_opensAt {r : Report} (h : Token.OpensAt r.source r.line r.column before after) :
    r.PointsAt ((toString r.line ++ " | ").toList ++ shownLeft before after)
      (Token.opening ++ shownRight before after) := by
  have hnewline : '\n' ∉ before ++ (Token.opening ++ after) := fun hmem =>
    (mem_of_mem_splitChar (List.mem_of_getElem? h.line) hmem).2 rfl
  rw [List.mem_append, List.mem_append, not_or, not_or] at hnewline
  obtain ⟨help, htext⟩ : ∃ help, r.text = "error: " ++ r.message ++ "\n --> " ++ r.name ++ ":" ++
      toString r.line ++ ":" ++ toString r.column ++ "\n" ++
        r.snippet (before ++ (Token.opening ++ dropEnd '\r' after)) ++ help := by
    unfold text
    rw [content?_of_opensAt h]
    exact ⟨_, rfl⟩
  refine ⟨(blanks (toString r.line).length ++ " | " ++
      blanks (shownLeft before after).length).toList,
    dropBlanksEnd (' ' :: (r.annotated.getD "").toList) ++ '\n' :: help.toList, ?_, ?_, ?_, ?_, ?_⟩
  · unfold heading
    rw [htext, snippet_of_opening r h.column]
    simp [toList_trimEnd_caret]
  · simp [not_mem_toDigits, not_mem_shownLeft hnewline.1, hnewline.2.1,
      not_mem_shownRight hnewline.2.2]
  · simp [blanks]
  · simp [blanks]
  · simp [blanks, Nat.repr_eq_ofList_toDigits]

end Report

/-- The fault of a template is at opening braces of the line that it names, and its report shows the
    line with the caret under the first of these braces. A line of at most 80 characters is shown
    whole, and of a longer one no more than 66 characters are shown. -/
theorem report_pointsAt {source : String} {settings : Settings} {e : SyntaxError}
    (h : Template.compile source settings = .error e) (name : String) :
    ∃ before after, Token.OpensAt source e.line e.column before after ∧
      let left := Report.shownLeft before after
      let right := Report.shownRight before after
      (e.report source name).PointsAt ((toString e.line ++ " | ").toList ++ left)
        (Token.opening ++ right) ∧
      ((Report.whole before after).length ≤ 80 →
        left ++ (Token.opening ++ right) = Report.whole before after) ∧
      (80 < (Report.whole before after).length →
        (left ++ (Token.opening ++ right)).length ≤ 66) := by
  have hnodes : Node.ofTemplate source = .error e := by
    rw [Template.compile] at h
    cases hnodes : Node.ofTemplate source with
    | error e' =>
      rw [hnodes] at h
      exact congrArg Except.error (Except.error.inj h)
    | ok nodes =>
      rw [hnodes] at h
      cases h
  obtain ⟨before, after, hopens⟩ := Token.opensAt_of_fault hnodes
  exact ⟨before, after, hopens, Report.pointsAt_of_opensAt hopens, Report.shown_of_short,
    Report.length_shown_le⟩

/-- A directive that is not known in a long line, after a tab and letters of two bytes. -/
theorem report_pointsAt_long :
    let source := "a\r\n\t" ++ .ofList (List.replicate 36 'é') ++ "\x7b\x7boops\x7d\x7d" ++
      .ofList (List.replicate 40 'x') ++ "\r\n"
    let e : SyntaxError :=
      { cause := .unknownDirective, line := 2, column := 74, found := some "oops" }
    Template.compile source = .error e ∧
      ∃ before after, Token.OpensAt source 2 74 before after ∧
        (e.report source "a.sql").PointsAt
          ((toString e.line ++ " | ").toList ++ Report.shownLeft before after)
          (Token.opening ++ Report.shownRight before after) ∧
        (Report.whole before after).length = 84 ∧ (Report.shownLeft before after ++
          (Token.opening ++ Report.shownRight before after)).length ≤ 66 := by
  intro source e
  have hfault : (match Template.compile source with
      | .error e' => decide (e' = e)
      | .ok _ => false) = true := by decide +kernel
  have hwhole : (splitChar '\n' source.toList)[1]?.map (fun cs =>
      (trimmed (Report.expandTabs cs)).length) = some 84 := by decide +kernel
  have hcompile : Template.compile source = .error e := by
    cases h : Template.compile source with
    | error e' =>
      rw [h] at hfault
      rw [of_decide_eq_true hfault]
    | ok t =>
      rw [h] at hfault
      cases hfault
  obtain ⟨before, after, hopens, hpoints, -, hshown⟩ := report_pointsAt hcompile "a.sql"
  have hline : (splitChar '\n' source.toList)[1]? = some (before ++ (Token.opening ++ after)) :=
    hopens.line
  rw [hline] at hwhole
  have hlong : (Report.whole before after).length = 84 := Option.some.inj hwhole
  exact ⟨hcompile, before, after, hopens, hpoints, hlong, hshown (by rw [hlong]; decide)⟩

end QueryTemplate
