import QueryTemplate.Proofs.Printing

/-!
# Extracted placeholders

The SQL of a text has a marker for each of its placeholders, and nothing else is changed: with the
placeholders put back it is the text. Which placeholders there are can be told without reading them:
there is one for each at sign right before an identifier, unless the at sign is escaped. In the SQL
no such at sign is left, and none comes up where a marker stands for a placeholder, so that
extracting once more changes nothing.

* `openings`: counts the at signs that belong to placeholders;
* `length_binds`: a text has as many placeholders;
* `Piece.scan_sql_scan`: the SQL of a text has the pieces of the text, with markers;
* `extract_lossless`: nothing of a text is lost;
* `extract_extract`: extracting placeholders twice.
-/

namespace QueryTemplate

open Text

/-! ## Characters of placeholders -/

/-- Whether the characters begin with an identifier. -/
def startsIdent (cs : List Char) : Bool :=
  cs.head?.any isAsciiIdentStart

/-- Whether a path may have the character. -/
def isPathChar (c : Char) : Bool :=
  isAsciiIdentPart c || c == '.'

variable {cs rest : List Char} {b : Bind}

theorem isPathChar_of_isAsciiIdentStart {c : Char} (h : isAsciiIdentStart c) : isPathChar c := by
  rw [isAsciiIdentStart, Bool.or_eq_true] at h
  rcases h with h | h
  · simp [isPathChar, isAsciiIdentPart, Char.isAlphanum, h]
  · simp [isPathChar, isAsciiIdentPart, h]

theorem isPathChar_of_mem_pathRest {c : Char} (h : c ∈ (pathRest cs).1) : isPathChar c := by
  fun_induction pathRest cs with
  | case1 => cases h
  | case2 d hd =>
    obtain rfl := List.mem_singleton.1 h
    simp [isPathChar, hd]
  | case3 => cases h
  | case4 d e cs hd path rest hpath ih =>
    rw [hpath] at ih
    rcases List.mem_cons.1 h with rfl | h
    · simp [isPathChar, hd]
    · exact ih h
  | case5 d e cs hd hdot path rest hpath ih =>
    rw [hpath] at ih
    rw [Bool.and_eq_true, decide_eq_true_eq] at hdot
    rcases List.mem_cons.1 h with rfl | h
    · simp [isPathChar, hdot.1]
    · rcases List.mem_cons.1 h with rfl | h
      · exact isPathChar_of_isAsciiIdentStart hdot.2
      · exact ih h
  | case6 => cases h

/-- The characters of a path are neither at signs, backslashes nor markers. -/
theorem not_mem_of_isPathChar {path : List Char} (h : ∀ c ∈ path, isPathChar c) {c : Char}
    (hc : isPathChar c = false) : c ∉ path := fun hmem =>
  absurd (h c hmem) (Bool.eq_false_iff.1 hc)

theorem isPathChar_of_path? {path : List Char} (h : path? cs = some (path, rest)) :
    startsIdent path ∧ ∀ c ∈ path, isPathChar c := by
  cases cs with
  | nil => cases h
  | cons d cs =>
    rw [path?] at h
    split at h
    · next hd =>
      obtain ⟨rfl, rfl⟩ := Prod.mk.inj (Option.some.inj h)
      refine ⟨hd, List.forall_mem_cons.2 ⟨isPathChar_of_isAsciiIdentStart hd, ?_⟩⟩
      exact fun c hc => isPathChar_of_mem_pathRest hc
    · cases h

theorem path?_eq_none_iff : path? cs = none ↔ startsIdent cs = false := by
  cases cs with
  | nil => simp [path?, startsIdent]
  | cons c cs => simp [path?, startsIdent]

/-- A placeholder is written with one at sign or two and a path. -/
theorem exists_of_read? (h : Bind.read? cs = some (b, rest)) :
    ∃ path, (b.text.toList = '@' :: path ∨ b.text.toList = '@' :: '@' :: path) ∧
      startsIdent path ∧ ∀ c ∈ path, isPathChar c := by
  unfold Bind.read? at h
  split at h
  · split at h
    · obtain ⟨rfl, rfl⟩ := Prod.mk.inj (Option.some.inj h)
      exact ⟨"table".toList, .inr rfl, rfl, List.all_eq_true.1 rfl⟩
    · obtain ⟨⟨path, rest'⟩, hpath, heq⟩ := Option.map_eq_some_iff.1 h
      obtain ⟨rfl, rfl⟩ := Prod.mk.inj heq
      exact ⟨path, .inr (by simp [Bind.text]), isPathChar_of_path? hpath⟩
  · obtain ⟨⟨path, rest'⟩, hpath, heq⟩ := Option.map_eq_some_iff.1 h
    obtain ⟨rfl, rfl⟩ := Prod.mk.inj heq
    exact ⟨path, .inl (by simp [Bind.text]), isPathChar_of_path? hpath⟩
  · cases h

theorem head?_of_read? (h : Bind.read? cs = some (b, rest)) : cs.head? = some '@' := by
  obtain ⟨path, htext, -⟩ := exists_of_read? h
  rw [Piece.eq_of_read? h]
  rcases htext with htext | htext
  · rw [htext]
    rfl
  · rw [htext]
    rfl

theorem startsIdent_of_tableWord? (h : tableWord? cs = some rest) : startsIdent cs := by
  rw [tableWord?, Option.filter_eq_some_iff, stripStart_eq_some_iff] at h
  rw [h.1]
  rfl

/-- No placeholder begins with an at sign exactly if no identifier comes after it, nor after a
    second at sign. -/
theorem read?_at_eq_none_iff : Bind.read? ('@' :: cs) = none ↔
    startsIdent cs = false ∧ ∀ more, cs = '@' :: more → startsIdent more = false := by
  by_cases hat : ∃ more, cs = '@' :: more
  · obtain ⟨more, rfl⟩ := hat
    have hfirst : startsIdent ('@' :: more) = false := rfl
    rw [Bind.read?]
    cases hword : tableWord? more with
    | some rest => simp [startsIdent_of_tableWord? hword]
    | none => simp [hfirst, path?_eq_none_iff]
  · rw [Bind.read?.eq_2 cs fun more hmore => hat ⟨more, hmore⟩, Option.map_eq_none_iff,
      path?_eq_none_iff]
    exact ⟨fun h => ⟨h, fun more hmore => absurd ⟨more, hmore⟩ hat⟩, And.left⟩

/-! ## Counting -/

theorem count_text_of_read? (h : Bind.read? cs = some (b, rest)) :
    b.text.toList.count '?' = 0 := by
  obtain ⟨path, htext, -, hpath⟩ := exists_of_read? h
  have hmarker := List.count_eq_zero.2 (not_mem_of_isPathChar (c := '?') hpath rfl)
  rcases htext with htext | htext
  · simp [htext, hmarker]
  · simp [htext, hmarker]

namespace Piece

/-- The SQL of a text has a marker for each placeholder, and the question marks of the text. -/
theorem count_sql_scan (cs : List Char) :
    ((scan cs).flatMap sql).count '?' = cs.count '?' + ((scan cs).filterMap bind?).length := by
  fun_induction scan cs with
  | case1 => rfl
  | case2 cs ih =>
    rw [List.flatMap_cons, List.count_append, ih, List.filterMap_cons_none rfl,
      List.count_cons_of_ne (by decide), List.count_cons_of_ne (by decide)]
    exact Nat.zero_add _
  | case3 c cs _ b rest hread _ ih =>
    have hcs : (c :: cs).count '?' = rest.count '?' := by
      rw [eq_of_read? hread, List.count_append, count_text_of_read? hread, Nat.zero_add]
    rw [List.flatMap_cons, List.count_append, ih, List.filterMap_cons_some (f := bind?) rfl, hcs,
      List.length_cons, Nat.add_comm]
    rfl
  | case4 c cs _ _ ih =>
    rw [List.flatMap_cons, List.count_append, ih, List.filterMap_cons_none rfl,
      ← List.singleton_append, List.count_append, Nat.add_assoc]
    rfl

/-! ## Markers for placeholders -/

/-- A piece with a marker for a placeholder. -/
def marked : Piece → Piece
  | bind _ => char '?'
  | piece => piece

@[simp]
theorem sql_marked (piece : Piece) : piece.marked.sql = piece.sql := by
  cases piece <;> rfl

@[simp]
theorem bind?_marked (piece : Piece) : piece.marked.bind? = none := by
  cases piece <;> rfl

/-- The SQL of a text begins with an identifier if the text does. -/
theorem startsIdent_sql_scan (cs : List Char) :
    startsIdent ((scan cs).flatMap sql) = startsIdent cs := by
  fun_cases scan cs with
  | case1 => rfl
  | case2 => rfl
  | case3 c cs _ b rest hread =>
    rw [startsIdent, startsIdent, head?_of_read? hread]
    rfl
  | case4 => rfl

/-- If the SQL of a text begins with an at sign, this is a character of the text. -/
theorem exists_of_sql_scan_eq {more : List Char} (h : (scan cs).flatMap sql = '@' :: more) :
    ∃ rest, cs = '@' :: rest ∧ more = (scan rest).flatMap sql := by
  revert h
  fun_cases scan cs with
  | case1 =>
    intro h
    cases h
  | case2 => simp [sql]
  | case3 => simp [sql]
  | case4 c cs =>
    intro h
    obtain ⟨rfl, rfl⟩ := List.cons.inj h
    exact ⟨cs, rfl, rfl⟩

/-- Where no placeholder is read in a text, none is read in its SQL. -/
theorem read?_sql_scan {c : Char} (h : Bind.read? (c :: cs) = none) :
    Bind.read? (c :: (scan cs).flatMap sql) = none := by
  by_cases hc : c = '@'
  · subst hc
    rw [read?_at_eq_none_iff] at h ⊢
    refine ⟨(startsIdent_sql_scan cs).trans h.1, fun more hmore => ?_⟩
    obtain ⟨rest, rfl, rfl⟩ := exists_of_sql_scan_eq hmore
    rw [startsIdent_sql_scan]
    exact h.2 rest rfl
  · exact Bind.read?.eq_3 _ (fun _ hcs => hc (List.cons.inj hcs).1)
      (fun _ hcs => hc (List.cons.inj hcs).1)

/-- The SQL of a text has the pieces of the text, at the same places, with markers for
    placeholders. -/
theorem scan_sql_scan (cs : List Char) : scan ((scan cs).flatMap sql) = (scan cs).map marked := by
  fun_induction scan cs with
  | case1 => exact scan.eq_1
  | case2 cs ih =>
    rw [List.flatMap_cons, List.map_cons, ← ih]
    exact scan.eq_2 _
  | case3 c cs _ b rest _ _ ih =>
    rw [List.flatMap_cons, List.map_cons, ← ih]
    exact scan_char (by decide) (by decide)
  | case4 c cs hescape hread ih =>
    rw [List.flatMap_cons, List.map_cons, ← ih]
    refine scan_of_none (fun hc hhead => ?_) (read?_sql_scan hread)
    obtain ⟨rest, rfl⟩ := List.head?_eq_some_iff.1 (head?_of_head?_sql_scan hhead)
    exact hescape rest hc rfl

end Piece

/-! ## Counting at signs -/

/-- The number of at signs right before an identifier and not right after a backslash, in characters
    that come after `before`. -/
def openings : (before : Option Char) → List Char → Nat
  | _, [] => 0
  | before, c :: cs =>
    (if c = '@' ∧ before ≠ some '\\' ∧ startsIdent cs then 1 else 0) + openings (some c) cs

theorem openings_cons_of_not {before : Option Char} {c : Char}
    (h : ¬ (c = '@' ∧ before ≠ some '\\' ∧ startsIdent cs)) :
    openings before (c :: cs) = openings (some c) cs := by
  rw [openings, if_neg h, Nat.zero_add]

theorem openings_append {path : List Char} (h : '@' ∉ path) (before : Option Char)
    (rest : List Char) :
    openings before (path ++ rest) = openings (path.getLast?.or before) rest := by
  induction path generalizing before with
  | nil => rfl
  | cons c path ih =>
    rw [List.mem_cons, not_or] at h
    rw [List.cons_append, openings_cons_of_not fun hc => h.1 hc.1.symm, ih h.2, List.getLast?_cons]
    cases path.getLast? <;> rfl

/-- A placeholder has one such at sign, and does not end in a backslash. -/
theorem openings_of_read? (h : Bind.read? cs = some (b, rest)) {before : Option Char}
    (hbefore : before ≠ some '\\') :
    ∃ last, last ≠ '\\' ∧ openings before cs = 1 + openings (some last) rest := by
  obtain ⟨path, htext, hstart, hpath⟩ := exists_of_read? h
  obtain ⟨c, tail, rfl⟩ : ∃ c tail, path = c :: tail := by
    cases path with
    | nil => cases hstart
    | cons c tail => exact ⟨c, tail, rfl⟩
  have hlast : ((c :: tail).getLast (List.cons_ne_nil c tail)) ≠ '\\' := by
    intro hlast
    exact not_mem_of_isPathChar (c := '\\') hpath rfl (hlast ▸ List.getLast_mem _)
  -- the at sign right before the path
  have hpathed {before : Option Char} (hbefore : before ≠ some '\\') :
      openings before ('@' :: (c :: tail ++ rest)) =
        1 + openings (some ((c :: tail).getLast (List.cons_ne_nil c tail))) rest := by
    rw [openings, if_pos ⟨rfl, hbefore, hstart⟩,
      openings_append (not_mem_of_isPathChar (c := '@') hpath rfl), List.getLast?_eq_some_getLast]
    rfl
  refine ⟨_, hlast, ?_⟩
  rw [Piece.eq_of_read? h]
  rcases htext with htext | htext
  · rw [htext]
    exact hpathed hbefore
  · rw [htext]
    refine (openings_cons_of_not ?_).trans (hpathed (by simp))
    rintro ⟨-, -, hident⟩
    cases hident

/-- There is a placeholder for each such at sign; a backslash before the characters may not escape
    the first of them. -/
theorem Piece.length_binds_scan (cs : List Char) {before : Option Char}
    (hbefore : before = some '\\' → cs.head? ≠ some '@') :
    ((scan cs).filterMap bind?).length = openings before cs := by
  fun_induction scan cs generalizing before with
  | case1 => rfl
  | case2 cs ih =>
    rw [List.filterMap_cons_none rfl, openings_cons_of_not (by simp),
      openings_cons_of_not (by simp)]
    exact ih (by simp)
  | case3 c cs _ b rest hread _ ih =>
    have hback : before ≠ some '\\' := fun hback => hbefore hback (head?_of_read? hread)
    obtain ⟨last, hlast, hopenings⟩ := openings_of_read? hread hback
    rw [List.filterMap_cons_some (f := bind?) rfl, List.length_cons, hopenings, Nat.add_comm,
      ih fun h => absurd (Option.some.inj h) hlast]
  | case4 c cs hescape hread ih =>
    have hnone : ¬ (c = '@' ∧ before ≠ some '\\' ∧ startsIdent cs) := by
      rintro ⟨rfl, -, hident⟩
      rw [(read?_at_eq_none_iff.1 hread).1] at hident
      cases hident
    rw [List.filterMap_cons_none rfl, openings_cons_of_not hnone]
    refine ih fun hc hhead => ?_
    obtain ⟨rest, rfl⟩ := List.head?_eq_some_iff.1 hhead
    exact hescape rest (Option.some.inj hc) rfl

/-- A text has one placeholder for each at sign right before an identifier, unless it is escaped. -/
theorem length_binds (text : String) :
    (extract text).binds.length = openings none text.toList :=
  Piece.length_binds_scan text.toList nofun

theorem getLast?_of_openings {before : Option Char} {left right : List Char} {c : Char}
    (h : openings before (left ++ '@' :: c :: right) = 0) (hc : isAsciiIdentStart c) :
    left.getLast?.or before = some '\\' := by
  induction left generalizing before with
  | nil =>
    by_contra hbefore
    rw [List.nil_append, openings, if_pos ⟨rfl, hbefore, hc⟩] at h
    omega
  | cons d left ih =>
    rw [List.cons_append, openings] at h
    have hleft := ih (Nat.add_eq_zero_iff.1 h).2
    rw [List.getLast?_cons]
    cases hlast : left.getLast? with
    | none => rwa [hlast] at hleft
    | some e => rwa [hlast] at hleft

/-! ## Extracting -/

/-- Nothing of a text is lost: with the placeholders in the places of the markers its SQL is the
    text, and there is one marker for each placeholder. There are as many placeholders as at signs
    that can begin one. -/
theorem extract_lossless (text : String) :
    ('?' ∉ text.toList → fill (extract text).sql.toList (extract text).binds = text.toList) ∧
      (extract text).sql.toList.count '?' =
        text.toList.count '?' + (extract text).binds.length ∧
      (extract text).binds.length = openings none text.toList := by
  refine ⟨fill_extract, ?_, length_binds text⟩
  rw [extract, String.toList_ofList]
  exact Piece.count_sql_scan text.toList

theorem extract_lossless_mixed :
    '?' ∉ "@@@a \\@@x.y. @@tableé @@table".toList ∧
      (extract "@@@a \\@@x.y. @@tableé @@table").sql = "@? \\@?. ?é ?" ∧
      fill "@? \\@?. ?é ?".toList (extract "@@@a \\@@x.y. @@tableé @@table").binds =
        "@@@a \\@@x.y. @@tableé @@table".toList :=
  have hmarker : '?' ∉ "@@@a \\@@x.y. @@tableé @@table".toList := by decide +kernel
  have hsql : (extract "@@@a \\@@x.y. @@tableé @@table").sql = "@? \\@?. ?é ?" := by
    decide +kernel
  ⟨hmarker, hsql, hsql ▸ (extract_lossless _).1 hmarker⟩

theorem Piece.scan_extract (text : String) :
    scan (extract text).sql.toList = (scan text.toList).map marked := by
  rw [extract, String.toList_ofList, scan_sql_scan]

theorem extract_sql_extract (text : String) :
    extract (extract text).sql = { sql := (extract text).sql, binds := [] } := by
  rw [extract, Piece.scan_extract]
  simp [extract, List.flatMap_map, List.filterMap_map]

/-- The SQL of a text has no placeholders, and the pieces of the text at the same places; every at
    sign that comes right before an identifier is escaped. -/
theorem extract_extract (text : String) :
    extract (extract text).sql = { sql := (extract text).sql, binds := [] } ∧
      Piece.scan (extract text).sql.toList = (Piece.scan text.toList).map Piece.marked ∧
      ∀ left c right, (extract text).sql.toList = left ++ '@' :: c :: right →
        isAsciiIdentStart c → left.getLast? = some '\\' := by
  refine ⟨extract_sql_extract text, Piece.scan_extract text, ?_⟩
  intro left c right hsql hc
  have hnone : openings none (extract text).sql.toList = 0 := by
    rw [← length_binds, extract_sql_extract]
    rfl
  rw [hsql] at hnone
  exact Option.or_none.symm.trans (getLast?_of_openings hnone hc)

theorem extract_extract_escaped :
    (extract "@@@a\\@b").sql.toList = "@?\\".toList ++ '@' :: 'b' :: [] ∧
      isAsciiIdentStart 'b' ∧ "@?\\".toList.getLast? = some '\\' :=
  have hsql : (extract "@@@a\\@b").sql.toList = "@?\\".toList ++ '@' :: 'b' :: [] := by
    decide +kernel
  ⟨hsql, by decide, (extract_extract _).2.2 _ _ _ hsql (by decide)⟩

end QueryTemplate
