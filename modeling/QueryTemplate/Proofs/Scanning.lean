import QueryTemplate.Proofs.Literals

/-!
# Texts scanned in parts

A text is made of its pieces: written one after the other, they give the text back. A
blank is in no placeholder and in no escape, so that a text may be cut at a blank and
its parts may be scanned on their own.

* `Piece.text`: a piece as it is written in a template;
* `Piece.flatMap_text_scan`: the pieces of a text are the text;
* `Piece.scan_append`: pieces of joined texts with a blank at their seam;
* `extract_append`: the SQL and the placeholders of such texts;
* `endsBlank_extract`: the SQL of a text ends in a blank if the text does.
-/

namespace QueryTemplate

namespace Text

/-! ## Blanks -/

/-- The code points of the blanks. -/
def blanks : List Nat :=
  [0x20, 0x09, 0x0A, 0x0B, 0x0C, 0x0D, 0x85, 0xA0, 0x1680, 0x2000, 0x2001, 0x2002, 0x2003, 0x2004,
    0x2005, 0x2006, 0x2007, 0x2008, 0x2009, 0x200A, 0x2028, 0x2029, 0x202F, 0x205F, 0x3000]

theorem toNat_mem_blanks {c : Char} (h : isBlank c) : c.toNat ∈ blanks := by
  simp only [isBlank, Bool.or_eq_true, Bool.and_eq_true, beq_iff_eq, decide_eq_true_eq] at h
  generalize c.toNat = n at h
  have hcontrols : List.range' 0x09 5 ⊆ blanks := by decide
  have hspaces : List.range' 0x2000 11 ⊆ blanks := by decide
  rcases h with (((((((((rfl | ⟨hlow, hhigh⟩) | rfl) | rfl) | rfl) | ⟨hlow, hhigh⟩) | rfl) | rfl) |
    rfl) | rfl) | rfl
  · decide
  · exact hcontrols (List.mem_range'_1.2 ⟨hlow, by omega⟩)
  · decide
  · decide
  · decide
  · exact hspaces (List.mem_range'_1.2 ⟨hlow, by omega⟩)
  all_goals decide

/-- A property of characters that holds of all the blanks. -/
theorem forall_of_blanks {p : Char → Bool} (hp : blanks.all fun n => p (.ofNat n)) {c : Char}
    (h : isBlank c) : p c := by
  have := List.all_eq_true.1 hp _ (toNat_mem_blanks h)
  rwa [Char.ofNat_toNat] at this

variable {c : Char}

theorem isWord_of_isBlank (h : isBlank c) : isWord c = false := by
  have := forall_of_blanks (p := fun c => !isWord c) (by decide +kernel) h
  simpa using this

theorem isAsciiIdentPart_of_isBlank (h : isBlank c) : isAsciiIdentPart c = false := by
  have := forall_of_blanks (p := fun c => !isAsciiIdentPart c) (by decide +kernel) h
  simpa using this

theorem isAsciiIdentStart_of_isBlank (h : isBlank c) : isAsciiIdentStart c = false := by
  have := forall_of_blanks (p := fun c => !isAsciiIdentStart c) (by decide +kernel) h
  simpa using this

/-- A start without blanks is found in what comes before a blank. -/
theorem stripStart_append {start left right : List Char} (hc : c ∉ start) :
    stripStart start (left ++ c :: right) =
      (stripStart start left).map fun rest => rest ++ c :: right := by
  induction start generalizing left with
  | nil => rfl
  | cons s start ih =>
    rw [List.mem_cons, not_or] at hc
    cases left with
    | nil => exact if_neg (Ne.symm hc.1)
    | cons d left =>
      rw [List.cons_append, stripStart, stripStart]
      split
      · exact ih hc.2
      · rfl

end Text

open Text

/-! ## Placeholders -/

section Placeholders

variable {c : Char} (hblank : isBlank c) (right : List Char)

include hblank

theorem pathRest_append (left : List Char) :
    pathRest (left ++ c :: right) =
      ((pathRest left).1, (pathRest left).2 ++ c :: right) := by
  have hpart := isAsciiIdentPart_of_isBlank hblank
  have hstart := isAsciiIdentStart_of_isBlank hblank
  have hdot : c ≠ '.' := by rintro rfl; cases hblank
  -- A blank is neither part of a path nor does it go on after a dot.
  have hnil : pathRest (c :: right) = ([], c :: right) := by
    cases right with
    | nil => simp [pathRest, hpart]
    | cons d right => simp [pathRest, hpart, hdot]
  fun_induction pathRest left with
  | case1 => exact hnil
  | case2 d hd => rw [List.singleton_append, pathRest, if_pos hd, hnil]; rfl
  | case3 d hd => simp [pathRest, hd, hstart]
  | case4 d e cs hd path rest hpath ih =>
    rw [hpath] at ih
    rw [List.cons_append, List.cons_append, pathRest, if_pos hd, ← List.cons_append, ih]
  | case5 d e cs hd he path rest hpath ih =>
    rw [hpath] at ih
    rw [List.cons_append, List.cons_append, pathRest, if_neg hd, if_pos he, ih]
  | case6 d e cs hd he => rw [List.cons_append, List.cons_append, pathRest, if_neg hd, if_neg he]

theorem path?_append (left : List Char) :
    path? (left ++ c :: right) =
      (path? left).map fun (path, rest) => (path, rest ++ c :: right) := by
  cases left with
  | nil =>
    exact if_neg (Bool.eq_false_iff.1 (isAsciiIdentStart_of_isBlank hblank))
  | cons d left =>
    rw [List.cons_append, path?, path?, pathRest_append hblank right left]
    split <;> rfl

theorem tableWord?_append (left : List Char) :
    tableWord? (left ++ c :: right) =
      (tableWord? left).map fun rest => rest ++ c :: right := by
  have hc : c ∉ "table".toList := by
    have := forall_of_blanks (p := (· ∉ "table".toList)) (by decide +kernel) hblank
    simpa using this
  rw [tableWord?, tableWord?, stripStart_append hc]
  cases stripStart "table".toList left with
  | none => rfl
  | some rest =>
    cases rest with
    | nil => simp [Option.filter, isWord_of_isBlank hblank]
    | cons d rest => by_cases hd : isWord d <;> simp [Option.filter, hd]

/-- A placeholder before a blank is read without what follows the blank. -/
theorem read?_append (left : List Char) :
    Bind.read? (left ++ c :: right) =
      (Bind.read? left).map fun (b, rest) => (b, rest ++ c :: right) := by
  have hat : c ≠ '@' := by rintro rfl; cases hblank
  fun_cases Bind.read? left with
  | case1 cs rest hword =>
    rw [List.cons_append, List.cons_append, Bind.read?, tableWord?_append hblank, hword]
    rfl
  | case2 cs hword =>
    rw [List.cons_append, List.cons_append, Bind.read?, tableWord?_append hblank, hword,
      path?_append hblank]
    cases path? cs <;> rfl
  | case3 cs hcs =>
    rw [List.cons_append, Bind.read?.eq_2, path?_append hblank]
    · cases path? cs <;> rfl
    · intro rest hrest
      cases cs with
      | nil => exact hat (List.cons.inj hrest).1
      | cons d cs => exact hcs cs (congrArg (· :: cs) (List.cons.inj hrest).1)
  | case4 _ _ hcs =>
    have hstart (rest : List Char) (hrest : left ++ c :: right = '@' :: rest) : False := by
      cases left with
      | nil => exact hat (List.cons.inj hrest).1
      | cons d left => exact hcs left (congrArg (· :: left) (List.cons.inj hrest).1)
    exact Bind.read?.eq_3 _ (fun rest => hstart _) hstart

end Placeholders

namespace Piece

/-- A piece as it is written in a template. -/
def text : Piece → List Char
  | char c => [c]
  | escape => ['\\', '@']
  | bind b => b.text.toList

/-! ## Pieces of joined texts -/

theorem scan_bind {c : Char} {cs rest : List Char} {b : Bind}
    (h : Bind.read? (c :: cs) = some (b, rest)) : scan (c :: cs) = bind b :: scan rest := by
  have hc : c ≠ '\\' := by
    rintro rfl
    cases h
  rw [scan]
  · split
    · next hsome =>
      obtain ⟨rfl, rfl⟩ := Prod.mk.inj (Option.some.inj (hsome.symm.trans h))
      rfl
    · next hnone => cases hnone.symm.trans h
  · exact fun _ hc' => absurd hc' hc

theorem scan_of_none {c : Char} {cs : List Char} (hescape : c = '\\' → cs.head? ≠ some '@')
    (h : Bind.read? (c :: cs) = none) : scan (c :: cs) = char c :: scan cs := by
  rw [scan]
  · split
    · next hsome => cases hsome.symm.trans h
    · rfl
  · rintro rest hc rfl
    exact hescape hc rfl

theorem scan_append_blank {c : Char} (hblank : isBlank c) (left right : List Char) :
    scan (left ++ c :: right) = scan left ++ scan (c :: right) := by
  have hat : c ≠ '@' := by rintro rfl; cases hblank
  fun_induction scan left with
  | case1 => rfl
  | case2 cs ih =>
    rw [List.cons_append, List.cons_append, scan, ih]
    rfl
  | case3 d cs _ b rest hread _ ih =>
    have hread' : Bind.read? (d :: (cs ++ c :: right)) = some (b, rest ++ c :: right) := by
      rw [← List.cons_append, read?_append hblank, hread]
      rfl
    rw [List.cons_append, scan_bind hread', ih]
    rfl
  | case4 d cs hescape hread ih =>
    have hread' : Bind.read? (d :: (cs ++ c :: right)) = none := by
      rw [← List.cons_append, read?_append hblank, hread]
      rfl
    rw [List.cons_append, scan_of_none _ hread', ih]
    · rfl
    · intro hd hhead
      cases cs with
      | nil => exact hat (Option.some.inj hhead)
      | cons e cs =>
        obtain rfl := Option.some.inj hhead
        exact hescape cs hd rfl

/-- The pieces of joined texts are those of the parts if there is a blank at the seam. -/
theorem scan_append {left right : List Char}
    (h : left.getLast?.any isBlank ∨ startsBlank right) :
    scan (left ++ right) = scan left ++ scan right := by
  rcases h with h | h
  · obtain ⟨c, hc, hblank⟩ := (Option.any_eq_true _ _).1 h
    obtain ⟨front, rfl⟩ := List.getLast?_eq_some_iff.1 hc
    rw [List.append_assoc, List.singleton_append, scan_append_blank hblank,
      scan_append_blank hblank front [], scan_blank hblank, scan_blank hblank, List.append_assoc,
      scan]
    rfl
  · obtain ⟨c, rest, rfl, hblank⟩ := startsBlank_iff.1 h
    exact scan_append_blank hblank left rest

/-! ## Pieces as they are written -/

theorem pathRest_eq (cs : List Char) : (pathRest cs).1 ++ (pathRest cs).2 = cs := by
  fun_induction pathRest cs with
  | case1 | case2 | case3 | case6 => rfl
  | case4 c d cs hc path rest hpath ih =>
    rw [hpath] at ih
    exact congrArg (c :: ·) ih
  | case5 c d cs hc hd path rest hpath ih =>
    rw [hpath] at ih
    exact congrArg (c :: d :: ·) ih

theorem eq_of_path? {cs path rest : List Char} (h : path? cs = some (path, rest)) :
    cs = path ++ rest := by
  cases cs with
  | nil => cases h
  | cons c cs =>
    rw [path?] at h
    split at h
    · obtain ⟨rfl, rfl⟩ := Prod.mk.inj (Option.some.inj h)
      exact congrArg (c :: ·) (pathRest_eq cs).symm
    · cases h

/-- A placeholder is read as it is written. -/
theorem eq_of_read? {cs rest : List Char} {b : Bind} (h : Bind.read? cs = some (b, rest)) :
    cs = b.text.toList ++ rest := by
  unfold Bind.read? at h
  split at h
  · split at h
    · next hword =>
      obtain ⟨rfl, rfl⟩ := Prod.mk.inj (Option.some.inj h)
      rw [tableWord?, Option.filter_eq_some_iff, Text.stripStart_eq_some_iff] at hword
      rw [hword.1]
      rfl
    · obtain ⟨⟨path, rest'⟩, hpath, heq⟩ := Option.map_eq_some_iff.1 h
      obtain ⟨rfl, rfl⟩ := Prod.mk.inj heq
      simp [eq_of_path? hpath, Bind.text]
  · obtain ⟨⟨path, rest'⟩, hpath, heq⟩ := Option.map_eq_some_iff.1 h
    obtain ⟨rfl, rfl⟩ := Prod.mk.inj heq
    simp [eq_of_path? hpath, Bind.text]
  · cases h

/-- The pieces of a text, written one after the other, are the text. -/
theorem flatMap_text_scan (cs : List Char) : (scan cs).flatMap text = cs := by
  fun_induction scan cs with
  | case1 => rfl
  | case2 cs ih => rw [List.flatMap_cons, ih]; rfl
  | case3 c cs _ b rest hread _ ih => rw [List.flatMap_cons, ih, eq_of_read? hread]; rfl
  | case4 c cs _ _ ih => rw [List.flatMap_cons, ih]; rfl

/-- The last piece of a text is a blank if its last character is one. -/
theorem endsBlank_scan (cs : List Char) :
    Piece.endsBlank false (scan cs) = cs.getLast?.any isBlank := by
  by_cases h : cs.getLast?.any isBlank
  · rw [h]
    obtain ⟨c, hc, hblank⟩ := (Option.any_eq_true _ _).1 h
    obtain ⟨front, rfl⟩ := List.getLast?_eq_some_iff.1 hc
    rw [scan_append_blank hblank, scan_blank hblank, scan, Piece.endsBlank, List.getLast?_concat]
    exact hblank
  · rw [Bool.not_eq_true] at h
    rw [h]
    rcases List.eq_nil_or_concat (scan cs) with hnil | ⟨front, piece, hpieces⟩
    · rw [hnil]; rfl
    · have htext := flatMap_text_scan cs
      rw [hpieces, List.concat_eq_append, List.flatMap_append, List.flatMap_singleton] at htext
      rw [hpieces, List.concat_eq_append, Piece.endsBlank, List.getLast?_concat]
      cases piece with
      | char c => rwa [← htext, text, List.getLast?_concat] at h
      | escape | bind b => rfl

end Piece

/-- The SQL of a text ends in a blank if the text does. -/
theorem endsBlank_extract (text : String) :
    Text.endsBlank (extract text).sql = Text.endsBlank text := by
  by_cases hempty : text.toList = []
  · rw [extract, hempty, Piece.scan, Text.endsBlank, Text.endsBlank, hempty]
    rfl
  · have hsql := endsBlank_sql_scan "" hempty
    rw [String.empty_append] at hsql
    exact hsql.trans (Piece.endsBlank_scan text.toList)

/-- The SQL and the placeholders of joined texts are those of the parts if there is a blank at
    the seam. -/
theorem extract_append {left right : String}
    (h : Text.endsBlank left ∨ startsBlank right.toList) :
    extract (left ++ right) =
      { sql := (extract left).sql ++ (extract right).sql
        binds := (extract left).binds ++ (extract right).binds } := by
  simp only [extract, String.toList_append, Piece.scan_append h, List.flatMap_append,
    List.filterMap_append, String.ofList_append]

end QueryTemplate
