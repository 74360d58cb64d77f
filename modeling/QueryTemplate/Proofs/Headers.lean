import QueryTemplate.LoopHeader
import QueryTemplate.Proofs.Finishing
import QueryTemplate.Proofs.Tiling

/-!
# Grammar of loop headers

A loop header is read by cutting it at the first `:=` or the first ` in `, its names at commas, and
by taking blanks and ampersands off the parts. Here its grammar is given by rules that cut nothing:
how a header may be put together from names, a path and the blanks between them.

Every header of the grammar is read, and it is read as what it was put together from. The converse
fails in one place. A text before a comma that is no name is not refused, but read as if the index
were `_`.

* `LoopHeader.Written`: the grammar;
* `LoopHeader.Stray`: headers with something else in place of the name of the index;
* `LoopHeader.make?_eq_some_iff`, `LoopHeader.range?_eq_some_iff`: what is read of the parts;
* `LoopHeader.read?_iff_written`: the headers that are read.
-/

namespace QueryTemplate

namespace Text

variable {sep : Char} {cs a b : List Char}

/-! ## Texts cut at a character -/

theorem splitChar_eq_one_iff : splitChar sep cs = [a] ↔ sep ∉ cs ∧ a = cs := by
  constructor
  · intro h
    have hcs := intercalate_splitChar sep cs
    rw [h, List.intercalate_singleton] at hcs
    have hmem : a ∈ splitChar sep cs := h ▸ List.mem_singleton_self a
    exact ⟨fun hsep => (mem_of_mem_splitChar hmem (hcs ▸ hsep)).2 rfl, hcs⟩
  · rintro ⟨hsep, rfl⟩
    exact splitChar_of_not_mem hsep

theorem splitChar_eq_two_iff :
    splitChar sep cs = [a, b] ↔ sep ∉ a ∧ sep ∉ b ∧ cs = a ++ sep :: b := by
  constructor
  · intro h
    have hcs := intercalate_splitChar sep cs
    rw [h] at hcs
    have hne : ∀ piece ∈ [a, b], sep ∉ piece := fun piece hpiece hsep =>
      (mem_of_mem_splitChar (h ▸ hpiece) hsep).2 rfl
    refine ⟨hne a (by simp), hne b (by simp), ?_⟩
    simpa using hcs.symm
  · rintro ⟨ha, hb, rfl⟩
    rw [splitChar_append ha, splitChar_of_not_mem hb]

end Text

namespace LoopHeader

open Text

variable {cs rest names item index path list gap : List Char} {r : LoopHeader} {header : String}

/-! ## The grammar -/

/-- A name: letters, digits and underscores, with no digit first. -/
inductive Name : List Char → Prop
  | mk {first : Char} {rest : List Char} : (first.isAlpha ∨ first = '_') →
      (∀ c ∈ rest, c.isAlphanum ∨ c = '_') → Name (first :: rest)

/-- Names with dots between them. -/
inductive Path : List Char → Prop
  | name {cs : List Char} : Name cs → Path cs
  | field {cs rest : List Char} : Name cs → Path rest → Path (cs ++ '.' :: rest)

/-- A path with ampersands right before it, and blanks before those. -/
inductive Listed : List Char → List Char → Prop
  | mk {gap path : List Char} (ampersands : Nat) : Gap gap → Path path →
      Listed (gap ++ List.replicate ampersands '&' ++ path) path

/-- The name of an item, and the path of the list that it is from. -/
inductive Ranged : List Char → List Char → List Char → Prop
  | mk {item gap gap' list path : List Char} : Name item → Gap gap → Gap gap' → Listed list path →
      Ranged (item ++ gap ++ ":=".toList ++ gap' ++ "range ".toList ++ list) item path

/-- What a name binds: `_` binds nothing. -/
def bound (name : List Char) : Option String :=
  if name = ['_'] then none else some (.ofList name)

/-- The headers of the grammar, with their parts. -/
inductive Written : List Char → LoopHeader → Prop
  | range {cs item path : List Char} : Ranged cs item path →
      Written cs ⟨none, bound item, .ofList path⟩
  | indexed {index gap gap' cs item path : List Char} : Name index → Gap gap → Gap gap' →
      Ranged cs item path →
      Written (index ++ gap ++ ",".toList ++ gap' ++ cs) ⟨bound index, bound item, .ofList path⟩
  | within {item gap list path : List Char} : Name item → Gap gap → Listed list path →
      Written (item ++ gap ++ " in ".toList ++ list) ⟨none, bound item, .ofList path⟩

/-- Headers with an index, but with a text that is no name in its place. -/
inductive Stray : List Char → LoopHeader → Prop
  | mk {index gap cs item path : List Char} : ',' ∉ index → ¬ ":=".toList <:+: index →
      ¬ Name (trimmed index) → Gap gap → Ranged cs item path →
      Stray (index ++ ",".toList ++ gap ++ cs) ⟨none, bound item, .ofList path⟩

/-! ## Names and paths -/

theorem isIdent_iff : isIdent cs ↔ Name cs := by
  constructor
  · intro h
    cases cs with
    | nil => cases h
    | cons c cs =>
      simp only [isIdent, isAsciiIdentStart, Bool.and_eq_true, Bool.or_eq_true, beq_iff_eq,
        List.all_eq_true, isAsciiIdentPart] at h
      exact .mk h.1 h.2
  · rintro ⟨hfirst, hrest⟩
    simpa only [isIdent, isAsciiIdentStart, Bool.and_eq_true, Bool.or_eq_true, beq_iff_eq,
      List.all_eq_true, isAsciiIdentPart] using ⟨hfirst, hrest⟩

instance (cs : List Char) : Decidable (Name cs) :=
  decidable_of_iff _ isIdent_iff

theorem Name.isAsciiIdentPart (h : Name cs) {c : Char} (hc : c ∈ cs) : isAsciiIdentPart c := by
  obtain ⟨hfirst, hrest⟩ := h
  rcases List.mem_cons.1 hc with rfl | hc
  · rcases hfirst with hfirst | rfl
    · simp [Text.isAsciiIdentPart, Char.isAlphanum, hfirst]
    · rfl
  · simpa [Text.isAsciiIdentPart] using hrest c hc

theorem Name.not_mem {c : Char} (h : Name cs)
    (hc : Text.isAsciiIdentPart c = false := by decide) : c ∉ cs := fun hmem =>
  Bool.eq_false_iff.1 hc (h.isAsciiIdentPart hmem)

theorem Name.bare (h : Name cs) : Bare cs := by
  refine bare_of_forall fun c hc => Bool.eq_false_iff.2 fun hblank => ?_
  exact Bool.eq_false_iff.1 (isAsciiIdentPart_of_isBlank hblank) (h.isAsciiIdentPart hc)

theorem Name.trimmed_append (h : Name cs) (hgap : Gap gap) : trimmed (cs ++ gap) = cs :=
  Text.trimmed_append h.bare gap_nil hgap

theorem Ranged.name (h : Ranged cs item path) : Name item := by
  cases h
  assumption

/-- The characters of a path are those of names, and dots. -/
theorem Path.not_mem {c : Char} (h : Path cs) (hc : Text.isAsciiIdentPart c = false := by decide)
    (hdot : c ≠ '.' := by decide) : c ∉ cs := by
  induction h with
  | name hname => exact hname.not_mem hc
  | field hname _ ih =>
    simp only [List.mem_append, List.mem_cons, not_or]
    exact ⟨hname.not_mem hc, hdot, ih⟩

theorem isPath_iff : isPath cs ↔ Path cs := by
  constructor
  · have hjoin : ∀ pieces : List (List Char), pieces ≠ [] → pieces.all isIdent →
        Path (['.'].intercalate pieces) := by
      intro pieces
      induction pieces with
      | nil => exact fun hne => absurd rfl hne
      | cons piece pieces ih =>
        intro _ h
        rw [List.all_cons, Bool.and_eq_true] at h
        cases pieces with
        | nil => simpa using Path.name (isIdent_iff.1 h.1)
        | cons next pieces =>
          simpa using Path.field (isIdent_iff.1 h.1) (ih (List.cons_ne_nil _ _) h.2)
    intro h
    exact intercalate_splitChar '.' cs ▸ hjoin _ (splitChar_ne_nil '.' cs) h
  · intro h
    rw [isPath]
    induction h with
    | name hname => rw [splitChar_of_not_mem hname.not_mem]; simpa using isIdent_iff.2 hname
    | field hname _ ih =>
      rw [splitChar_append hname.not_mem, List.all_cons, Bool.and_eq_true]
      exact ⟨isIdent_iff.2 hname, ih⟩

instance (cs : List Char) : Decidable (Path cs) :=
  decidable_of_iff _ isPath_iff

theorem name?_of_name (h : Name cs) : name? cs = bound cs := by
  simp [name?, bound, isIdent_iff.2 h]

theorem name?_of_not_name (h : ¬ Name cs) : name? cs = none := by
  rw [← isIdent_iff] at h
  simp [name?, h]

theorem Path.listed (h : Path cs) : Listed cs cs :=
  .mk 0 gap_nil h

theorem Listed.not_mem {c : Char} (h : Listed cs path) (hblank : isBlank c = false := by decide)
    (hc : Text.isAsciiIdentPart c = false := by decide) (hdot : c ≠ '.' := by decide)
    (hampersand : c ≠ '&' := by decide) : c ∉ cs := by
  obtain ⟨n, hgap, hpath⟩ := h
  simp only [List.mem_append, List.mem_replicate, not_or, not_and]
  exact ⟨⟨hgap.not_mem hblank, fun _ => hampersand⟩, hpath.not_mem hc hdot⟩

/-! ## Parts that are read -/

/-- What is left of a list without blanks and ampersands is its path. -/
theorem dropWhile_trimmed_eq_iff (hend : list.getLast?.any isBlank = false) :
    (trimmed list).dropWhile (· == '&') = path ∧ Path path ↔ Listed list path := by
  constructor
  · rintro ⟨hdrop, hpath⟩
    obtain ⟨gap, hgap, hlist⟩ := exists_gap_of_end hend
    obtain ⟨n, rest, htrimmed, hhead⟩ := exists_replicate_append '&' (trimmed list)
    rw [htrimmed, dropWhile_replicate_append, dropWhile_of_head?_ne hhead] at hdrop
    obtain rfl := hdrop
    have hlisted := Listed.mk n hgap hpath
    rwa [List.append_assoc, ← htrimmed, ← hlist] at hlisted
  · rintro ⟨n, hgap, hpath⟩
    have hbare : Bare (List.replicate n '&' ++ path) := by
      refine bare_of_forall fun c hc => Bool.eq_false_iff.2 fun hblank => ?_
      rcases List.mem_append.1 hc with hc | hc
      · rw [(List.mem_replicate.1 hc).2] at hblank
        cases hblank
      · exact hpath.not_mem (isAsciiIdentPart_of_isBlank hblank) (by rintro rfl; cases hblank) hc
    have htrimmed := trimmed_append hbare hgap gap_nil
    rw [List.append_nil, ← List.append_assoc] at htrimmed
    have hstart : '&' ∉ path := hpath.not_mem
    rw [htrimmed, dropWhile_replicate_append,
      dropWhile_of_head?_ne fun hhead => hstart (List.mem_of_mem_head? hhead)]
    exact ⟨rfl, hpath⟩

theorem make?_eq_some_iff {index : Option String} (hend : list.getLast?.any isBlank = false) :
    make? index item list = some r ↔
      Name item ∧ ∃ path, Listed list path ∧ r = ⟨index, bound item, .ofList path⟩ := by
  simp only [make?, Option.ite_none_right_eq_some, Bool.and_eq_true, isPath_iff, isIdent_iff,
    Option.some.injEq, ← dropWhile_trimmed_eq_iff hend]
  constructor
  · rintro ⟨⟨hpath, hitem⟩, rfl⟩
    exact ⟨hitem, _, ⟨rfl, hpath⟩, by rw [name?_of_name hitem]⟩
  · rintro ⟨hitem, path, ⟨rfl, hpath⟩, rfl⟩
    exact ⟨⟨hpath, hitem⟩, by rw [name?_of_name hitem]⟩

theorem stripStart_range_iff (hend : cs.getLast?.any isBlank = false) :
    stripStart "range ".toList (trimmed cs) = some list ↔
      ∃ gap, Gap gap ∧ cs = gap ++ "range ".toList ++ list := by
  rw [stripStart_eq_some_iff]
  constructor
  · intro h
    obtain ⟨gap, hgap, hcs⟩ := exists_gap_of_end hend
    exact ⟨gap, hgap, by rw [List.append_assoc, ← h]; exact hcs⟩
  · rintro ⟨gap, hgap, rfl⟩
    rw [List.append_assoc] at hend ⊢
    have hbare : Bare ("range ".toList ++ list) := ⟨rfl, bare_end_of_append hend⟩
    simpa using trimmed_append hbare hgap gap_nil

/-- What is read of the names of a header: the name of the index, if it is bound, and the text in
    place of the name of the item. -/
inductive Named : List Char → Option String → List Char → Prop
  | one {names : List Char} : ',' ∉ names → Named names none (trimmed names)
  | two {a b : List Char} : ',' ∉ a → ',' ∉ b →
      Named (a ++ ',' :: b) (name? (trimmed a)) (trimmed b)

theorem range?_eq_some_iff (hend : cs.getLast?.any isBlank = false) :
    range? names cs = some r ↔
      ∃ gap list index item path, Gap gap ∧ cs = gap ++ "range ".toList ++ list ∧
        Named names index item ∧ Name item ∧ Listed list path ∧
          r = ⟨index, bound item, .ofList path⟩ := by
  constructor
  · intro h
    obtain ⟨list, hstrip, hmake⟩ := Option.bind_eq_some_iff.1 h
    obtain ⟨gap, hgap, rfl⟩ := (stripStart_range_iff hend).1 hstrip
    have hlist := bare_end_of_append hend
    split at hmake
    · next item hnames =>
      obtain ⟨a, ha, rfl⟩ := List.map_eq_singleton_iff.1 hnames
      obtain ⟨hcomma, rfl⟩ := splitChar_eq_one_iff.1 ha
      obtain ⟨hitem, path, hpath, rfl⟩ := (make?_eq_some_iff hlist).1 hmake
      exact ⟨gap, list, none, _, path, hgap, rfl, .one hcomma, hitem, hpath, rfl⟩
    · next index item hnames =>
      obtain ⟨a, pieces, ha, rfl, hpieces⟩ := List.map_eq_cons_iff.1 hnames
      obtain ⟨b, rfl, rfl⟩ := List.map_eq_singleton_iff.1 hpieces
      obtain ⟨hcomma, hcomma', rfl⟩ := splitChar_eq_two_iff.1 ha
      obtain ⟨hitem, path, hpath, rfl⟩ := (make?_eq_some_iff hlist).1 hmake
      exact ⟨gap, list, _, _, path, hgap, rfl, .two hcomma hcomma', hitem, hpath, rfl⟩
    · cases hmake
  · rintro ⟨gap, list, index, item, path, hgap, rfl, hnamed, hitem, hpath, rfl⟩
    have hlist := bare_end_of_append hend
    refine Option.bind_eq_some_iff.2 ⟨list, (stripStart_range_iff hend).2 ⟨gap, hgap, rfl⟩, ?_⟩
    cases hnamed with
    | one hcomma =>
      rw [splitChar_of_not_mem hcomma]
      exact (make?_eq_some_iff hlist).2 ⟨hitem, path, hpath, rfl⟩
    | two hcomma hcomma' =>
      rw [splitChar_append hcomma, splitChar_of_not_mem hcomma']
      exact (make?_eq_some_iff hlist).2 ⟨hitem, path, hpath, rfl⟩

/-! ## Headers of the grammar are read -/

/-- A header is read as the text before its item and its list say. -/
theorem read?_of_ranged (front : List Char) {index : Option String} (h : Ranged cs item path)
    (hcs : trimmed header.toList = front ++ cs)
    (hfront : ∀ names, '=' ∉ names → ¬ ":=".toList <:+: front ++ names)
    (hnamed : ∀ gap, Gap gap → Named (front ++ (item ++ gap)) index item) :
    read? header = some ⟨index, bound item, .ofList path⟩ := by
  cases h with
  | @mk _ gap gap' list _ hitem hgap hgap' hpath =>
    let range := gap' ++ "range ".toList ++ list
    have heq : trimmed header.toList = front ++ (item ++ gap) ++ (":=".toList ++ range) := by
      rw [hcs]
      simp only [range, List.append_assoc]
    have hend : range.getLast?.any isBlank = false := by
      have hbare := (bare_trimmed header.toList).2
      rw [heq] at hbare
      exact bare_end_of_append (bare_end_of_append hbare)
    have hsplit : splitOnce ":=".toList (trimmed header.toList) =
        some (front ++ (item ++ gap), range) := by
      refine (splitOnce_eq_some_iff (by decide)).2 ⟨heq, ?_⟩
      rw [List.append_assoc]
      refine hfront _ ?_
      simp only [List.mem_append, not_or]
      exact ⟨⟨hitem.not_mem, hgap.not_mem⟩, by decide⟩
    rw [read?]
    simp only [hsplit]
    exact (range?_eq_some_iff hend).2
      ⟨gap', list, index, item, path, hgap', rfl, hnamed gap hgap, hitem, hpath, rfl⟩

theorem not_infix_assign (h : '=' ∉ cs) : ¬ ":=".toList <:+: cs := fun hassign =>
  h (hassign.subset (by decide))

/-- A text before a comma is read as the name of the index, whatever it is. -/
theorem read?_of_index (hcomma : ',' ∉ index) (hsep : ¬ ":=".toList <:+: index) (hgap : Gap gap)
    (h : Ranged cs item path)
    (hcs : trimmed header.toList = index ++ ",".toList ++ gap ++ cs) :
    read? header = some ⟨name? (trimmed index), bound item, .ofList path⟩ := by
  have hitem := h.name
  refine read?_of_ranged _ h hcs (fun names hnames hinfix => ?_) (fun gap' hgap' => ?_)
  · -- A `:=` that is cut by no comma lies before it or after it.
    have hlist : index ++ ",".toList ++ gap ++ names = index ++ ',' :: (gap ++ names) := by simp
    rw [hlist] at hinfix
    rcases infix_or_of_not_mem (by decide) hinfix with hindex | hrest
    · exact hsep hindex
    · exact not_infix_assign (List.not_mem_append hgap.not_mem hnames) hrest
  · have hlist : index ++ ",".toList ++ gap ++ (item ++ gap') =
        index ++ ',' :: (gap ++ item ++ gap') := by simp
    have hcomma' : ',' ∉ gap ++ item ++ gap' :=
      List.not_mem_append (List.not_mem_append hgap.not_mem hitem.not_mem) hgap'.not_mem
    have hnamed := Named.two hcomma hcomma'
    rwa [trimmed_append hitem.bare hgap hgap', ← hlist] at hnamed

theorem read?_of_stray (h : Stray (trimmed header.toList) r) : read? header = some r := by
  generalize hcs : trimmed header.toList = cs at h
  obtain ⟨hcomma, hsep, hname, hgap, hranged⟩ := h
  rw [read?_of_index hcomma hsep hgap hranged hcs, name?_of_not_name hname]

/-- A blank, `in` and a blank come first where they stand after a name. -/
theorem not_infix_in (hitem : Name item) (hgap : Gap gap) :
    ¬ " in ".toList <:+: item ++ gap ++ " in".toList := by
  intro hinfix
  -- The first blank is none of the name, and the last one is not after `in`.
  have hfirst : " in ".toList <:+: gap ++ " in".toList := by
    have hdrop := infix_dropWhile (p := (· != ' ')) (by decide) hinfix
    rw [List.append_assoc, List.dropWhile_append_of_pos fun c hc => ?_] at hdrop
    · exact hdrop.trans (List.dropWhile_suffix _).isInfix
    · have hblank : ' ' ∉ item := hitem.not_mem
      exact bne_iff_ne.2 fun heq => hblank (heq ▸ hc)
  have hlast : " in ".toList.reverse <:+: ' ' :: gap.reverse := by
    have hreverse := List.reverse_infix.2 hfirst
    rw [List.reverse_append] at hreverse
    exact infix_dropWhile (p := (· != ' ')) (by decide) hreverse
  have hblank : isBlank 'i' := by
    have hmem : 'i' ∈ ' ' :: gap.reverse := hlast.subset (by decide)
    exact hgap 'i' (by simpa using hmem)
  cases hblank

theorem read?_of_within (hitem : Name item) (hgap : Gap gap) (hpath : Listed list path)
    (hcs : trimmed header.toList = item ++ gap ++ " in ".toList ++ list) :
    read? header = some ⟨none, bound item, .ofList path⟩ := by
  have hnone : splitOnce ":=".toList (trimmed header.toList) = none := by
    refine (splitOnce_eq_none_iff (by decide)).2 (not_infix_assign ?_)
    rw [hcs]
    simp only [List.mem_append, not_or]
    exact ⟨⟨⟨hitem.not_mem, hgap.not_mem⟩, by decide⟩, hpath.not_mem⟩
  have hsplit : splitOnce " in ".toList (trimmed header.toList) = some (item ++ gap, list) :=
    (splitOnce_eq_some_iff (by decide)).2 ⟨by rw [hcs, List.append_assoc], not_infix_in hitem hgap⟩
  have hend : list.getLast?.any isBlank = false := by
    have hbare := (bare_trimmed header.toList).2
    rw [hcs] at hbare
    exact bare_end_of_append hbare
  rw [read?]
  simp only [hnone, hsplit, Option.bind_eq_bind, Option.bind_some, hitem.trimmed_append hgap]
  exact (make?_eq_some_iff hend).2 ⟨hitem, path, hpath, rfl⟩

theorem read?_of_written (h : Written (trimmed header.toList) r) : read? header = some r := by
  generalize hcs : trimmed header.toList = cs at h
  cases h with
  | range hranged =>
    have hitem := hranged.name
    refine read?_of_ranged [] hranged hcs (fun _ => not_infix_assign) fun gap hgap => ?_
    have hnamed := Named.one (List.not_mem_append hitem.not_mem hgap.not_mem)
    rwa [hitem.trimmed_append hgap] at hnamed
  | @indexed index gap _ _ _ _ hindex hgap hgap' hranged =>
    have hcomma : ',' ∉ index ++ gap := List.not_mem_append hindex.not_mem hgap.not_mem
    have hequals : '=' ∉ index ++ gap := List.not_mem_append hindex.not_mem hgap.not_mem
    rw [read?_of_index hcomma (not_infix_assign hequals) hgap' hranged hcs,
      hindex.trimmed_append hgap, name?_of_name hindex]
  | within hitem hgap hpath => exact read?_of_within hitem hgap hpath hcs

/-! ## Headers that are read -/

theorem written_or_stray_of_range? {range : List Char}
    (hbare : Bare (names ++ (":=".toList ++ range)))
    (hsep : ¬ ":=".toList <:+: names ++ ":=".toList.dropLast) (h : range? names range = some r) :
    Written (names ++ (":=".toList ++ range)) r ∨ Stray (names ++ (":=".toList ++ range)) r := by
  have hend := bare_end_of_append (bare_end_of_append hbare.2)
  have hstart {front : List Char} (hfront : front <+: names) : startsBlank front = false :=
    startsBlank_eq_false_of_start (hfront.trans (List.prefix_append _ _)) hbare.1
  obtain ⟨gap, list, index, item, path, hgap, rfl, hnamed, hitem, hpath, rfl⟩ :=
    (range?_eq_some_iff hend).1 h
  cases hnamed with
  | one =>
    obtain ⟨gap', hgap', hnames⟩ := exists_gap_of_start (hstart (List.prefix_refl names))
    have hranged := Ranged.mk hitem hgap' hgap hpath
    rw [← hnames] at hranged
    simpa only [List.append_assoc] using Or.inl (Written.range hranged)
  | @two a b hcomma =>
    obtain ⟨gap₁, gap₂, hgap₁, hgap₂, hb⟩ := exists_gaps b
    have hranged := Ranged.mk hitem hgap₂ hgap hpath
    have htext : a ++ ",".toList ++ gap₁ ++
        (trimmed b ++ gap₂ ++ ":=".toList ++ gap ++ "range ".toList ++ list) =
          a ++ ',' :: b ++ (":=".toList ++ (gap ++ "range ".toList ++ list)) := by
      generalize trimmed b = item at hb
      simp [hb]
    rw [← htext]
    by_cases hname : Name (trimmed a)
    · obtain ⟨gap₀, hgap₀, ha⟩ := exists_gap_of_start (hstart (List.prefix_append a _))
      have hwritten := Written.indexed hname hgap₀ hgap₁ hranged
      rw [← ha, ← name?_of_name hname] at hwritten
      exact .inl hwritten
    · rw [name?_of_not_name hname]
      refine .inr (.mk hcomma (fun hinfix => hsep ?_) hname hgap₁ hranged)
      rw [List.append_assoc]
      exact hinfix.trans (List.prefix_append _ _).isInfix

theorem written_or_stray_of_read? (h : read? header = some r) :
    Written (trimmed header.toList) r ∨ Stray (trimmed header.toList) r := by
  have hbare := bare_trimmed header.toList
  rw [read?] at h
  generalize trimmed header.toList = cs at h hbare ⊢
  simp only at h
  split at h
  · next names range hsplit =>
    obtain ⟨rfl, hsep⟩ := (splitOnce_eq_some_iff (by decide)).1 hsplit
    exact written_or_stray_of_range? hbare hsep h
  · obtain ⟨⟨item, list⟩, hsplit, hmake⟩ := Option.bind_eq_some_iff.1 h
    obtain ⟨rfl, -⟩ := (splitOnce_eq_some_iff (by decide)).1 hsplit
    have hend := bare_end_of_append (bare_end_of_append hbare.2)
    obtain ⟨hitem, path, hpath, rfl⟩ := (make?_eq_some_iff hend).1 hmake
    have hstart := startsBlank_eq_false_of_start (List.prefix_append _ _) hbare.1
    obtain ⟨gap, hgap, hname⟩ := exists_gap_of_start hstart
    have hwritten := Written.within hitem hgap hpath
    rw [← hname, List.append_assoc] at hwritten
    exact .inl hwritten

theorem Ranged.not_mem_comma (h : Ranged cs item path) : ',' ∉ cs := by
  obtain ⟨hitem, hgap, hgap', hpath⟩ := h
  simp only [List.mem_append, not_or]
  exact ⟨⟨⟨⟨⟨hitem.not_mem, hgap.not_mem⟩, by decide⟩, hgap'.not_mem⟩, by decide⟩, hpath.not_mem⟩

/-- A header with something else in place of a name is not of the grammar. -/
theorem Stray.not_written {r' : LoopHeader} (h : Stray cs r) : ¬ Written cs r' := by
  intro hwritten
  cases h with
  | @mk index gap rest _ _ hcomma _ hname =>
    have htext : index ++ ",".toList ++ gap ++ rest = index ++ ',' :: (gap ++ rest) := by simp
    have hmem : ',' ∈ index ++ ',' :: (gap ++ rest) := by simp
    rw [htext] at hwritten
    generalize hcs : index ++ ',' :: (gap ++ rest) = cs at hwritten hmem
    cases hwritten with
    | range hranged => exact hranged.not_mem_comma hmem
    | within hitem hgap hpath =>
      refine List.not_mem_append (List.not_mem_append ?_ (by decide)) hpath.not_mem hmem
      exact List.not_mem_append hitem.not_mem hgap.not_mem
    | @indexed index' gap₀ gap₁ rest' _ _ hindex hgap =>
      -- The first comma ends both indices.
      have hcomma' : ',' ∉ index' ++ gap₀ := List.not_mem_append hindex.not_mem hgap.not_mem
      have htext' : index' ++ gap₀ ++ ",".toList ++ gap₁ ++ rest' =
          index' ++ gap₀ ++ ',' :: (gap₁ ++ rest') := by simp
      have hpieces := congrArg (splitChar ',') (hcs.trans htext')
      rw [splitChar_append hcomma, splitChar_append hcomma'] at hpieces
      rw [(List.cons.inj hpieces).1, hindex.trimmed_append hgap] at hname
      exact hname hindex

/-- The headers that are read are those of the grammar, with the parts that they are written with,
    and besides them only the ones with a text that is no name in place of the index, which is then
    not bound. -/
theorem read?_iff_written (header : String) :
    (∀ r, read? header = some r ↔
      Written (trimmed header.toList) r ∨ Stray (trimmed header.toList) r) ∧
    ∀ r r', Stray (trimmed header.toList) r → ¬ Written (trimmed header.toList) r' := by
  refine ⟨fun r => ⟨written_or_stray_of_read?, fun h => ?_⟩, fun r r' => Stray.not_written⟩
  rcases h with hwritten | hstray
  · exact read?_of_written hwritten
  · exact read?_of_stray hstray

/-- Blanks of all kinds and ampersands in a header of the grammar, and nothing at all in place of
    the index in one that is not. -/
theorem read?_iff_written_padded :
    let header := " _\t, u:= range  &&req.Users\n"
    let header' := ",u := range users"
    (Written (trimmed header.toList) ⟨none, some "u", "req.Users"⟩ ∧
      read? header = some ⟨none, some "u", "req.Users"⟩) ∧
    Stray (trimmed header'.toList) ⟨none, some "u", "users"⟩ ∧
      read? header' = some ⟨none, some "u", "users"⟩ ∧
      ∀ r, ¬ Written (trimmed header'.toList) r := by
  intro header header'
  have hwritten : Written (trimmed header.toList) ⟨none, some "u", "req.Users"⟩ := by
    have htext : trimmed header.toList = ['_'] ++ ['\t'] ++ ",".toList ++ [' '] ++
        (['u'] ++ [] ++ ":=".toList ++ [' '] ++ "range ".toList ++
          ([' '] ++ List.replicate 2 '&' ++ "req.Users".toList)) := by
      repeat rw [String.toList_ofList]
      rfl
    have hpath : Path "req.Users".toList := by
      rw [String.toList_ofList]
      decide
    rw [htext]
    exact .indexed (by decide) (by decide) (by decide)
      (.mk (by decide) gap_nil (by decide) (.mk 2 (by decide) hpath))
  have hstray : Stray (trimmed header'.toList) ⟨none, some "u", "users"⟩ := by
    have htext : trimmed header'.toList = [] ++ ",".toList ++ [] ++
        (['u'] ++ [' '] ++ ":=".toList ++ [' '] ++ "range ".toList ++ "users".toList) := by
      repeat rw [String.toList_ofList]
      rfl
    have hpath : Path "users".toList := by
      rw [String.toList_ofList]
      decide
    rw [htext]
    exact .mk (by decide) (by simp) (by decide) gap_nil
      (.mk (by decide) (by decide) (by decide) hpath.listed)
  obtain ⟨hiff, hnot⟩ := read?_iff_written header'
  exact ⟨⟨hwritten, ((read?_iff_written header).1 _).2 (.inl hwritten)⟩, hstray,
    (hiff _).2 (.inr hstray), fun r => hnot _ r hstray⟩

/-- A header whose index is a number is read, though no header of the grammar has one. -/
theorem read?_numbered_index :
    let header := "1, u := range users"
    read? header = some ⟨none, some "u", "users"⟩ ∧ ∀ r, ¬ Written (trimmed header.toList) r := by
  intro header
  have hstray : Stray (trimmed header.toList) ⟨none, some "u", "users"⟩ := by
    have htext : trimmed header.toList = ['1'] ++ ",".toList ++ [' '] ++
        (['u'] ++ [' '] ++ ":=".toList ++ [' '] ++ "range ".toList ++ "users".toList) := by
      repeat rw [String.toList_ofList]
      rfl
    have hpath : Path "users".toList := by
      rw [String.toList_ofList]
      decide
    rw [htext]
    exact .mk (by decide) (not_infix_assign (by decide)) (by decide) (by decide)
      (.mk (by decide) (by decide) (by decide) hpath.listed)
  exact ⟨read?_of_stray hstray, fun r => hstray.not_written⟩

end LoopHeader

end QueryTemplate
