import Mathlib.Data.List.Infix
import QueryTemplate.Proofs.BindOrder
import QueryTemplate.Proofs.Indentation
import QueryTemplate.Proofs.Printing
import QueryTemplate.Template

/-!
# Imports of Go source

The packages that Go statements import are collected from the instructions that they are made from.
They are right if they are the packages that the statements refer to, no more and no fewer.

A template brings texts of its own into the statements: conditions, headers of loops, and what
placeholders bind. The settings bring names, and a method may bring the type of its result. These
texts may refer to packages too. The references that do not come from them are those that are there
however they are chosen: in the statements of all programs that are alike but for their texts.

* `Package.Refers`: characters refer to a package;
* `Instr.bare`, `MethodShape.bare`: an instruction and a shape without their texts;
* `Node.hasClause`: a tree has a clause of a kind;
* `refers_of_mem_imports`: statements refer to what they import;
* `mem_imports_of_infix_bare`: without texts, they refer to nothing else;
* `imports_exact`: the imports of a template, by its tree and by the references in its statements.
-/

namespace QueryTemplate

/-! ## References -/

namespace Package

/-- The name of a package in code: the last part of its path. -/
def name (p : Package) : List Char :=
  (Text.splitChar '/' p.path.toList).getLast?.getD []

/-- What stands before the name of something that is taken from a package. -/
def qualifier (p : Package) : List Char :=
  p.name ++ ['.']

/-- The characters refer to a package: something that it exports is taken from it, and its name is
    not the end of a longer name, nor itself taken from something. -/
def Refers (p : Package) (cs : List Char) : Prop :=
  ∃ before first, Text.isIdentPart before = false ∧ before ≠ '.' ∧ first.isUpper ∧
    before :: (p.qualifier ++ [first]) <:+: cs

/-- The qualifier, spelled out. -/
def spelled : Package → List Char
  | gorm => ['g', 'o', 'r', 'm', '.']
  | clause => ['c', 'l', 'a', 'u', 's', 'e', '.']
  | regexp => ['r', 'e', 'g', 'e', 'x', 'p', '.']
  | strings => ['s', 't', 'r', 'i', 'n', 'g', 's', '.']
  | unicode => ['u', 'n', 'i', 'c', 'o', 'd', 'e', '.']

theorem qualifier_eq (p : Package) : p.qualifier = p.spelled := by
  cases p <;> rw [qualifier, name, path, String.toList_ofList] <;> rfl

theorem mem_all (p : Package) : p ∈ all := by
  cases p <;> decide

variable {p : Package} {cs cs' : List Char}

theorem Refers.mono (h : p.Refers cs) (hcs : cs <:+: cs') : p.Refers cs' := by
  obtain ⟨before, first, hbefore, hdot, hfirst, hinfix⟩ := h
  exact ⟨before, first, hbefore, hdot, hfirst, hinfix.trans hcs⟩

theorem Refers.infix_of (h : p.Refers cs) : p.qualifier <:+: cs := by
  obtain ⟨before, first, -, -, -, hinfix⟩ := h
  exact List.IsInfix.trans ⟨[before], [first], rfl⟩ hinfix

end Package

/-! ## Programs without their texts -/

/-- What a placeholder binds, without its expression. -/
def Bind.bare : Bind → Bind
  | table => table
  | raw _ => raw ""
  | value _ => value ""

/-- An instruction without its texts. -/
def Instr.bare : Instr → Instr
  | literal _ => literal ""
  | bind binds => bind (binds.map Bind.bare)
  | beginIf _ => beginIf ""
  | elseIf _ => elseIf ""
  | beginLoop _ => beginLoop ""
  | instr => instr

/-- The shape of a method without the type of its result. -/
def MethodShape.bare : MethodShape → MethodShape
  | scan _ => scan ""
  | shape => shape

namespace GoSource

/-- The statements of a program, with those that finish a method if there is one. -/
def statements (s : Settings) (p : Program) : Option MethodShape → GoSource
  | none => ofProgram s p
  | some shape => (ofProgram s p).method shape

end GoSource

open GoSource

theorem Bind.package?_bare (bind : Bind) : bind.bare.package? = bind.package? := by
  cases bind <;> rfl

theorem Instr.packages_bare (instr : Instr) : instr.bare.packages = instr.packages := by
  cases instr with
  | bind binds =>
    rw [bare, packages, packages, List.filterMap_map]
    exact List.filterMap_congr fun bind _ => Bind.package?_bare bind
  | _ => rfl

@[simp] theorem Bind.bare_bare (bind : Bind) : bind.bare.bare = bind.bare := by
  cases bind <;> rfl

@[simp] theorem Instr.bare_bare (instr : Instr) : instr.bare.bare = instr.bare := by
  cases instr with
  | bind binds => simp [bare]
  | _ => rfl

@[simp] theorem MethodShape.bare_bare (shape : MethodShape) : shape.bare.bare = shape.bare := by
  cases shape <;> rfl

theorem MethodShape.bare_eq_filter_iff {shape : MethodShape} :
    shape.bare = .filter ↔ shape = .filter := by
  cases shape <;> simp [bare]

/-! ## What is imported -/

/-- Statements import the package for building texts, and what an instruction or the method
    needs. -/
theorem mem_imports_iff {s : Settings} {program : Program} {shape : Option MethodShape}
    {p : Package} :
    p ∈ (statements s program shape).imports ↔
      p = .strings ∨ (∃ instr ∈ program.code, p ∈ instr.packages) ∨
        (shape = some .filter ∧ p = .clause) := by
  have hprogram : p ∈ (ofProgram s program).imports ↔
      p = .strings ∨ ∃ instr ∈ program.code, p ∈ instr.packages := by
    simp [ofProgram, importsOf, p.mem_all]
  cases shape with
  | none => simp [statements, hprogram]
  | some shape =>
    simp only [statements, method, needs, List.mem_filter, p.mem_all, true_and, Bool.or_eq_true,
      List.contains_iff_mem, hprogram, Bool.and_eq_true, decide_eq_true_eq, Option.some.injEq,
      or_assoc]

/-- The imports are in the order of their paths, none of them twice. -/
theorem pairwise_imports (s : Settings) (program : Program) (shape : Option MethodShape) :
    ((statements s program shape).imports.map Package.path).Pairwise (· < ·) := by
  have hall : (Package.all.map Package.path).Pairwise (· < ·) := by decide +kernel
  have hsublist : (statements s program shape).imports.Sublist Package.all := by
    cases shape with
    | none => exact List.filter_sublist
    | some shape => exact List.filter_sublist
  exact hall.sublist (hsublist.map _)

namespace Node

variable (kind : ClauseKind)

mutual

/-- Whether a node is a clause of a kind or has one below it. -/
def hasClauseOf : Node → Bool
  | text _ => false
  | clause kind' body => kind' = kind || hasClause body
  | loop _ body => hasClause body
  | cond branches none => branchHasClause branches
  | cond branches (some body) => branchHasClause branches || hasClause body

/-- Whether there is a clause of a kind among nodes or below them. -/
def hasClause : List Node → Bool
  | [] => false
  | node :: nodes => hasClauseOf node || hasClause nodes

/-- Whether there is a clause of a kind below branches. -/
def branchHasClause : List Branch → Bool
  | [] => false
  | .mk _ body :: branches => hasClause body || branchHasClause branches

end

mutual

theorem endClause_mem_ofNode :
    (node : Node) → (.endClause kind ∈ Instr.ofNode node ↔ hasClauseOf kind node)
  | .text fragment => by
    rw [Instr.ofNode, hasClauseOf]
    split <;> simp
  | .clause kind' body => by
    have hkind : kind' = kind ↔ kind = kind' := eq_comm
    simp [Instr.ofNode, hasClauseOf, endClause_mem_ofNodes body, hkind, or_comm]
  | .loop header body => by
    simp [Instr.ofNode, hasClauseOf, endClause_mem_ofNodes body]
  | .cond branches none => by
    simp [Instr.ofNode, hasClauseOf, endClause_mem_ofBranches branches]
  | .cond branches (some body) => by
    have hbody := endClause_mem_ofNodes body
    cases body with
    | nil => simp [Instr.ofNode, hasClauseOf, endClause_mem_ofBranches branches, hasClause]
    | cons node body =>
      simp [Instr.ofNode, hasClauseOf, endClause_mem_ofBranches branches, hbody]

/-- A clause is closed in the instructions of nodes exactly if there is one among them or below. -/
theorem endClause_mem_ofNodes :
    (nodes : List Node) → (.endClause kind ∈ Instr.ofNodes nodes ↔ hasClause kind nodes)
  | [] => by simp [Instr.ofNodes, hasClause]
  | node :: nodes => by
    simp [Instr.ofNodes, hasClause, endClause_mem_ofNode node, endClause_mem_ofNodes nodes]

theorem endClause_mem_ofBranches :
    (branches : List Branch) → {first : Bool} →
      (.endClause kind ∈ Instr.ofBranches first branches ↔ branchHasClause kind branches)
  | [], _ => by simp [Instr.ofBranches, branchHasClause]
  | .mk condition body :: branches, first => by
    have hstart : (if first then Instr.beginIf condition else .elseIf condition) ≠
        .endClause kind := by
      cases first <;> simp
    simp [Instr.ofBranches, branchHasClause, endClause_mem_ofNodes body,
      endClause_mem_ofBranches branches, hstart.symm]

end

end Node

/-- What the tree of a template, and a method made from it, need of a package. -/
def Package.Needed (nodes : List Node) (shape : Option MethodShape) : Package → Prop
  | strings => True
  | clause => .table ∈ Node.binds nodes ∨ shape = some .filter
  | gorm => ∃ expr, .raw expr ∈ Node.binds nodes
  | regexp => Node.hasClause .conditions nodes
  | unicode => ∃ kind, Node.hasClause kind nodes

theorem Bind.package?_eq_some_iff {b : Bind} {p : Package} :
    b.package? = some p ↔ (p = .clause ∧ b = .table) ∨ (p = .gorm ∧ ∃ expr, b = .raw expr) := by
  cases b <;> simp [package?, eq_comm]

theorem Instr.mem_packages_iff {instr : Instr} {p : Package} :
    p ∈ instr.packages ↔ (∃ b ∈ instr.binds, b.package? = some p) ∨
      (p = .regexp ∧ instr = .endClause .conditions) ∨
      (p = .unicode ∧ ∃ kind, instr = .endClause kind) := by
  cases instr with
  | bind binds => simp [packages, Instr.binds]
  | endClause kind => cases kind <;> simp [packages, Instr.binds]
  | _ => simp [packages, Instr.binds]

/-- The instructions of a tree need the packages that the tree needs. -/
theorem needed_iff {nodes : List Node} {shape : Option MethodShape} {p : Package} :
    p.Needed nodes shape ↔ p = .strings ∨ (∃ instr ∈ Instr.ofNodes nodes, p ∈ instr.packages) ∨
      (shape = some .filter ∧ p = .clause) := by
  have hbinds : (∃ instr ∈ Instr.ofNodes nodes, ∃ b ∈ instr.binds, b.package? = some p) ↔
      ∃ b ∈ Node.binds nodes, b.package? = some p := by
    simp only [← Instr.binds_ofNodes nodes, List.mem_flatMap]
    exact ⟨fun ⟨instr, hinstr, b, hb, hp⟩ => ⟨b, ⟨instr, hinstr, hb⟩, hp⟩,
      fun ⟨b, ⟨instr, hinstr, hb⟩, hp⟩ => ⟨instr, hinstr, b, hb, hp⟩⟩
  have hends : ∀ kind, (∃ instr ∈ Instr.ofNodes nodes, instr = .endClause kind) ↔
      Node.hasClause kind nodes := by
    intro kind
    rw [← Node.endClause_mem_ofNodes kind nodes]
    simp
  have hpackages : (∃ instr ∈ Instr.ofNodes nodes, p ∈ instr.packages) ↔
      (∃ b ∈ Node.binds nodes, b.package? = some p) ∨
      (p = .regexp ∧ Node.hasClause .conditions nodes) ∨
      (p = .unicode ∧ ∃ kind, Node.hasClause kind nodes) := by
    rw [← hbinds]
    simp only [← hends, Instr.mem_packages_iff]
    grind
  rw [hpackages]
  simp only [Bind.package?_eq_some_iff]
  cases p <;> simp [Package.Needed]

/-! ## References to what is imported -/

namespace Text

variable {q a b cs : List Char} {c : Char}

theorem infix_of_cons (hq : q ≠ []) (hc : c ∉ q) (h : q <:+: c :: b) : q <:+: b := by
  rcases infix_or_of_not_mem (a := []) hc h with hnil | hb
  · exact absurd (List.infix_nil.1 hnil) hq
  · exact hb

theorem infix_of_replicate {n : Nat} (hq : q ≠ []) (hc : c ∉ q)
    (h : q <:+: List.replicate n c ++ b) : q <:+: b := by
  induction n with
  | zero => exact h
  | succ n ih => exact ih (infix_of_cons hq hc h)

/-- What ends in no blank stays when blanks are taken off the end. -/
theorem infix_dropBlanksEnd (hc : isBlank c = false) (h : q ++ [c] <:+: cs) :
    q ++ [c] <:+: dropBlanksEnd cs := by
  rw [← List.reverse_infix, List.reverse_append] at h
  have hdrop := infix_dropWhile hc h
  rw [← List.reverse_infix] at hdrop
  simpa [dropBlanksEnd] using hdrop

end Text

namespace Package

variable {p : Package} {cs : List Char}

theorem refers_of_start (before first : Char) (front : List Char)
    (h : front ++ before :: (p.spelled ++ [first]) <+: cs)
    (hbefore : Text.isIdentPart before = false := by decide) (hdot : before ≠ '.' := by decide)
    (hfirst : first.isUpper := by decide) : p.Refers cs := by
  rw [← qualifier_eq] at h
  exact ⟨before, first, hbefore, hdot, hfirst, (List.suffix_append _ _).isInfix.trans h.isInfix⟩

/-- No reference ends in a blank. -/
theorem Refers.dropBlanksEnd (h : p.Refers cs) : p.Refers (Text.dropBlanksEnd cs) := by
  obtain ⟨before, first, hbefore, hdot, hfirst, hinfix⟩ := h
  have hblank : Text.isBlank first = false := by
    refine Bool.eq_false_iff.2 fun hblank => ?_
    have hupper := Text.forall_of_blanks (p := fun c => !c.isUpper) (by decide) hblank
    rw [hfirst] at hupper
    cases hupper
  rw [← List.cons_append] at hinfix
  exact ⟨before, first, hbefore, hdot, hfirst, Text.infix_dropBlanksEnd hblank hinfix⟩

end Package

theorem infix_layOut {line : Line} {lines : List Line} (h : line ∈ lines) (depth : Nat) :
    line.text.toList <:+: (Line.layOut depth lines).toList := by
  induction lines generalizing depth with
  | nil => cases h
  | cons first lines ih =>
    rw [Line.layOut, String.toList_append]
    rcases List.mem_cons.1 h with rfl | h
    · rw [Line.indented, String.toList_append, String.toList_append]
      exact ((List.infix_append _ _ _).trans (List.prefix_append _ _).isInfix)
    · exact (ih h _).trans (List.suffix_append _ _).isInfix

theorem exists_sinks_of_mem (s : Settings) {code : List Instr} {instr : Instr} (h : instr ∈ code)
    (sinks : List Sink) : ∃ sinks', instrLines s sinks' instr ⊆ linesOf s sinks code := by
  induction code generalizing sinks with
  | nil => cases h
  | cons first code ih =>
    rw [linesOf]
    rcases List.mem_cons.1 h with rfl | h
    · exact ⟨sinks, List.subset_append_left _ _⟩
    · obtain ⟨sinks', hsubset⟩ := ih h (sinksAfter s sinks first)
      exact ⟨sinks', List.Subset.trans hsubset (List.subset_append_right _ _)⟩

/-- An expression among others, with the blank before it. -/
theorem infix_intercalate {x : String} {xs : List String} (h : x ∈ xs) :
    ' ' :: x.toList <:+: ' ' :: (", ".intercalate xs).toList := by
  induction xs with
  | nil => cases h
  | cons first xs ih =>
    cases xs with
    | nil =>
      rw [List.mem_singleton.1 h, String.intercalate_singleton]
    | cons second xs =>
      rw [String.intercalate_cons_cons, String.toList_append, String.toList_append]
      rcases List.mem_cons.1 h with rfl | h
      · exact ⟨[], ", ".toList ++ (", ".intercalate (second :: xs)).toList, by simp⟩
      · exact (ih h).trans (List.IsSuffix.isInfix ⟨' ' :: first.toList ++ [','], by simp⟩)

/-- An expression that is bound refers to the package that it needs. -/
theorem refers_bindExpr {b : Bind} {p : Package} (h : b.package? = some p) :
    p.Refers (' ' :: (bindExpr b).toList) := by
  rcases Bind.package?_eq_some_iff.1 h with ⟨rfl, rfl⟩ | ⟨rfl, expr, rfl⟩
  · refine Package.refers_of_start ' ' 'T' [] ?_
    rw [bindExpr, String.toList_ofList]
    exact ⟨_, rfl⟩
  · have hpiece : Package.gorm.Refers (' ' :: "gorm.Expr(".toList) := by
      refine Package.refers_of_start ' ' 'E' [] ?_
      rw [String.toList_ofList]
      exact ⟨_, rfl⟩
    refine hpiece.mono (List.IsPrefix.isInfix ⟨(expr ++ ")").toList, ?_⟩)
    simp only [bindExpr, String.toList_append, List.append_assoc, List.cons_append]

/-- The lines of an instruction refer to what it needs. -/
theorem refers_instrLines (s : Settings) (sinks : List Sink) {instr : Instr} {p : Package}
    (h : p ∈ instr.packages) : ∃ line ∈ instrLines s sinks instr, p.Refers line.text.toList := by
  rcases Instr.mem_packages_iff.1 h with ⟨b, hb, hp⟩ | ⟨rfl, rfl⟩ | ⟨rfl, kind, rfl⟩
  · cases instr with
    | bind binds =>
      rw [Instr.binds] at hb
      refine ⟨_, List.mem_singleton_self _, (refers_bindExpr hp).mono ?_⟩
      refine (infix_intercalate (List.mem_map_of_mem hb)).trans ?_
      let params := (current s sinks).params.toList
      exact ⟨params ++ " = append(".toList ++ params ++ [','], [')'], by simp [params]⟩
    | _ => cases hb
  · refine ⟨{ text := "reTrim := regexp.MustCompile(`" ++ connectivePattern ++ "`)" }, ?_, ?_⟩
    · simp [instrLines, endClauseLines, cleanLines]
    · have hpiece : Package.regexp.Refers "reTrim := regexp.MustCompile(`".toList := by
        refine Package.refers_of_start ' ' 'M' "reTrim :=".toList ?_
        rw [String.toList_ofList, String.toList_ofList]
        exact ⟨_, rfl⟩
      refine hpiece.mono (List.IsPrefix.isInfix ?_)
      simp only [String.toList_append, List.append_assoc, List.prefix_append]
  · let outer := (current s sinks.tail).buffer
    let piece := ".Len(); n > 0 && !unicode.IsSpace(rune("
    have hpiece : Package.unicode.Refers piece.toList := by
      refine Package.refers_of_start '!' 'I' ".Len(); n > 0 && ".toList ?_
      rw [String.toList_ofList, String.toList_ofList]
      exact ⟨_, rfl⟩
    refine ⟨.opening ("if n := " ++ outer ++ piece ++ outer ++ ".String()[n-1])) \x7b"), ?_, ?_⟩
    · simp [instrLines, endClauseLines, outer, piece]
    · refine hpiece.mono
        ⟨("if n := " ++ outer).toList, (outer ++ ".String()[n-1])) \x7b").toList, ?_⟩
      simp only [Line.opening, String.toList_append, List.append_assoc]

/-- What adds a condition to a chain refers to the package of clauses. -/
theorem refers_tail (sink : Sink) : Package.clause.Refers (tail sink .filter).toList := by
  have hpiece : Package.clause.Refers "e.Where(clause.Expr\x7bSQL: ".toList := by
    refine Package.refers_of_start '(' 'E' "e.Where".toList ?_
    rw [String.toList_ofList, String.toList_ofList]
    exact ⟨_, rfl⟩
  have htail : tail sink .filter = "e.Where(clause.Expr\x7bSQL: " ++ sink.buffer ++
      ".String(), Vars: " ++ sink.params ++ "\x7d)\n\nreturn e" := rfl
  refine hpiece.mono (List.IsPrefix.isInfix ?_)
  simp only [htail, String.toList_append, List.append_assoc, List.prefix_append]

/-- Statements refer to every package that they import. -/
theorem refers_of_mem_imports {s : Settings} {program : Program} {shape : Option MethodShape}
    {p : Package} (h : p ∈ (statements s program shape).imports) :
    p.Refers (statements s program shape).body.toList := by
  have hprogram : (p = .strings ∨ ∃ instr ∈ program.code, p ∈ instr.packages) →
      p.Refers (ofProgram s program).body.toList := by
    rintro (rfl | ⟨instr, hinstr, hp⟩)
    · have hpiece : Package.strings.Refers " strings.Builder".toList := by
        refine Package.refers_of_start ' ' 'B' [] ?_
        rw [String.toList_ofList]
        exact ⟨_, rfl⟩
      have hline : { text := "var " ++ s.bufferVar ++ " strings.Builder" } ∈
          declarations s program.capacity ++ linesOf s [s.root] program.code := by
        simp [declarations]
      refine (hpiece.mono ?_).mono (infix_layOut hline 0)
      exact ⟨("var " ++ s.bufferVar).toList, [], by simp⟩
    · obtain ⟨sinks, hsubset⟩ := exists_sinks_of_mem s hinstr [s.root]
      obtain ⟨line, hline, hrefers⟩ := refers_instrLines s sinks hp
      exact hrefers.mono (infix_layOut (List.mem_append_right _ (hsubset hline)) 0)
  rw [mem_imports_iff, ← or_assoc] at h
  cases shape with
  | none =>
    rcases h with hp | ⟨hshape, -⟩
    · exact hprogram hp
    · cases hshape
  | some shape =>
    rw [statements, method, Text.trimEnd]
    simp only [String.toList_append, String.toList_ofList]
    rcases h with hp | ⟨hshape, rfl⟩
    · refine (hprogram hp).dropBlanksEnd.mono (List.IsPrefix.isInfix ?_)
      simp only [List.append_assoc, List.prefix_append]
    · cases hshape
      exact (refers_tail _).mono (List.infix_append _ _ _)

/-! ## References without texts -/

/-- Settings in which the variables have no names of their own. -/
def Settings.bare : Settings :=
  { bufferVar := "", paramsVar := "Params", scratchVar := "" }

/-- A program without its texts. -/
def Program.bare (program : Program) : Program :=
  { program with code := program.code.map Instr.bare }

/-- The characters of a text but for its digits. -/
def undigited (s : String) : List Char :=
  s.toList.filter fun c => !c.isDigit

@[simp] theorem undigited_append (s t : String) :
    undigited (s ++ t) = undigited s ++ undigited t := by
  rw [undigited, String.toList_append, List.filter_append]
  rfl

/-- For a literal, which is made from a list of characters, this gives the list at once. -/
theorem undigited_ofList (cs : List Char) :
    undigited (.ofList cs) = cs.filter fun c => !c.isDigit := by
  rw [undigited, String.toList_ofList]

theorem undigited_repr (n : Nat) : undigited n.repr = [] := by
  rw [Nat.repr_eq_ofList_toDigits, undigited_ofList]
  simpa using fun c => Nat.isDigit_of_mem_toDigits (b := 10) (n := n) (c := c) (by decide)

namespace Package

/-- The packages whose qualifiers occur in characters. -/
def found (cs : List Char) : List Package :=
  all.filter fun p => Text.occurs p.spelled cs

variable {p : Package}

theorem qualifier_ne_nil (p : Package) : p.qualifier ≠ [] := by
  simp [qualifier]

theorem not_mem_qualifier (p : Package) : ∀ c ∈ ['\n', '\t', ' ', ',', ')'], c ∉ p.qualifier := by
  rw [qualifier_eq]
  cases p <;> simp [spelled]

/-- Digits do not matter for the packages that a text has the qualifiers of. -/
theorem mem_found {s : String} (h : p.qualifier <:+: s.toList) : p ∈ found (undigited s) := by
  have hspelled : (p.spelled.filter fun c => !c.isDigit) = p.spelled := by
    cases p <;> decide
  rw [qualifier_eq] at h
  have hinfix : p.spelled <:+: undigited s := hspelled ▸ h.filter _
  have hne : p.spelled ≠ [] := p.qualifier_eq ▸ p.qualifier_ne_nil
  refine List.mem_filter.2 ⟨p.mem_all, ?_⟩
  rw [Text.occurs, Option.isSome_iff_ne_none, Ne, Text.splitOnce_eq_none_iff hne]
  exact not_not_intro hinfix

end Package

/-- Variables with the same names but for digits. -/
def Sink.Alike (sink sink' : Sink) : Prop :=
  undigited sink.buffer = undigited sink'.buffer ∧ undigited sink.params = undigited sink'.params

/-- Variables without names of their own, up to digits. -/
def Sink.Plain (sink : Sink) : Prop :=
  sink.Alike { params := "Params" }

theorem plain_root : Settings.bare.root.Plain :=
  ⟨rfl, rfl⟩

theorem plain_scratch (depth : Nat) : (Settings.bare.scratch depth).Plain := by
  obtain ⟨hbuffer, hparams⟩ := toList_scratch .bare depth
  have hsuffix : ((suffix depth).filter fun c => !c.isDigit) = [] := by
    simpa using fun c => isDigit_of_mem_suffix
  constructor
  · rw [undigited, hbuffer, List.filter_append, hsuffix]
    rfl
  · rw [undigited, hparams, List.filter_append, List.filter_append, hsuffix]
    rfl

theorem plain_sinksAfter {sinks : List Sink} (h : ∀ sink ∈ sinks, sink.Plain) (instr : Instr) :
    ∀ sink ∈ sinksAfter .bare sinks instr, sink.Plain := by
  intro sink hsink
  cases instr with
  | beginClause =>
    rcases List.mem_cons.1 hsink with rfl | hsink
    · exact plain_scratch _
    · exact h sink hsink
  | endClause => exact h sink (List.mem_of_mem_tail hsink)
  | _ => exact h sink hsink

theorem plain_current {sinks : List Sink} (h : ∀ sink ∈ sinks, sink.Plain) :
    (current .bare sinks).Plain := by
  cases sinks with
  | nil => exact plain_root
  | cons sink sinks => exact h sink List.mem_cons_self

/-- The texts of lines, but for digits. -/
def texts (lines : List Line) : List (List Char) :=
  lines.map fun line => undigited line.text

theorem texts_beginClauseLines {scratch scratch' : Sink} (h : scratch.Alike scratch') :
    texts (beginClauseLines scratch) = texts (beginClauseLines scratch') := by
  simp [texts, beginClauseLines, h.1, h.2]

theorem texts_endClauseLines {scratch scratch' outer outer' : Sink} (h : scratch.Alike scratch')
    (h' : outer.Alike outer') (kind : ClauseKind) :
    texts (endClauseLines kind scratch outer) = texts (endClauseLines kind scratch' outer') := by
  simp [texts, endClauseLines, Line.opening, h.1, h.2, h'.1, h'.2]

/-- The lines that open a clause have one qualifier. -/
theorem found_beginClauseLines {scratch : Sink} (h : scratch.Plain) {cs : List Char}
    (hcs : cs ∈ texts (beginClauseLines scratch)) : ∀ p ∈ Package.found cs, p = .strings := by
  rw [texts_beginClauseLines h] at hcs
  have hplain : ∀ cs ∈ texts (beginClauseLines { params := "Params" }),
      ∀ p ∈ Package.found cs, p = .strings := by
    simp only [texts, beginClauseLines, Line.opening, List.map_cons, List.map_nil,
      undigited_append]
    repeat rw [undigited_ofList]
    decide
  exact hplain cs hcs

/-- The lines that close a clause have no qualifiers but those of packages imported for it. -/
theorem found_endClauseLines {scratch outer : Sink} (h : scratch = {} ∨ scratch.Plain)
    (h' : outer.Plain) (kind : ClauseKind) {cs : List Char}
    (hcs : cs ∈ texts (endClauseLines kind scratch outer)) :
    ∀ p ∈ Package.found cs, p = .strings ∨ p ∈ (Instr.endClause kind).packages := by
  have hplain : ∀ scratch ∈ [({} : Sink), { params := "Params" }],
      ∀ cs ∈ texts (endClauseLines kind scratch { params := "Params" }),
        ∀ p ∈ Package.found cs, p = .strings ∨ p ∈ (Instr.endClause kind).packages := by
    simp only [List.forall_mem_cons, texts, endClauseLines, Line.opening, Line.closing,
      List.map_cons, List.map_append, List.map_nil, undigited_append]
    cases kind with
    | conditions =>
      simp only [cleanLines, connectivePattern, List.map_cons, List.map_nil, undigited_append]
      repeat rw [undigited_ofList]
      decide
    | assignments =>
      simp only [cleanLines, List.map_cons, List.map_nil]
      repeat rw [undigited_ofList]
      decide
  rcases h with rfl | h
  · rw [texts_endClauseLines ⟨rfl, rfl⟩ h'] at hcs
    exact hplain {} (by decide) cs hcs
  · rw [texts_endClauseLines h h'] at hcs
    exact hplain { params := "Params" } (by decide) cs hcs

/-- Among expressions that are joined, a qualifier lies within one of them. -/
theorem exists_of_infix_intercalate {p : Package} {xs : List String}
    (h : p.qualifier <:+: (", ".intercalate xs).toList) : ∃ x ∈ xs, p.qualifier <:+: x.toList := by
  have hblank : ' ' ∉ p.qualifier := p.not_mem_qualifier ' ' (by decide)
  have hcomma : ',' ∉ p.qualifier := p.not_mem_qualifier ',' (by decide)
  induction xs with
  | nil => exact absurd (List.infix_nil.1 h) p.qualifier_ne_nil
  | cons x xs ih =>
    cases xs with
    | nil => exact ⟨x, List.mem_cons_self, by rwa [String.intercalate_singleton] at h⟩
    | cons y ys =>
      have hlist : (", ".intercalate (x :: y :: ys)).toList =
          x.toList ++ ',' :: ' ' :: (", ".intercalate (y :: ys)).toList := by
        simp
      rw [hlist] at h
      rcases Text.infix_or_of_not_mem hcomma h with hx | hrest
      · exact ⟨x, List.mem_cons_self, hx⟩
      · obtain ⟨z, hz, hinfix⟩ := ih (Text.infix_of_cons p.qualifier_ne_nil hblank hrest)
        exact ⟨z, List.mem_cons_of_mem _ hz, hinfix⟩

theorem found_bindExpr (b : Bind) :
    ∀ p ∈ Package.found (undigited (bindExpr b.bare)), b.package? = some p := by
  have hplain : ∀ b ∈ [Bind.table, .raw "", .value ""],
      ∀ p ∈ Package.found (undigited (bindExpr b)), b.package? = some p := by
    simp only [List.forall_mem_cons, bindExpr, undigited_append]
    repeat rw [undigited_ofList]
    decide
  rw [← Bind.package?_bare]
  exact hplain b.bare (by cases b <;> simp [Bind.bare])

/-- Without texts, what is bound has no qualifier but that of the package imported for it. -/
theorem mem_packages_of_infix_bind {sink : Sink} (hsink : sink.Plain) {binds : List Bind}
    {p : Package}
    (h : p.qualifier <:+: (sink.params ++ " = append(" ++ sink.params ++ ", " ++
      ", ".intercalate ((binds.map Bind.bare).map bindExpr) ++ ")").toList) :
    p ∈ (Instr.bind binds).packages := by
  let front := sink.params ++ " = append(" ++ sink.params ++ ","
  let exprs := ", ".intercalate ((binds.map Bind.bare).map bindExpr)
  have htext : p.qualifier <:+: front.toList ++ ' ' :: (exprs.toList ++ ')' :: []) := by
    simpa [front, exprs] using h
  rcases Text.infix_or_of_not_mem (p.not_mem_qualifier ' ' (by decide)) htext with hfront | hrest
  · -- The names have no qualifier in them.
    have hfound := Package.mem_found hfront
    simp only [front, undigited_append, hsink.2] at hfound
    have hnone : Package.found (undigited "Params" ++ undigited " = append(" ++
        undigited "Params" ++ undigited ",") = [] := by
      repeat rw [undigited_ofList]
      decide
    rw [hnone] at hfound
    cases hfound
  · rcases Text.infix_or_of_not_mem (p.not_mem_qualifier ')' (by decide)) hrest with hexprs | hnil
    · obtain ⟨x, hx, hinfix⟩ := exists_of_infix_intercalate hexprs
      obtain ⟨b', hb', rfl⟩ := List.mem_map.1 hx
      obtain ⟨b, hb, rfl⟩ := List.mem_map.1 hb'
      exact List.mem_filterMap.2 ⟨b, hb, found_bindExpr b p (Package.mem_found hinfix)⟩
    · exact absurd (List.infix_nil.1 hnil) p.qualifier_ne_nil

/-- Without texts, the lines of an instruction have no qualifiers but those of packages imported
    for it. -/
theorem mem_packages_of_infix {sinks : List Sink} (hsinks : ∀ sink ∈ sinks, sink.Plain)
    {instr : Instr} {line : Line} (hline : line ∈ instrLines .bare sinks instr.bare) {p : Package}
    (h : p.qualifier <:+: line.text.toList) : p = .strings ∨ p ∈ instr.packages := by
  have hfound := Package.mem_found h
  have htext : undigited line.text ∈ texts (instrLines .bare sinks instr.bare) :=
    List.mem_map_of_mem hline
  cases instr with
  | literal => cases hline
  | bind binds =>
    rw [List.mem_singleton.1 hline] at h
    exact .inr (mem_packages_of_infix_bind (plain_current hsinks) h)
  | beginClause kind => exact .inl (found_beginClauseLines (plain_scratch _) htext p hfound)
  | endClause kind =>
    refine found_endClauseLines ?_ (plain_current fun sink hsink => hsinks sink
      (List.mem_of_mem_tail hsink)) kind htext p hfound
    cases sinks with
    | nil => exact .inl rfl
    | cons sink sinks => exact .inr (hsinks sink List.mem_cons_self)
  | beginIf | elseIf | otherwise | endIf | beginLoop | endLoop =>
    -- There is no dot in such a line.
    have hdot : '.' ∈ line.text.toList := h.subset (by simp [Package.qualifier])
    rw [List.mem_singleton.1 hline] at hdot
    simp [Line.opening, Line.between, Line.closing] at hdot

theorem mem_packages_of_infix_linesOf {code : List Instr} {sinks : List Sink}
    (hsinks : ∀ sink ∈ sinks, sink.Plain) {line : Line}
    (hline : line ∈ linesOf .bare sinks (code.map Instr.bare)) {p : Package}
    (h : p.qualifier <:+: line.text.toList) :
    p = .strings ∨ ∃ instr ∈ code, p ∈ instr.packages := by
  induction code generalizing sinks with
  | nil => cases hline
  | cons instr code ih =>
    rw [List.map_cons, linesOf] at hline
    rcases List.mem_append.1 hline with hline | hline
    · rcases mem_packages_of_infix hsinks hline h with hp | hp
      · exact .inl hp
      · exact .inr ⟨instr, List.mem_cons_self, hp⟩
    · rcases ih (plain_sinksAfter hsinks instr.bare) hline with hp | ⟨later, hlater, hp⟩
      · exact .inl hp
      · exact .inr ⟨later, List.mem_cons_of_mem _ hlater, hp⟩

/-- A qualifier in a text that is laid out lies within a line. -/
theorem exists_line_of_infix {p : Package} {lines : List Line} {depth : Nat}
    (h : p.qualifier <:+: (Line.layOut depth lines).toList) :
    ∃ line ∈ lines, p.qualifier <:+: line.text.toList := by
  induction lines generalizing depth with
  | nil => exact absurd (List.infix_nil.1 h) p.qualifier_ne_nil
  | cons line lines ih =>
    have htext : (Line.layOut depth (line :: lines)).toList =
        (List.replicate (line.depth depth) '\t' ++ line.text.toList) ++
          '\n' :: (Line.layOut (line.innerDepth depth) lines).toList := by
      simp [Line.layOut, Line.indented]
    rw [htext] at h
    rcases Text.infix_or_of_not_mem (p.not_mem_qualifier '\n' (by decide)) h with h | h
    · refine ⟨line, List.mem_cons_self, ?_⟩
      exact Text.infix_of_replicate p.qualifier_ne_nil (p.not_mem_qualifier '\t' (by decide)) h
    · obtain ⟨line', hline', hinfix⟩ := ih h
      exact ⟨line', List.mem_cons_of_mem _ hline', hinfix⟩

/-- The declarations of a query have one qualifier. -/
theorem eq_strings_of_infix_declarations {capacity : Nat} {line : Line}
    (hline : line ∈ declarations .bare capacity) {p : Package}
    (h : p.qualifier <:+: line.text.toList) : p = .strings := by
  have htexts : texts (declarations .bare capacity) = texts (declarations .bare 0) := by
    simp [texts, declarations, undigited_repr]
  have hplain : ∀ cs ∈ texts (declarations .bare 0), ∀ p ∈ Package.found cs, p = .strings := by
    simp only [texts, declarations, Settings.bare, List.map_cons, List.map_nil, undigited_append]
    repeat rw [undigited_ofList]
    decide
  exact hplain _ (htexts ▸ List.mem_map_of_mem hline) p (Package.mem_found h)

/-- Without its type, what finishes a method has no qualifier but that of the package imported
    for it. -/
theorem eq_clause_of_infix_tail {shape : MethodShape} {p : Package}
    (h : p.qualifier <:+: (tail Settings.bare.root shape.bare).toList) :
    shape = .filter ∧ p = .clause := by
  have hplain : ∀ shape ∈ [MethodShape.exec, .scan "", .filter, .select],
      ∀ p ∈ Package.found (undigited (tail Settings.bare.root shape)),
        shape = .filter ∧ p = .clause := by
    delta tail
    simp only [List.forall_mem_cons, undigited_append]
    repeat rw [undigited_ofList]
    decide
  rw [← MethodShape.bare_eq_filter_iff]
  exact hplain shape.bare (by cases shape <;> simp [MethodShape.bare]) p (Package.mem_found h)

/-- Without texts, statements have no qualifiers but those of packages that they import. -/
theorem mem_imports_of_infix_bare {s : Settings} {program : Program} {shape : Option MethodShape}
    {p : Package}
    (h : p.qualifier <:+:
      (statements .bare program.bare (shape.map MethodShape.bare)).body.toList) :
    p ∈ (statements s program shape).imports := by
  have hprogram : p.qualifier <:+: (ofProgram .bare program.bare).body.toList →
      p = .strings ∨ ∃ instr ∈ program.code, p ∈ instr.packages := by
    intro h
    obtain ⟨line, hline, hinfix⟩ := exists_line_of_infix h
    rcases List.mem_append.1 hline with hline | hline
    · exact .inl (eq_strings_of_infix_declarations hline hinfix)
    · exact mem_packages_of_infix_linesOf (by simp [plain_root]) hline hinfix
  rw [mem_imports_iff, ← or_assoc]
  cases shape with
  | none => exact .inl (hprogram h)
  | some shape =>
    have hbreak : '\n' ∉ p.qualifier := p.not_mem_qualifier '\n' (by decide)
    let front := Text.dropBlanksEnd (ofProgram .bare program.bare).body.toList
    have hbody : p.qualifier <:+: front ++
        '\n' :: ((tail Settings.bare.root shape.bare).toList ++ '\n' :: []) := by
      simpa [statements, method, Text.trimEnd, front, ofProgram] using h
    rcases Text.infix_or_of_not_mem hbreak hbody with hfront | hrest
    · exact .inl (hprogram (hfront.trans (Text.prefix_dropBlanksEnd _).isInfix))
    · rcases Text.infix_or_of_not_mem hbreak hrest with htail | hnil
      · obtain ⟨rfl, hp⟩ := eq_clause_of_infix_tail htail
        exact .inr ⟨rfl, hp⟩
      · exact absurd (List.infix_nil.1 hnil) p.qualifier_ne_nil

/-- Programs that are alike but for their texts, for methods that are, import the same. -/
theorem mem_imports_of_bare_eq {s s' : Settings} {program program' : Program}
    {shape shape' : Option MethodShape}
    (hcode : program'.code.map Instr.bare = program.code.map Instr.bare)
    (hshape : shape'.map MethodShape.bare = shape.map MethodShape.bare) {p : Package}
    (h : p ∈ (statements s program shape).imports) :
    p ∈ (statements s' program' shape').imports := by
  rw [mem_imports_iff] at h ⊢
  rcases h with hp | ⟨instr, hinstr, hp⟩ | ⟨rfl, hp⟩
  · exact .inl hp
  · have hmem : instr.bare ∈ program'.code.map Instr.bare := hcode ▸ List.mem_map_of_mem hinstr
    obtain ⟨instr', hinstr', heq⟩ := List.mem_map.1 hmem
    refine .inr (.inl ⟨instr', hinstr', ?_⟩)
    rwa [← Instr.packages_bare, heq, Instr.packages_bare]
  · obtain ⟨shape, rfl, hfilter⟩ := Option.map_eq_some_iff.1 hshape
    exact .inr (.inr ⟨congrArg some (MethodShape.bare_eq_filter_iff.1 hfilter), hp⟩)

/-- The imports of the statements made from a template, alone or in a method, are in the order of
    their paths, none of them twice. They are the packages that its tree and the method need, and
    they are the packages that the statements refer to whatever their texts are. -/
theorem imports_exact {source : String} {settings : Settings} {t : Template}
    (h : Template.compile source settings = .ok t) (shape : Option MethodShape) {g : GoSource}
    (hg : shape.elim t.toGo t.toGoMethod = g) :
    (g.imports.map Package.path).Pairwise (· < ·) ∧
      (∀ p, p ∈ g.imports ↔ p.Needed t.nodes shape) ∧
      ∀ p, p ∈ g.imports ↔ ∀ (s : Settings) (program : Program) (shape' : Option MethodShape),
        program.code.map Instr.bare = t.program.code.map Instr.bare →
        shape'.map MethodShape.bare = shape.map MethodShape.bare →
          p.Refers (statements s program shape').body.toList := by
  have hstatements : g = statements t.settings t.program shape := by
    cases shape <;> exact hg.symm
  have hcode : t.program.code = Instr.ofNodes t.nodes := by
    obtain ⟨nodes, -, h⟩ := Except.exists_of_bind h
    obtain rfl := Except.ok.inj h
    rfl
  rw [hstatements]
  refine ⟨pairwise_imports .., fun p => ?_, fun p => ⟨fun hp s program shape' hcode' hshape' => ?_,
    fun hrefers => ?_⟩⟩
  · rw [mem_imports_iff, needed_iff, hcode]
  · exact refers_of_mem_imports (mem_imports_of_bare_eq hcode' hshape' hp)
  · have hbare : t.program.bare.code.map Instr.bare = t.program.code.map Instr.bare := by
      simp [Program.bare]
    refine mem_imports_of_infix_bare (hrefers .bare t.program.bare _ hbare ?_).infix_of
    cases shape <;> simp

/-- A condition that refers to a package by itself, around a placeholder for a table and one for a
    raw text. -/
theorem imports_exact_cond :
    let source := "\x7b\x7bif unicode.IsUpper(c)\x7d\x7d@@table\x7b\x7belse\x7d\x7d@@col" ++
      "\x7b\x7bend\x7d\x7d"
    ∃ t, Template.compile source = .ok t ∧
      t.toGo.imports.map Package.path = ["gorm.io/gorm", "gorm.io/gorm/clause", "strings"] ∧
      (∀ p ∈ [Package.gorm, .clause, .strings], p.Refers t.toGo.body.toList) ∧
      ¬ Package.unicode.Needed t.nodes none := by
  intro source
  have himports :
      (match Template.compile source with
        | .ok t => t.toGo.imports == [Package.gorm, .clause, .strings]
        | .error _ => false) = true := by decide +kernel
  cases ht : Template.compile source with
  | error e =>
    rw [ht] at himports
    cases himports
  | ok t =>
    rw [ht] at himports
    have heq : t.toGo.imports = [Package.gorm, .clause, .strings] := by simpa using himports
    obtain ⟨-, hneeded, hrefers⟩ := imports_exact ht none rfl
    refine ⟨t, rfl, by rw [heq]; decide, fun p hp => ?_, ?_⟩
    · exact (hrefers p).1 (heq ▸ hp) t.settings t.program none rfl rfl
    · rw [← hneeded]
      exact heq ▸ by decide

end QueryTemplate
