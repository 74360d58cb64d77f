import Mathlib.Data.List.Basic
import QueryTemplate.Proofs.Evaluation
import QueryTemplate.Target.GoSource

/-!
# Go source of trees

The Go statements of a template tree have the structure of the tree. What a node prints depends on
the node, on its indentation, which is one tab for each block around it, and on how many clauses
are around it: these decide in which variables its SQL and its parameters are collected.

The statements are made from the instructions of the tree one by one, and laid out with a count of
the open blocks. Over the instructions of a whole node, the count and the variables that collect
come back to what they were.

* `GoSource.printNodes`: the statements of nodes, by recursion on the tree;
* `Prints`: what is printed for a piece of code, and where that leads;
* `scratchNames_nodup`: the names of the variables of nested clauses are distinct;
* `ofProgram_body`: the statements of a tree are what its nodes print.
-/

namespace QueryTemplate

namespace Line

/-- The depth of the lines after some lines. -/
def depthAfter (depth : Nat) (lines : List Line) : Nat :=
  lines.foldl innerDepth depth

theorem layOut_append (depth : Nat) (lines more : List Line) :
    layOut depth (lines ++ more) = layOut depth lines ++ layOut (depthAfter depth lines) more := by
  induction lines generalizing depth with
  | nil => rw [List.nil_append, layOut, String.empty_append]; rfl
  | cons line lines ih =>
    rw [List.cons_append, layOut, layOut, ih, String.append_assoc]
    rfl

theorem depthAfter_append (depth : Nat) (lines more : List Line) :
    depthAfter depth (lines ++ more) = depthAfter (depthAfter depth lines) more :=
  List.foldl_append

end Line

namespace GoSource

/-! ## Printing trees -/

/-- The variables that collect inside of `depth` clauses. -/
def sinkAt (s : Settings) : Nat → Sink
  | 0 => s.root
  | depth + 1 => s.scratch (depth + 1)

/-- Lines as text, each with how much deeper it is than `indent`. -/
def printLines (indent : Nat) : List (Nat × String) → String
  | [] => ""
  | (more, text) :: lines => Line.indented (indent + more) text ++ printLines indent lines

/-- What cleans a clause in the variable `c`. -/
def cleaning : ClauseKind → List (Nat × String)
  | .conditions =>
    [(0, "reTrim := regexp.MustCompile(`" ++ connectivePattern ++ "`)"),
      (0, "c = strings.TrimSpace(reTrim.ReplaceAllString(c, \"\"))")]
  | .assignments => [(0, "c = strings.TrimSpace(strings.TrimSuffix(c, \",\"))")]

/-- What splices a clause collected in `scratch` into `outer`. -/
def splicing (kind : ClauseKind) (scratch outer : Sink) : List (Nat × String) :=
  (0, "c := strings.TrimSpace(" ++ scratch.buffer ++ ".String())") :: (cleaning kind ++
    [(0, "if c != \"\" \x7b"),
      (1, "if n := " ++ outer.buffer ++ ".Len(); n > 0 && !unicode.IsSpace(rune(" ++
        outer.buffer ++ ".String()[n-1])) \x7b"),
      (2, outer.buffer ++ ".WriteString(\" \")"),
      (1, "\x7d"),
      (1, outer.buffer ++ ".WriteString(" ++ goQuoted kind.head ++ ")"),
      (1, outer.buffer ++ ".WriteString(c)"),
      (1, outer.params ++ " = append(" ++ outer.params ++ ", " ++ scratch.params ++ "...)"),
      (0, "\x7d")])

mutual

/-- What a node prints at an indentation, inside of `depth` clauses. -/
def printNode (s : Settings) (indent depth : Nat) : Node → String
  | .text fragment =>
    let sql := unescape fragment.sql
    let sink := sinkAt s depth
    (if sql.isEmpty then ""
      else Line.indented indent (sink.buffer ++ ".WriteString(" ++ goQuoted sql ++ ")")) ++
    (if fragment.binds.isEmpty then ""
      else Line.indented indent (sink.params ++ " = append(" ++ sink.params ++ ", " ++
        ", ".intercalate (fragment.binds.map bindExpr) ++ ")"))
  | .clause kind body =>
    let scratch := sinkAt s (depth + 1)
    printLines indent [(0, "\x7b"), (1, "var " ++ scratch.buffer ++ " strings.Builder"),
      (1, "var " ++ scratch.params ++ " []any")] ++
    printNodes s (indent + 1) (depth + 1) body ++
    printLines (indent + 1) (splicing kind scratch (sinkAt s depth)) ++
    Line.indented indent "\x7d"
  | .loop header body =>
    Line.indented indent ("for " ++ header ++ " \x7b") ++
    printNodes s (indent + 1) depth body ++ Line.indented indent "\x7d"
  | .cond branches none =>
    printBranches s indent depth true branches ++ Line.indented indent "\x7d"
  | .cond branches (some body) =>
    printBranches s indent depth true branches ++
    (if body.isEmpty then ""
      else Line.indented indent "\x7d else \x7b" ++ printNodes s (indent + 1) depth body) ++
    Line.indented indent "\x7d"

/-- What nodes print at an indentation, inside of `depth` clauses. -/
def printNodes (s : Settings) (indent depth : Nat) : List Node → String
  | [] => ""
  | node :: nodes => printNode s indent depth node ++ printNodes s indent depth nodes

/-- What branches print at an indentation, inside of `depth` clauses; `first` says that none
    comes before them. -/
def printBranches (s : Settings) (indent depth : Nat) (first : Bool) : List Branch → String
  | [] => ""
  | .mk condition body :: branches =>
    Line.indented indent ((if first then "if " else "\x7d else if ") ++ condition ++ " \x7b") ++
    printNodes s (indent + 1) depth body ++ printBranches s indent depth false branches

end

/-! ## Names of variables -/

/-- What the names of the variables of a clause end with, `depth` clauses deep. -/
def suffix (depth : Nat) : List Char :=
  if depth ≤ 1 then [] else Nat.toDigits 10 depth

theorem toList_scratch (s : Settings) (depth : Nat) :
    (s.scratch depth).buffer.toList = s.scratchVar.toList ++ suffix depth ∧
      (s.scratch depth).params.toList =
        s.scratchVar.toList ++ ("Params".toList ++ suffix depth) := by
  have hsuffix : (if depth ≤ 1 then "" else toString depth).toList = suffix depth := by
    rw [suffix]
    split
    · rfl
    · rw [Nat.toString_eq_repr, Nat.repr_eq_ofList_toDigits, String.toList_ofList]
  refine ⟨?_, ?_⟩
  · rw [Settings.scratch, String.toList_append, hsuffix]
  · rw [Settings.scratch, String.toList_append, String.toList_append, hsuffix, List.append_assoc]

theorem isDigit_of_mem_suffix {depth : Nat} {c : Char} (h : c ∈ suffix depth) : c.isDigit := by
  rw [suffix] at h
  split at h
  · cases h
  · exact Nat.isDigit_of_mem_toDigits (b := 10) (by decide) (by decide) h

theorem suffix_succ_inj {m n : Nat} (h : suffix (m + 1) = suffix (n + 1)) : m = n := by
  rw [suffix, suffix] at h
  split at h <;> split at h
  · omega
  · exact absurd h.symm Nat.toDigits_ne_nil
  · exact absurd h Nat.toDigits_ne_nil
  · have hread := congrArg (Nat.ofDigitChars 10 · 0) h
    rw [Nat.ofDigitChars_ten_toDigits, Nat.ofDigitChars_ten_toDigits] at hread
    exact Nat.succ_inj.1 hread

theorem scratch_buffer_ne_params (s : Settings) (m n : Nat) :
    (s.scratch m).buffer ≠ (s.scratch n).params := by
  intro h
  have hlist := congrArg String.toList h
  rw [(toList_scratch s m).1, (toList_scratch s n).2, List.append_cancel_left_eq] at hlist
  -- a suffix would begin with a letter
  have hmem : 'P' ∈ suffix m := hlist ▸ .head _
  exact absurd (isDigit_of_mem_suffix hmem) (by decide)

theorem scratch_buffer_inj {s : Settings} {m n : Nat}
    (h : (s.scratch (m + 1)).buffer = (s.scratch (n + 1)).buffer) : m = n := by
  have hlist := congrArg String.toList h
  rw [(toList_scratch s _).1, (toList_scratch s _).1, List.append_cancel_left_eq] at hlist
  exact suffix_succ_inj hlist

theorem scratch_params_inj {s : Settings} {m n : Nat}
    (h : (s.scratch (m + 1)).params = (s.scratch (n + 1)).params) : m = n := by
  have hlist := congrArg String.toList h
  rw [(toList_scratch s _).2, (toList_scratch s _).2, List.append_cancel_left_eq,
    List.append_cancel_left_eq] at hlist
  exact suffix_succ_inj hlist

/-- The names of the variables of the clauses around a place, `depth` clauses deep. -/
def scratchNames (s : Settings) (depth : Nat) : List String :=
  (List.range depth).flatMap fun i => [(s.scratch (i + 1)).buffer, (s.scratch (i + 1)).params]

theorem scratchNames_nodup (s : Settings) (depth : Nat) : (scratchNames s depth).Nodup := by
  rw [List.nodup_iff_pairwise_ne, scratchNames, List.pairwise_flatMap]
  refine ⟨fun i _ => List.pairwise_pair.2 (scratch_buffer_ne_params s _ _), ?_⟩
  refine List.nodup_range.imp ?_
  intro i j hne name hi name' hj heq
  subst heq
  rcases List.mem_pair.1 hi with hi | hi <;> rcases List.mem_pair.1 hj with hj | hj
  · exact hne (scratch_buffer_inj (hi.symm.trans hj))
  · exact scratch_buffer_ne_params s _ _ (hi.symm.trans hj)
  · exact scratch_buffer_ne_params s _ _ (hj.symm.trans hi)
  · exact hne (scratch_params_inj (hi.symm.trans hj))

/-! ## Printing instructions -/

variable {s : Settings}

/-- The variables that collect inside of `depth` clauses and around these, the innermost first. -/
def sinksAt (s : Settings) : Nat → List Sink
  | 0 => [s.root]
  | depth + 1 => s.scratch (depth + 1) :: sinksAt s depth

theorem length_sinksAt (depth : Nat) : (sinksAt s depth).length = depth + 1 := by
  induction depth with
  | zero => rfl
  | succ depth ih => rw [sinksAt, List.length_cons, ih]

theorem current_sinksAt (depth : Nat) : current s (sinksAt s depth) = sinkAt s depth := by
  cases depth with
  | zero => rfl
  | succ depth => rfl

/-- What collects after instructions. -/
def sinksAfterAll (s : Settings) (sinks : List Sink) (code : List Instr) : List Sink :=
  code.foldl (sinksAfter s) sinks

theorem linesOf_append (sinks : List Sink) (code more : List Instr) :
    linesOf s sinks (code ++ more) =
      linesOf s sinks code ++ linesOf s (sinksAfterAll s sinks code) more := by
  induction code generalizing sinks with
  | nil => rfl
  | cons instr code ih =>
    rw [List.cons_append, linesOf, linesOf, ih, List.append_assoc]
    rfl

/-- From an indentation and the variables that collect, the code prints a text and leads to an
    indentation and variables that collect. -/
structure Prints (s : Settings) (code : List Instr) (indent indent' : Nat)
    (sinks sinks' : List Sink) (text : String) : Prop where
  text_eq : Line.layOut indent (linesOf s sinks code) = text
  indent_eq : Line.depthAfter indent (linesOf s sinks code) = indent'
  sinks_eq : sinksAfterAll s sinks code = sinks'

namespace Prints

variable {code more : List Instr} {instr : Instr} {indent indent₁ indent₂ : Nat}
  {sinks sinks₁ sinks₂ : List Sink} {text text' : String}

theorem nil : Prints s [] indent indent sinks sinks "" :=
  ⟨rfl, rfl, rfl⟩

theorem append (h : Prints s code indent indent₁ sinks sinks₁ text)
    (h' : Prints s more indent₁ indent₂ sinks₁ sinks₂ text') :
    Prints s (code ++ more) indent indent₂ sinks sinks₂ (text ++ text') where
  text_eq := by
    rw [linesOf_append, Line.layOut_append, h.sinks_eq, h.indent_eq, h.text_eq, h'.text_eq]
  indent_eq := by
    rw [linesOf_append, Line.depthAfter_append, h.sinks_eq, h.indent_eq, h'.indent_eq]
  sinks_eq := by
    rw [sinksAfterAll, List.foldl_append]
    exact (congrArg (sinksAfterAll s · more) h.sinks_eq).trans h'.sinks_eq

/-- An instruction of one line that does not change what collects. -/
theorem single (line : Line) (hline : instrLines s sinks instr = [line])
    (hsinks : sinksAfter s sinks instr = sinks) :
    Prints s [instr] indent (line.innerDepth indent) sinks sinks
      (Line.indented (line.depth indent) line.text) := by
  refine ⟨?_, ?_, hsinks⟩
  · rw [linesOf, hline, linesOf, List.append_nil, Line.layOut, Line.layOut, String.append_empty]
  · rw [linesOf, hline, linesOf, List.append_nil]
    rfl

theorem opens {header : String} (hline : instrLines s sinks instr = [.opening header])
    (hsinks : sinksAfter s sinks instr = sinks) :
    Prints s [instr] indent (indent + 1) sinks sinks (Line.indented indent header) :=
  single _ hline hsinks

theorem continues {header : String} (hline : instrLines s sinks instr = [.between header])
    (hsinks : sinksAfter s sinks instr = sinks) :
    Prints s [instr] (indent + 1) (indent + 1) sinks sinks (Line.indented indent header) :=
  single _ hline hsinks

theorem closes (hline : instrLines s sinks instr = [.closing])
    (hsinks : sinksAfter s sinks instr = sinks) :
    Prints s [instr] (indent + 1) indent sinks sinks (Line.indented indent "\x7d") :=
  single _ hline hsinks

/-- The code in a block prints one deeper than the lines that open and close the block. -/
theorem enclose {opening closing : Instr} {text₁ text₂ : String}
    (hopen : Prints s [opening] indent (indent + 1) sinks sinks₁ text₁)
    (hcode : Prints s code (indent + 1) (indent + 1) sinks₁ sinks₁ text)
    (hclose : Prints s [closing] (indent + 1) indent sinks₁ sinks text₂) :
    Prints s (opening :: (code ++ [closing])) indent indent sinks sinks
      (text₁ ++ text ++ text₂) := by
  rw [String.append_assoc]
  exact hopen.append (hcode.append hclose)

theorem literal (sql : String) :
    Prints s [.literal sql] indent indent sinks sinks
      (if sql.isEmpty then ""
        else Line.indented indent
          ((current s sinks).buffer ++ ".WriteString(" ++ goQuoted sql ++ ")")) := by
  by_cases hsql : sql.isEmpty
  · rw [if_pos hsql]
    have hlines : linesOf s sinks [.literal sql] = [] := by
      rw [linesOf, instrLines, if_pos hsql]
      rfl
    exact ⟨by rw [hlines]; rfl, by rw [hlines]; rfl, rfl⟩
  · rw [if_neg hsql]
    have hline : instrLines s sinks (.literal sql) =
        [{ text := (current s sinks).buffer ++ ".WriteString(" ++ goQuoted sql ++ ")" }] := by
      rw [instrLines, if_neg hsql]
    exact single _ hline rfl

theorem bind (binds : List Bind) :
    Prints s [.bind binds] indent indent sinks sinks
      (Line.indented indent ((current s sinks).params ++ " = append(" ++
        (current s sinks).params ++ ", " ++ ", ".intercalate (binds.map bindExpr) ++ ")")) :=
  single { text := _ } rfl rfl

theorem beginClause (kind : ClauseKind) (depth : Nat) :
    Prints s [.beginClause kind] indent (indent + 1) (sinksAt s depth) (sinksAt s (depth + 1))
      (printLines indent [(0, "\x7b"),
        (1, "var " ++ (sinkAt s (depth + 1)).buffer ++ " strings.Builder"),
        (1, "var " ++ (sinkAt s (depth + 1)).params ++ " []any")]) := by
  have hlines : linesOf s (sinksAt s depth) [.beginClause kind] =
      beginClauseLines (sinkAt s (depth + 1)) := by
    rw [linesOf, instrLines, length_sinksAt]
    rfl
  refine ⟨by rw [hlines]; rfl, by rw [hlines]; rfl, ?_⟩
  rw [sinksAt, ← length_sinksAt]
  rfl

theorem endClause (kind : ClauseKind) (depth : Nat) :
    Prints s [.endClause kind] (indent + 1) indent (sinksAt s (depth + 1)) (sinksAt s depth)
      (printLines (indent + 1) (splicing kind (sinkAt s (depth + 1)) (sinkAt s depth)) ++
        Line.indented indent "\x7d") := by
  have hlines : linesOf s (sinksAt s (depth + 1)) [.endClause kind] =
      endClauseLines kind (sinkAt s (depth + 1)) (sinkAt s depth) := by
    rw [linesOf, instrLines, linesOf, List.append_nil, sinksAt, List.tail_cons, current_sinksAt]
    rfl
  refine ⟨?_, ?_, rfl⟩
  · -- the count of open blocks is one more than `indent` up to the last line
    rw [hlines]
    cases kind <;>
      simp only [splicing, cleaning, endClauseLines, cleanLines, List.cons_append, List.nil_append,
        printLines, Line.layOut, String.append_assoc, String.append_empty] <;> rfl
  · rw [hlines]
    cases kind with
    | conditions => rfl
    | assignments => rfl

end Prints

mutual

theorem prints_ofNode (s : Settings) :
    (node : Node) → Node.ProperOf node → (indent depth : Nat) →
      Prints s (Instr.ofNode node) indent indent (sinksAt s depth) (sinksAt s depth)
        (printNode s indent depth node)
  | .text fragment, _, indent, depth => by
    rw [Instr.ofNode, printNode, ← current_sinksAt]
    by_cases hbinds : fragment.binds.isEmpty
    · rw [if_pos hbinds, if_pos hbinds, String.append_empty]
      exact .literal _
    · rw [if_neg hbinds, if_neg hbinds]
      exact .append (.literal _) (.bind _)
  | .clause kind body, hproper, indent, depth => by
    have hbody := prints_ofNodes s body hproper (indent + 1) (depth + 1)
    have hprints := Prints.enclose (.beginClause kind depth) hbody (.endClause kind depth)
    rwa [← String.append_assoc] at hprints
  | .loop header body, hproper, indent, depth =>
    .enclose (.opens rfl rfl) (prints_ofNodes s body hproper (indent + 1) depth) (.closes rfl rfl)
  | .cond branches none, ⟨hne, hbranches⟩, indent, depth =>
    (prints_ofBranches s branches hne hbranches indent depth).append (.closes rfl rfl)
  | .cond branches (some last), ⟨hne, hbranches, hlast⟩, indent, depth => by
    rw [Instr.ofNode, printNode, String.append_assoc]
    refine (prints_ofBranches s branches hne hbranches indent depth).append ?_
    refine .append ?_ (.closes rfl rfl)
    by_cases hempty : last.isEmpty
    · rw [if_pos hempty, if_pos hempty]
      exact .nil
    · rw [if_neg hempty, if_neg hempty]
      exact .append (.continues rfl rfl) (prints_ofNodes s last hlast (indent + 1) depth)

theorem prints_ofNodes (s : Settings) :
    (nodes : List Node) → Node.Proper nodes → (indent depth : Nat) →
      Prints s (Instr.ofNodes nodes) indent indent (sinksAt s depth) (sinksAt s depth)
        (printNodes s indent depth nodes)
  | [], _, _, _ => .nil
  | node :: nodes, ⟨hnode, hnodes⟩, indent, depth =>
    (prints_ofNode s node hnode indent depth).append (prints_ofNodes s nodes hnodes indent depth)

/-- The branches of a conditional lead into the last one. -/
theorem prints_ofBranches (s : Settings) :
    (branches : List Branch) → branches ≠ [] → Node.ProperBranches branches →
      (indent depth : Nat) →
      Prints s (Instr.ofBranches true branches) indent (indent + 1) (sinksAt s depth)
        (sinksAt s depth) (printBranches s indent depth true branches)
  | [], hne, _, _, _ => absurd rfl hne
  | .mk _ body :: branches, _, ⟨hbody, hbranches⟩, indent, depth => by
    rw [printBranches, String.append_assoc]
    exact .append (.opens rfl rfl) ((prints_ofNodes s body hbody (indent + 1) depth).append
      (prints_ofLater s branches hbranches indent depth))

/-- The branches of a conditional after the first lead from one branch into the last one. -/
theorem prints_ofLater (s : Settings) :
    (branches : List Branch) → Node.ProperBranches branches → (indent depth : Nat) →
      Prints s (Instr.ofBranches false branches) (indent + 1) (indent + 1) (sinksAt s depth)
        (sinksAt s depth) (printBranches s indent depth false branches)
  | [], _, _, _ => .nil
  | .mk _ body :: branches, ⟨hbody, hbranches⟩, indent, depth => by
    rw [printBranches, String.append_assoc]
    exact .append (.continues rfl rfl) ((prints_ofNodes s body hbody (indent + 1) depth).append
      (prints_ofLater s branches hbranches indent depth))

end

/-! ## The statements of a tree -/

/-- The statements of a tree in which every conditional has a branch declare the variables of the
    query, and after a blank line they are what the nodes print without indentation and outside of
    clauses. At the end all blocks are closed, and only the variables of the query collect. The
    variables of the clauses around a place have distinct names. -/
theorem ofProgram_body (s : Settings) (nodes : List Node) (h : Node.Proper nodes) :
    let p := Program.ofNodes s.loopMultiplier nodes
    (ofProgram s p).body =
        printLines 0 [(0, "var " ++ s.bufferVar ++ " strings.Builder"),
          (0, s.paramsVar ++ " := make([]any, 0, " ++ toString p.capacity ++ ")"), (0, "")] ++
        printNodes s 0 0 nodes ∧
      Line.depthAfter 0 (declarations s p.capacity ++ linesOf s [s.root] p.code) = 0 ∧
      sinksAfterAll s [s.root] p.code = [s.root] ∧
      ∀ depth, (scratchNames s depth).Nodup := by
  intro p
  have hprints := prints_ofNodes s nodes h 0 0
  have hdeclared : Line.depthAfter 0 (declarations s p.capacity) = 0 := rfl
  refine ⟨?_, ?_, hprints.sinks_eq, scratchNames_nodup s⟩
  · have hbody := Line.layOut_append 0 (declarations s p.capacity) (linesOf s [s.root] p.code)
    rw [hdeclared] at hbody
    exact hbody.trans (congrArg (_ ++ ·) hprints.text_eq)
  · rw [Line.depthAfter_append, hdeclared]
    exact hprints.indent_eq

/-- A clause within the second branch of a conditional within a clause. -/
theorem ofProgram_body_nested :
    let nodes : List Node :=
      [.clause .conditions [.cond [.mk "a" [.text ⟨"x = 1", [], 1⟩],
        .mk "b" [.clause .assignments [.text ⟨"y = ?,", [.value "y"], 2⟩]]] none]]
    Node.Proper nodes ∧
      (ofProgram {} (Program.ofNodes 4 nodes)).body =
        "var sb strings.Builder\nparams := make([]any, 0, 1)\n\n" ++
          "\x7b\n\tvar tmp strings.Builder\n\tvar tmpParams []any\n" ++
          "\tif a \x7b\n\t\ttmp.WriteString(\"x = 1\")\n" ++
          "\t\x7d else if b \x7b\n" ++
          "\t\t\x7b\n\t\t\tvar tmp2 strings.Builder\n\t\t\tvar tmpParams2 []any\n" ++
          "\t\t\ttmp2.WriteString(\"y = ?,\")\n\t\t\ttmpParams2 = append(tmpParams2, y)\n" ++
          printLines 3 (splicing .assignments ⟨"tmp2", "tmpParams2"⟩ ⟨"tmp", "tmpParams"⟩) ++
          "\t\t\x7d\n\t\x7d\n" ++
          printLines 1 (splicing .conditions ⟨"tmp", "tmpParams"⟩ ⟨"sb", "params"⟩) ++
          "\x7d\n" := by
  intro nodes
  have h : Node.Proper nodes := by
    simp [nodes, Node.Proper, Node.ProperOf, Node.ProperBranches]
  refine ⟨h, (ofProgram_body {} nodes h).1.trans ?_⟩
  decide +kernel

end GoSource

end QueryTemplate
