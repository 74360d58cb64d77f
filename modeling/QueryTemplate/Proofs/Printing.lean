import QueryTemplate.Proofs.Grammar
import QueryTemplate.Proofs.Joining

/-!
# Printed trees

A tree can be written as a template again: a text with its placeholders put back, and a
block between its directives, which are written in one way, with one blank inside each
pair of braces. The template reads as the tree that it was written from.

* `Directive.text`: the one spelling of a directive that is written;
* `fill`, `Node.print`: SQL with its placeholders put back, and the template of a tree;
* `Builder.print_of_addAll`: what is built from the tokens of a line prints as the tokens;
* `Token.ofLine_written`: printed tokens are read as tokens of the same kinds, with the
  same texts and directives;
* `ofTemplate_print`: the printed tree of a template has the tree that was printed.
-/

namespace QueryTemplate

namespace Text

/-! ## Texts without blanks at their ends -/

/-- There is no blank at either end of the characters. -/
def Bare (cs : List Char) : Prop :=
  startsBlank cs = false ∧ cs.getLast?.any isBlank = false

theorem dropBlanks_of_not_startsBlank {cs : List Char} (h : startsBlank cs = false) :
    dropBlanks cs = cs := by
  cases cs with
  | nil => rfl
  | cons c cs => exact List.dropWhile_cons_of_neg (by simpa [startsBlank] using h)

theorem dropBlanksEnd_of_bare {cs : List Char} (h : cs.getLast?.any isBlank = false) :
    dropBlanksEnd cs = cs := by
  have hreverse : startsBlank cs.reverse = false := by rwa [startsBlank, List.head?_reverse]
  have hdrop := dropBlanks_of_not_startsBlank hreverse
  rw [dropBlanks] at hdrop
  rw [dropBlanksEnd, hdrop, List.reverse_reverse]

theorem Bare.trimmed {cs : List Char} (h : Bare cs) : trimmed cs = cs := by
  rw [Text.trimmed, dropBlanks_of_not_startsBlank h.1, dropBlanksEnd_of_bare h.2]

theorem startsBlank_dropBlanks (cs : List Char) : startsBlank (dropBlanks cs) = false := by
  rw [startsBlank, dropBlanks]
  cases h : (cs.dropWhile isBlank).head? with
  | none => rfl
  | some c => simpa [h] using List.head?_dropWhile_not isBlank cs

theorem prefix_dropBlanksEnd (cs : List Char) : dropBlanksEnd cs <+: cs := by
  have hsuffix := List.dropWhile_suffix isBlank (l := cs.reverse)
  rwa [← List.reverse_prefix, List.reverse_reverse] at hsuffix

theorem bare_trimmed (cs : List Char) : Bare (trimmed cs) := by
  constructor
  · -- What is left begins as it did before the end was taken off.
    have hstart := startsBlank_dropBlanks cs
    obtain ⟨rest, hrest⟩ := prefix_dropBlanksEnd (dropBlanks cs)
    rw [← hrest, startsBlank, List.head?_append] at hstart
    rw [startsBlank, trimmed]
    cases h : (dropBlanksEnd (dropBlanks cs)).head? with
    | none => rfl
    | some c => simpa [h] using hstart
  · have hend := startsBlank_dropBlanks (dropBlanks cs).reverse
    rwa [startsBlank, ← List.getLast?_reverse] at hend

theorem infix_trimmed (cs : List Char) : trimmed cs <:+: cs :=
  (prefix_dropBlanksEnd (dropBlanks cs)).isInfix.trans (List.dropWhile_suffix isBlank).isInfix

theorem trimmed_padded {cs : List Char} (h : Bare cs) : trimmed (' ' :: (cs ++ [' '])) = cs := by
  have hstart : dropBlanks (' ' :: (cs ++ [' '])) = dropBlanks (cs ++ [' ']) := rfl
  have hend : dropBlanksEnd (cs ++ [' ']) = dropBlanksEnd cs := by
    rw [dropBlanksEnd, List.reverse_concat]
    rfl
  cases cs with
  | nil => rfl
  | cons c cs =>
    have hfirst : startsBlank (c :: cs ++ [' ']) = false := h.1
    rw [trimmed, hstart, dropBlanks_of_not_startsBlank hfirst, hend, dropBlanksEnd_of_bare h.2]

/-- An occurrence of two equal characters lies on one side of another character. -/
theorem infix_append_cons {a c : Char} (hc : c ≠ a) {left right : List Char}
    (h : [a, a] <:+: left ++ c :: right) : [a, a] <:+: left ∨ [a, a] <:+: right := by
  induction left with
  | nil =>
    rcases List.infix_cons_iff.1 h with hstart | h
    · exact absurd (List.cons_prefix_cons.1 hstart).1.symm hc
    · exact .inr h
  | cons d left ih =>
    rcases List.infix_cons_iff.1 h with hstart | h
    · obtain ⟨rfl, hnext⟩ := List.cons_prefix_cons.1 hstart
      cases left with
      | nil => exact absurd (List.cons_prefix_cons.1 hnext).1.symm hc
      | cons e left =>
        obtain ⟨rfl, _⟩ := List.cons_prefix_cons.1 hnext
        exact .inl (List.prefix_append [a, a] left).isInfix
    · exact (ih h).imp_left fun h => List.infix_cons_iff.2 (.inr h)

end Text

open Text

/-! ## Printing -/

namespace Directive

/-- The keywords of a directive, one blank apart. -/
def words : Directive → String
  | clause kind => kind.keyword
  | loop _ => "for"
  | cond _ => "if"
  | elseCond _ => "else if"
  | otherwise => "else"
  | close => "end"

/-- What follows the keywords of a directive, if anything has to. -/
def operand? : Directive → Option String
  | loop header => some header
  | cond condition | elseCond condition => some condition
  | clause _ | otherwise | close => none

/-- The spelling of a directive with one blank between its parts. -/
def text (d : Directive) : String :=
  match d.operand? with
  | some operand => d.words ++ " " ++ operand
  | none => d.words

/-- A directive between its braces, one blank apart from them. -/
def written (d : Directive) : List Char :=
  Token.opening ++ (' ' :: (d.text.toList ++ ' ' :: Token.closing))

end Directive

/-- SQL with its question marks replaced by the placeholders, from left to right. -/
def fill : List Char → List Bind → List Char
  | [], _ => []
  | c :: cs, [] => c :: fill cs []
  | c :: cs, b :: binds =>
    if c = '?' then b.text.toList ++ fill cs binds else c :: fill cs (b :: binds)

namespace Node

mutual

/-- A node as it is written in a template. -/
def printOf : Node → List Char
  | text fragment => fill fragment.sql.toList fragment.binds
  | clause kind body =>
    (Directive.clause kind).written ++ (print body ++ Directive.close.written)
  | loop header body =>
    (Directive.loop header).written ++ (print body ++ Directive.close.written)
  | cond branches none => printBranches true branches ++ Directive.close.written
  | cond branches (some body) =>
    printBranches true branches ++
      (Directive.otherwise.written ++ (print body ++ Directive.close.written))

/-- Nodes as they are written in a template. -/
def print : List Node → List Char
  | [] => []
  | node :: nodes => printOf node ++ print nodes

/-- The branches of a conditional as they are written in a template; `first` says that none
    comes before them. -/
def printBranches (first : Bool) : List Branch → List Char
  | [] => []
  | .mk condition body :: branches =>
    (if first then Directive.cond condition else Directive.elseCond condition).written ++
      (print body ++ printBranches false branches)

end

mutual

theorem printOf_unplacedOf : (node : Node) → printOf (unplacedOf node) = printOf node
  | .text _ => rfl
  | .clause kind body => by rw [unplacedOf, printOf, printOf, print_unplaced body]
  | .loop header body => by rw [unplacedOf, printOf, printOf, print_unplaced body]
  | .cond branches none => by
    rw [unplacedOf, printOf, printOf, printBranches_unplacedBranches true branches]
  | .cond branches (some body) => by
    rw [unplacedOf, printOf, printOf, printBranches_unplacedBranches true branches,
      print_unplaced body]

/-- Places are not printed. -/
theorem print_unplaced : (nodes : List Node) → print (unplaced nodes) = print nodes
  | [] => rfl
  | node :: nodes => by
    rw [unplaced, print, print, printOf_unplacedOf node, print_unplaced nodes]

theorem printBranches_unplacedBranches :
    (first : Bool) → (branches : List Branch) →
      printBranches first (unplacedBranches branches) = printBranches first branches
  | _, [] => rfl
  | first, .mk condition body :: branches => by
    rw [unplacedBranches, printBranches, printBranches, print_unplaced body,
      printBranches_unplacedBranches false branches]

end

theorem print_append (nodes more : List Node) :
    print (nodes ++ more) = print nodes ++ print more := by
  induction nodes with
  | nil => rfl
  | cons node nodes ih => rw [List.cons_append, print, print, ih, List.append_assoc]

theorem print_singleton (node : Node) : print [node] = printOf node := by
  rw [print, print, List.append_nil]

/-- The branch that comes last is an `else if` unless it is the only one. -/
theorem printBranches_concat (first : Bool) (branches : List Branch) (condition : String)
    (body : List Node) :
    printBranches first (branches ++ [.mk condition body]) =
      printBranches first branches ++
        ((if first && branches.isEmpty then Directive.cond condition
          else Directive.elseCond condition).written ++ print body) := by
  induction branches generalizing first with
  | nil => simp [printBranches]
  | cons branch branches ih =>
    obtain ⟨condition', body'⟩ := branch
    rw [List.cons_append, printBranches, ih, printBranches]
    simp

end Node

/-! ## Texts filled again -/

theorem fill_cons {c : Char} (h : c ≠ '?') (cs : List Char) (binds : List Bind) :
    fill (c :: cs) binds = c :: fill cs binds := by
  cases binds with
  | nil => rfl
  | cons b binds => exact if_neg h

theorem fill_pieces {pieces : List Piece} (h : .char '?' ∉ pieces) :
    fill (pieces.flatMap Piece.sql) (pieces.filterMap Piece.bind?) = pieces.flatMap Piece.text := by
  induction pieces with
  | nil => rfl
  | cons piece pieces ih =>
    rw [List.mem_cons, not_or] at h
    rw [List.flatMap_cons, List.flatMap_cons, ← ih h.2]
    cases piece with
    | char c => exact fill_cons (by rintro rfl; exact h.1 rfl) _ _
    | escape =>
      exact (fill_cons (by decide) _ _).trans (congrArg _ (fill_cons (by decide) _ _))
    | bind b => exact if_pos rfl

/-- The SQL of a text without question marks, filled again, is the text. -/
theorem fill_extract {text : String} (h : '?' ∉ text.toList) :
    fill (extract text).sql.toList (extract text).binds = text.toList := by
  rw [extract, String.toList_ofList, fill_pieces fun hmem => h (Piece.mem_of_char_mem_scan hmem),
    Piece.flatMap_text_scan]

/-- Where no text comes before, a literal is printed as it was. -/
theorem print_addLiteral {nodes : List Node} {token : Token}
    (hnodes : ∀ front fragment, nodes ≠ front ++ [.text fragment])
    (hstart : token.lineStart = false) (hmarker : '?' ∉ token.text.toList) :
    Node.print (Phrase.addLiteral nodes token) = Node.print nodes ++ token.text.toList := by
  rw [Phrase.addLiteral_of_inner hstart]
  split
  · next hempty => rw [String.isEmpty_iff.1 hempty, String.toList_empty, List.append_nil]
  · rw [Builder.addText_of_ne hnodes, Node.print_append, Node.print_singleton, Node.printOf,
      fill_extract hmarker]

/-! ## Builders -/

namespace OpenBlock

/-- An open block as it is written in a template, up to where it is read. -/
def print : OpenBlock → List Char
  | clause kind body => (Directive.clause kind).written ++ Node.print body
  | loop header body => (Directive.loop header).written ++ Node.print body
  | cond branches condition body => Node.printBranches true (branches ++ [.mk condition body])
  | otherwise branches body =>
    Node.printBranches true branches ++ (Directive.otherwise.written ++ Node.print body)

theorem printOf_close (block : OpenBlock) :
    Node.printOf block.close = block.print ++ Directive.close.written := by
  cases block <;> simp [close, print, Node.printOf]

theorem print_elseCond (branches : List Branch) (before condition : String) (body : List Node) :
    (cond (branches ++ [.mk before body]) condition []).print =
      (cond branches before body).print ++ (Directive.elseCond condition).written := by
  rw [print, Node.printBranches_concat, Node.print, List.append_nil]
  simp [print]

/-- The body comes last in what is printed of an open block. -/
theorem exists_print_withBody (block : OpenBlock) :
    ∃ front, ∀ nodes, (block.withBody nodes).print = front ++ Node.print nodes := by
  cases block with
  | clause kind body => exact ⟨_, fun _ => rfl⟩
  | loop header body => exact ⟨_, fun _ => rfl⟩
  | cond branches condition body =>
    exact ⟨_, fun nodes =>
      (Node.printBranches_concat true branches condition nodes).trans (List.append_assoc ..).symm⟩
  | otherwise branches body => exact ⟨_, fun nodes => (List.append_assoc ..).symm⟩

end OpenBlock

namespace Builder

/-- What is built as it is written in a template, up to where it is read. -/
def print (b : Builder) : List Char :=
  Node.print b.root ++ b.frames.reverse.flatMap (·.block.print)

theorem print_push (root : List Node) (frame : OpenFrame) (frames : List OpenFrame) :
    print ⟨root, frame :: frames⟩ = print ⟨root, frames⟩ ++ frame.block.print := by
  simp [print]

theorem exists_print_withBody (b : Builder) :
    ∃ front, ∀ nodes, (b.withBody nodes).print = front ++ Node.print nodes := by
  obtain ⟨root, frames⟩ := b
  cases frames with
  | nil => exact ⟨[], fun nodes => List.append_nil _⟩
  | cons frame frames =>
    obtain ⟨front, hfront⟩ := frame.block.exists_print_withBody
    refine ⟨print ⟨root, frames⟩ ++ front, fun nodes => ?_⟩
    rw [withBody, print_push, hfront, List.append_assoc]

/-- What is printed of other nodes at the end is printed at the end. -/
theorem print_withBody {b : Builder} {nodes : List Node} {more : List Char}
    (h : Node.print nodes = Node.print b.body ++ more) :
    (b.withBody nodes).print = b.print ++ more := by
  obtain ⟨front, hfront⟩ := b.exists_print_withBody
  have hb := hfront b.body
  rw [withBody_body] at hb
  rw [hfront, h, hb, List.append_assoc]

/-- A directive is printed after what is built before it. -/
theorem print_of_addDirective {b b' : Builder} {token : Token} {d : Directive}
    (h : b.addDirective token d = .ok b') : b'.print = b.print ++ d.written := by
  obtain ⟨root, frames⟩ := b
  cases d with
  | clause | loop | cond =>
    obtain rfl := Except.ok.inj h
    rw [openBlock, print_push]
    simp [OpenBlock.print, Node.print, Node.printBranches]
  | elseCond condition =>
    rcases frames with - | ⟨⟨block, line, column⟩, frames⟩
    · cases h
    · cases block with
      | clause | loop | otherwise => cases h
      | cond branches before body =>
        obtain rfl := Except.ok.inj h
        rw [print_push, print_push, List.append_assoc, OpenBlock.print_elseCond]
  | otherwise =>
    rcases frames with - | ⟨⟨block, line, column⟩, frames⟩
    · cases h
    · cases block with
      | clause | loop | otherwise => cases h
      | cond branches before body =>
        obtain rfl := Except.ok.inj h
        rw [print_push, print_push, List.append_assoc]
        simp [OpenBlock.print, Node.print]
  | close =>
    rcases frames with - | ⟨frame, frames⟩
    · cases h
    · obtain rfl := Except.ok.inj h
      rw [print_push, List.append_assoc, ← OpenBlock.printOf_close, ← Node.print_singleton]
      exact print_withBody (Node.print_append ..)

end Builder

/-- A token as it is written in a template. -/
def Token.written (token : Token) : List Char :=
  match token.symbol? with
  | some (.literal token) => token.text.toList
  | some (.directive d) => d.written
  | none => []

namespace Token

theorem written_literal {token : Token} (h : token.kind = .literal) :
    token.written = token.text.toList := by
  rw [written, symbol?_eq_literal_iff.2 ⟨h, rfl⟩]

theorem written_directive {token : Token} {d : Directive}
    (h : token.symbol? = some (.directive d)) : token.written = d.written := by
  rw [written, h]

end Token

/-- What is built from tokens in a line is printed as the tokens are. -/
theorem Builder.print_of_addAll {tokens : List Token} {b b' : Builder}
    (h : b.addAll tokens = .ok b') (hchain : tokens.IsChain Token.Seam)
    (hstart : ∀ token ∈ tokens, token.lineStart = false) (hmarker : ¬ Token.HasMarker tokens)
    (hbody : ∀ token ∈ tokens.head?, token.kind = .literal →
      ∀ front fragment, b.body ≠ front ++ [.text fragment]) :
    b'.print = b.print ++ tokens.flatMap Token.written := by
  induction tokens generalizing b with
  | nil =>
    obtain rfl := Except.ok.inj h
    exact (List.append_nil _).symm
  | cons token tokens ih =>
    obtain ⟨next, hnext, h⟩ := Except.exists_of_bind h
    rw [Token.hasMarker_cons, not_or, not_and] at hmarker
    obtain ⟨hseam, hchain⟩ := List.isChain_cons.1 hchain
    have hstart' : ∀ t ∈ tokens, t.lineStart = false := fun t ht =>
      hstart t (List.mem_cons_of_mem _ ht)
    rw [List.flatMap_cons, ← List.append_assoc]
    rcases cases_add hnext with ⟨hkind, rfl⟩ | ⟨d, hsymbol, hadd⟩
    · -- A directive comes next, as no line begins here.
      have hnone : ∀ t ∈ tokens.head?, t.kind = .literal → ∀ front fragment,
          (b.withBody (Phrase.addLiteral b.body token)).body ≠ front ++ [.text fragment] := by
        intro t ht hliteral
        have hfalse := hstart' t (List.mem_of_mem_head? ht)
        rw [hseam t ht hkind hliteral] at hfalse
        cases hfalse
      have hprint := print_withBody (print_addLiteral (hbody token rfl hkind)
        (hstart token List.mem_cons_self) (hmarker.1 hkind))
      rw [ih h hchain hstart' hmarker.2 hnone, hprint, Token.written_literal hkind]
    · rw [ih h hchain hstart' hmarker.2 fun _ _ _ => ne_concat_text_of_addDirective hadd,
        print_of_addDirective hadd, Token.written_directive hsymbol]

/-! ## Spelling of printed directives -/

namespace Directive

/-- A property of texts that holds of the keywords of all directives. -/
theorem forall_words {p : String → Bool}
    (h : ["where", "set", "for", "if", "else if", "else", "end"].all p) (d : Directive) :
    p d.words := by
  refine List.all_eq_true.1 h _ ?_
  cases d with
  | clause kind => cases kind <;> simp [words, ClauseKind.keyword]
  | loop | cond | elseCond | otherwise | close => simp [words]

theorem toList_text (d : Directive) :
    d.text.toList = d.words.toList ++ (d.operand?.map fun o => ' ' :: o.toList).getD [] := by
  rw [text]
  cases d.operand? with
  | none => simp
  | some operand => simp

/-- The operand of a directive, where it has one, is some text without blanks at its ends. -/
def Proper (d : Directive) : Prop :=
  ∀ operand ∈ d.operand?, operand.toList ≠ [] ∧ Bare operand.toList

/-- The operand of a directive is a part of the text that spells it. -/
theorem Spelled.operand {cs : List Char} {d : Directive} (h : Spelled cs d) :
    d.Proper ∧ ∀ operand ∈ d.operand?, operand.toList <:+: cs := by
  have hoperand {arg : List Char} {operand : String} (harg : trimmed arg ≠ [])
      (ho : operand ∈ some (String.ofList (trimmed arg))) :
      (operand.toList ≠ [] ∧ Bare operand.toList) ∧ operand.toList <:+: arg := by
    obtain rfl := Option.some.inj ho
    rw [String.toList_ofList]
    exact ⟨⟨harg, bare_trimmed arg⟩, infix_trimmed arg⟩
  cases h with
  | clause | otherwise | close => exact ⟨nofun, nofun⟩
  | loop _ harg | cond _ harg =>
    exact ⟨fun _ ho => (hoperand harg ho).1,
      fun _ ho => (hoperand harg ho).2.trans (List.suffix_append ..).isInfix⟩
  | elseCond _ _ _ harg =>
    refine ⟨fun _ ho => (hoperand harg ho).1, fun _ ho => (hoperand harg ho).2.trans ?_⟩
    exact ((List.suffix_append ..).trans ((List.suffix_append ..).trans
      (List.suffix_append ..))).isInfix

variable {d : Directive}

theorem Proper.bare_text (h : d.Proper) : Bare d.text.toList := by
  have hwords := forall_words (p := fun w => !w.toList.isEmpty && !startsBlank w.toList &&
    !w.toList.getLast?.any isBlank) (by decide) d
  simp only [Bool.and_eq_true, Bool.not_eq_true'] at hwords
  obtain ⟨⟨hne, hstart⟩, hend⟩ := hwords
  rw [toList_text]
  constructor
  · cases hcs : d.words.toList with
    | nil =>
      rw [hcs] at hne
      cases hne
    | cons c cs =>
      rw [hcs] at hstart
      exact hstart
  · cases hoperand : d.operand? with
    | none => simpa using hend
    | some operand =>
      -- The text ends as its operand does.
      obtain ⟨hnil, hbare⟩ := h operand hoperand
      obtain ⟨c, hc⟩ := Option.ne_none_iff_exists'.1 (mt List.getLast?_eq_none_iff.1 hnil)
      have hlast := hbare.2
      rw [hc] at hlast
      simpa [List.getLast?_append, List.getLast?_cons, hc] using hlast

/-- A directive is spelled by its text. -/
theorem Proper.spelled_text (h : d.Proper) : Spelled d.text.toList d := by
  have htrim {operand : String} (ho : operand ∈ d.operand?) :
      trimmed (' ' :: operand.toList) = operand.toList := (h operand ho).2.trimmed
  have hne {operand : String} (ho : operand ∈ d.operand?) :
      trimmed (' ' :: operand.toList) ≠ [] := by
    rw [htrim ho]
    exact (h operand ho).1
  rw [toList_text]
  cases d with
  | clause kind => exact (List.append_nil _).symm ▸ .clause kind
  | otherwise => exact .otherwise
  | close => exact .close
  | loop header =>
    have hspelled : Spelled ("for".toList ++ ' ' :: header.toList) _ := .loop rfl (hne rfl)
    rwa [htrim rfl, String.ofList_toList] at hspelled
  | cond condition =>
    have hspelled : Spelled ("if".toList ++ ' ' :: condition.toList) _ := .cond rfl (hne rfl)
    rwa [htrim rfl, String.ofList_toList] at hspelled
  | elseCond condition =>
    have hspelled :
        Spelled ("else".toList ++ ([' '] ++ ("if".toList ++ ' ' :: condition.toList))) _ :=
      .elseCond (List.cons_ne_nil _ _) (List.forall_mem_singleton.2 rfl) rfl (hne rfl)
    rw [htrim rfl, String.ofList_toList] at hspelled
    simpa [words, operand?] using hspelled

theorem Proper.read?_padded (h : d.Proper) :
    read? (.ofList (trimmed (' ' :: (d.text.toList ++ [' '])))) = some d := by
  rw [trimmed_padded h.bare_text, read?_eq_some_iff, String.toList_ofList]
  exact h.spelled_text

/-- The braces that close a printed directive are the first ones. -/
theorem splitOnce_closing_text (h : ∀ operand ∈ d.operand?, ¬ Token.closing <:+: operand.toList)
    (more : List Char) :
    splitOnce Token.closing (' ' :: (d.text.toList ++ ' ' :: (Token.closing ++ more))) =
      some (' ' :: (d.text.toList ++ [' ']), more) := by
  refine (splitOnce_eq_some_iff (by simp [Token.closing])).2 ⟨by simp, fun hocc => ?_⟩
  have hwords := forall_words (p := fun w => !occurs Token.closing w.toList) (by decide) d
  have hpadded : [] ++ ' ' :: (d.text.toList ++ ' ' :: ['\x7d']) =
      ' ' :: (d.text.toList ++ [' ']) ++ Token.closing.dropLast := by simp [Token.closing]
  rw [← hpadded] at hocc
  -- Blanks are around the text and before its operand, so the braces lie within a part.
  have hbrace : ' ' ≠ '\x7d' := by decide
  rcases infix_append_cons hbrace hocc with hocc | hocc
  · simp at hocc
  rcases infix_append_cons hbrace hocc with hocc | hocc
  · have hnone : ¬ Token.closing <:+: d.words.toList := by
      rw [← splitOnce_eq_none_iff (by simp [Token.closing])]
      simpa [occurs] using hwords
    rw [toList_text] at hocc
    cases hoperand : d.operand? with
    | none =>
      rw [hoperand] at hocc
      exact hnone (List.append_nil d.words.toList ▸ hocc)
    | some operand =>
      rw [hoperand] at hocc
      exact (infix_append_cons hbrace hocc).elim hnone (h operand hoperand)
  · exact absurd hocc.length_le (by decide)

end Directive

/-! ## Printed tokens read again -/

namespace Token

/-- Two literals with the same text, or two spellings of one directive. -/
inductive Same (token token' : Token) : Prop
  | literal : token.kind = .literal → token'.unplaced = token.unplaced → Same token token'
  | directive {d : Directive} : token.symbol? = some (.directive d) →
      token'.symbol? = some (.directive d) → Same token token'

theorem ofLine_append_written {pos : Nat} {first : Bool} {cs before rest : List Char}
    (h : splitOnce opening cs = some (before, rest)) {d : Directive}
    (hd : ∀ operand ∈ d.operand?, ¬ closing <:+: operand.toList) (more : List Char) :
    ofLine 1 pos first (before ++ (d.written ++ more)) =
      (ofLine 1 (pos + byteLength before + byteLength (' ' :: (d.text.toList ++ [' '])) + 4) false
        more).map fun tokens =>
          (if before.isEmpty then [] else [⟨.literal, .ofList before, 1, pos + 1, false⟩]) ++
          ⟨.directive, .ofList (trimmed (' ' :: (d.text.toList ++ [' ']))), 1,
            pos + byteLength before + 1, false⟩ :: tokens := by
  have hcut : splitOnce opening (before ++ (d.written ++ more)) =
      some (before, ' ' :: (d.text.toList ++ ' ' :: (closing ++ more))) := by
    rw [← splitOnce_replace (by simp [opening]) h]
    simp [Directive.written]
  rw [ofLine_of_some hcut (Directive.splitOnce_closing_text hd more)]
  simp

/-- The tokens of a line, printed in a line, are read as the same tokens. -/
theorem ofLine_written {line pos : Nat} {first : Bool} {cs : List Char} :
    ∀ tokens, ofLine line pos first cs = .ok tokens → line = 1 →
      (∀ token ∈ tokens, token.symbol?.isSome) →
      ∀ pos' first', ∃ tokens', ofLine 1 pos' first' (tokens.flatMap written) = .ok tokens' ∧
        List.Forall₂ Same tokens tokens' := by
  fun_induction ofLine line pos first cs with
  | case1 pos first cs lineStart h =>
    rintro tokens htokens rfl - pos' first'
    obtain rfl := Except.ok.inj htokens
    rw [List.flatMap_singleton, written_literal rfl, String.toList_ofList]
    exact ⟨_, ofLine_of_none h, .cons (.literal rfl (by simp [unplaced, lineStart])) .nil⟩
  | case2 => exact fun _ htokens => by cases htokens
  | case3 pos first cs lineStart before rest h start literal inside after h' _ directive ih =>
    rintro tokens htokens rfl hread pos' first'
    obtain ⟨tail, htail, rfl⟩ := Except.exists_of_map htokens
    obtain ⟨d, hd⟩ : ∃ d, directive.symbol? = some (.directive d) := by
      obtain ⟨symbol, hsymbol⟩ := Option.isSome_iff_exists.1 (hread directive (by simp))
      obtain ⟨d, hd, rfl⟩ := Option.map_eq_some_iff.1 hsymbol
      exact ⟨d, hsymbol⟩
    obtain ⟨hproper, hoperand⟩ := (symbol?_eq_directive_iff.1 hd).2.operand
    -- The operand is a part of what stood between the braces, where no braces close.
    have hclosing : ∀ operand ∈ d.operand?, ¬ closing <:+: operand.toList := by
      intro operand ho hocc
      refine ((splitOnce_eq_some_iff (by simp [closing])).1 h').2 (hocc.trans ?_)
      have hinside := hoperand operand ho
      rw [String.toList_ofList] at hinside
      exact (hinside.trans (infix_trimmed inside)).trans (List.prefix_append ..).isInfix
    obtain ⟨tail', htail', hsame⟩ := ih tail htail rfl
      (fun token htoken => hread token (by simp [htoken]))
      (pos' + byteLength before + byteLength (' ' :: (d.text.toList ++ [' '])) + 4) false
    have hliteral : literal =
        if before.isEmpty then [] else [⟨.literal, .ofList before, 1, pos + 1, false⟩] := by
      simp [literal, lineStart]
    have hbefore : literal.flatMap written = before := by
      rw [hliteral]
      split
      · next hempty => exact (List.isEmpty_iff.1 hempty).symm
      · rw [List.flatMap_singleton, written_literal rfl, String.toList_ofList]
    have hd' : symbol? ⟨.directive, .ofList (trimmed (' ' :: (d.text.toList ++ [' ']))), 1,
        pos' + byteLength before + 1, false⟩ = some (.directive d) :=
      congrArg (Option.map Symbol.directive) hproper.read?_padded
    rw [List.flatMap_append, hbefore, List.flatMap_cons, written_directive hd,
      ofLine_append_written h hclosing, htail', hliteral]
    refine ⟨_, rfl, ?_⟩
    split
    · exact .cons (.directive hd hd') hsame
    · exact .cons (.literal rfl rfl) (.cons (.directive hd hd') hsame)

/-- The texts of the tokens of a line are parts of the line, and only a line other than the
    first begins with a literal that says so. -/
theorem mem_of_ofLine {line pos : Nat} {first : Bool} {cs : List Char} :
    ∀ tokens, ofLine line pos first cs = .ok tokens → ∀ token ∈ tokens,
      (token.lineStart → 1 < line) ∧ ∀ c ∈ token.text.toList, c ∈ cs := by
  fun_induction ofLine line pos first cs with
  | case1 pos first cs lineStart h =>
    intro tokens htokens token htoken
    obtain rfl := Except.ok.inj htokens
    obtain rfl := List.mem_singleton.1 htoken
    exact ⟨by simp [lineStart], by simp⟩
  | case2 => exact fun _ htokens => by cases htokens
  | case3 pos first cs lineStart before rest h start literal inside after h' _ directive ih =>
    intro tokens htokens token htoken
    obtain ⟨tail, htail, rfl⟩ := Except.exists_of_map htokens
    obtain ⟨rfl, _⟩ := (splitOnce_eq_some_iff (by simp [opening])).1 h
    obtain ⟨rfl, _⟩ := (splitOnce_eq_some_iff (by simp [closing])).1 h'
    rcases List.mem_append.1 htoken with htoken | htoken
    · simp only [literal] at htoken
      split at htoken
      · cases htoken
      · obtain rfl := List.mem_singleton.1 htoken
        exact ⟨by simp [lineStart], by simp_all⟩
    · rcases List.mem_cons.1 htoken with rfl | htoken
      · refine ⟨by simp [directive], fun c hc => ?_⟩
        rw [String.toList_ofList] at hc
        simp [(infix_trimmed inside).mem hc]
      · refine ⟨(ih tail htail token htoken).1, fun c hc => ?_⟩
        simp [(ih tail htail token htoken).2 c hc]

/-- A token is printed without a line break that it does not hold. -/
theorem mem_text_of_mem_written {token : Token} {c : Char} (hc : c = '\n' ∨ c = '\r')
    (h : c ∈ token.written) : c ∈ token.text.toList := by
  rw [written] at h
  split at h
  · next hsymbol =>
    obtain ⟨_, rfl⟩ := symbol?_eq_literal_iff.1 hsymbol
    exact h
  · next d hsymbol =>
    have hwords := Directive.forall_words
      (p := fun w => '\n' ∉ w.toList && '\r' ∉ w.toList) (by decide) d
    have htext : c ∈ d.text.toList := by
      rcases hc with rfl | rfl <;> simpa [Directive.written, opening, closing] using h
    rw [Directive.toList_text, List.mem_append] at htext
    rcases htext with hmem | hmem
    · rcases hc with rfl | rfl <;> simp [hmem] at hwords
    · cases hoperand : d.operand? with
      | none =>
        rw [hoperand] at hmem
        cases hmem
      | some operand =>
        rw [hoperand] at hmem
        have hmem' : c ∈ operand.toList := by
          rcases hc with rfl | rfl <;> simpa using hmem
        exact ((symbol?_eq_directive_iff.1 hsymbol).2.operand.2 operand hoperand).mem hmem'
  · cases h

theorem symbol?_unplaced {token : Token} {d : Directive}
    (h : token.symbol? = some (.directive d)) : token.unplaced.symbol? = some (.directive d) := by
  have hspells := symbol?_eq_directive_iff.1 h
  exact symbol?_eq_directive_iff.2 hspells

theorem isSome_symbol?_unplaced (token : Token) :
    token.unplaced.symbol?.isSome = token.symbol?.isSome := by
  rw [symbol?, symbol?, kind_unplaced]
  cases token.kind <;> simp

theorem written_unplaced (token : Token) : token.unplaced.written = token.written := by
  rw [written, written, symbol?, symbol?, kind_unplaced, text_unplaced]
  cases token.kind with
  | literal => rfl
  | directive => rfl

end Token

namespace Builder

/-- The place of a directive matters only for the places in what is built. -/
theorem addDirective_of_place {b b' : Builder} {token token' : Token} {d : Directive}
    (hline : token'.line = token.line) (hcolumn : token'.column = token.column)
    (h : b.addDirective token d = .ok b') : b.addDirective token' d = .ok b' := by
  obtain ⟨root, frames⟩ := b
  cases d with
  | clause | loop | cond =>
    rw [← h, addDirective, addDirective, openBlock, openBlock, hline, hcolumn]
  | elseCond | otherwise =>
    rcases frames with - | ⟨⟨block, line, column⟩, frames⟩
    · cases h
    · cases block with
      | clause | loop | otherwise => cases h
      | cond => exact h
  | close =>
    rcases frames with - | ⟨frame, frames⟩
    · cases h
    · exact h

theorem add_of_same {b b' : Builder} {token token' : Token} (hsame : Token.Same token token')
    (h : b.add token.unplaced = .ok b') : b.add token'.unplaced = .ok b' := by
  cases hsame with
  | literal _ heq => rwa [heq]
  | directive hd hd' =>
    have hline : token'.unplaced.line = token.unplaced.line := rfl
    rw [add_directive b (Token.symbol?_unplaced hd)] at h
    rw [add_directive b (Token.symbol?_unplaced hd')]
    exact addDirective_of_place hline rfl h

/-- The same tokens build the same. -/
theorem addAll_of_same {tokens tokens' : List Token} {b b' : Builder}
    (hsame : List.Forall₂ Token.Same tokens tokens')
    (h : b.addAll (tokens.map Token.unplaced) = .ok b') :
    b.addAll (tokens'.map Token.unplaced) = .ok b' := by
  induction hsame generalizing b with
  | nil => exact h
  | cons htoken _ ih =>
    obtain ⟨next, hnext, h⟩ := Except.exists_of_bind h
    rw [List.map_cons, addAll_cons_of_add (add_of_same htoken hnext)]
    exact ih h

theorem isSome_symbol?_of_addAll {tokens : List Token} {b b' : Builder}
    (h : b.addAll tokens = .ok b') : ∀ token ∈ tokens, token.symbol?.isSome := by
  induction tokens generalizing b with
  | nil => exact nofun
  | cons token tokens ih =>
    obtain ⟨next, hnext, h⟩ := Except.exists_of_bind h
    refine List.forall_mem_cons.2 ⟨?_, ih h⟩
    rcases cases_add hnext with ⟨hkind, -⟩ | ⟨d, hsymbol, -⟩
    · rw [Token.symbol?_eq_literal_iff.2 ⟨hkind, rfl⟩]
      rfl
    · rw [hsymbol]
      rfl

theorem eq_of_finish {b : Builder} {nodes : List Node} (h : b.finish = .ok nodes) :
    b = ⟨nodes, []⟩ := by
  obtain ⟨root, frames⟩ := b
  rw [finish] at h
  split at h
  · next hframes =>
    obtain rfl : frames = [] := List.getLast?_eq_none_iff.1 hframes
    obtain rfl : root = nodes := Except.ok.inj h
    rfl
  · cases h

end Builder

/-- The tree of a line is printed as the tokens of the line are. -/
theorem print_of_line {cs : List Char} {line : List Token} {nodes : List Node}
    (hline : Token.ofLine 1 0 true cs = .ok line) (hmarker : ¬ Token.HasMarker line)
    (h : Builder.addAll {} (line.map Token.unplaced) = .ok ⟨nodes, []⟩) :
    Node.print nodes = line.flatMap Token.written := by
  have hchain : (line.map Token.unplaced).IsChain Token.Seam :=
    (List.isChain_map _).2 (Token.chain_ofLine line hline).1
  have hstart : ∀ token ∈ line.map Token.unplaced, token.lineStart = false := by
    rw [List.forall_mem_map]
    intro token htoken
    rw [Token.lineStart_unplaced, Bool.eq_false_iff]
    exact fun hstart => absurd ((Token.mem_of_ofLine line hline token htoken).1 hstart) (by decide)
  have hprint := Builder.print_of_addAll h hchain hstart (by rwa [Token.hasMarker_unplaced])
    (by simp [Builder.body])
  have hwritten : (line.map Token.unplaced).flatMap Token.written = line.flatMap Token.written := by
    simp only [List.flatMap_map, Token.written_unplaced]
  rw [hwritten] at hprint
  simpa [Builder.print, Node.print] using hprint

/-- A tree of a template without carriage returns and without question marks in its literals is
    printed as a template that has the same tree, up to the lines of its texts. -/
theorem ofTemplate_print {template : String} {tokens : List Token} {nodes : List Node}
    (hreturn : '\r' ∉ template.toList) (htokens : Token.ofTemplate template = .ok tokens)
    (hmarker : ∀ token ∈ tokens, token.kind = .literal → '?' ∉ token.text.toList)
    (hnodes : Node.ofTemplate template = .ok nodes) :
    ∃ nodes', Node.ofTemplate (.ofList (Node.print nodes)) = .ok nodes' ∧
      Node.unplaced nodes' = Node.unplaced nodes := by
  obtain ⟨line, hline, -, hbuilds, hmarked⟩ := Token.exists_of_flat hreturn htokens
  have hnone : ¬ Token.HasMarker line := fun h => by
    obtain ⟨token, htoken, hkind, hmem⟩ := hmarked h
    exact hmarker token htoken hkind hmem
  -- The tokens of the template in one line build the tree, and it is printed as they are.
  rw [Node.ofTokens_unplaced tokens, ← Node.ofTemplate_eq htokens, hnodes] at hbuilds
  obtain ⟨b, hb, hfinish⟩ := Except.exists_of_bind hbuilds
  obtain rfl := Builder.eq_of_finish hfinish
  have hprint := print_of_line hline hnone hb
  rw [Node.print_unplaced] at hprint
  have hbreak {c : Char} (hc : c = '\n' ∨ c = '\r') : c ∉ Node.print nodes := by
    intro hmem
    rw [hprint] at hmem
    obtain ⟨token, htoken, hmem⟩ := List.mem_flatMap.1 hmem
    exact not_mem_flat hreturn hc ((Token.mem_of_ofLine line hline token htoken).2 c
      (Token.mem_text_of_mem_written hc hmem))
  -- What is printed is read as the same tokens, which build the same tree.
  have hread : ∀ token ∈ line, token.symbol?.isSome := fun token htoken => by
    rw [← Token.isSome_symbol?_unplaced]
    exact Builder.isSome_symbol?_of_addAll hb _ (List.mem_map_of_mem htoken)
  obtain ⟨line', hline', hsame⟩ := Token.ofLine_written line hline rfl hread 0 true
  have htemplate : Token.ofTemplate (.ofList (Node.print nodes)) = .ok line' := by
    rw [Token.ofTemplate_line (hbreak (.inl rfl)) (hbreak (.inr rfl)), hprint, hline']
  have hsame' : Node.ofTokens (line'.map Token.unplaced) = .ok (Node.unplaced nodes) := by
    rw [Node.ofTokens, Builder.addAll_of_same hsame hb]
    exact hfinish
  rw [Node.ofTokens_unplaced, ← Node.ofTemplate_eq htemplate] at hsame'
  cases hnodes' : Node.ofTemplate (.ofList (Node.print nodes)) with
  | error e =>
    rw [hnodes'] at hsame'
    cases hsame'
  | ok nodes' =>
    rw [hnodes'] at hsame'
    exact ⟨nodes', rfl, Except.ok.inj hsame'⟩

/-- Operands and literals that hold braces, an empty branch, and placeholders at the seams. -/
theorem ofTemplate_print_braces :
    let template := "a@b.\n \x7b\x7bif  x\x7d \x7d\x7d@c.d.\n  \\@@@table" ++
      "\x7b\x7belse  if q\x7d\x7d\x7b\x7belse\x7d\x7d\x7b\x7bend\x7d\x7d\x7d\n" ++
      "\x7b\x7bwhere\x7d\x7d\x7bz\x7b\x7bend\x7d\x7d"
    let printed := "a@b. \x7b\x7b if x\x7d \x7d\x7d@c.d. \\@@@table" ++
      "\x7b\x7b else if q \x7d\x7d\x7b\x7b else \x7d\x7d\x7b\x7b end \x7d\x7d\x7d " ++
      "\x7b\x7b where \x7d\x7d\x7bz\x7b\x7b end \x7d\x7d"
    ∃ nodes nodes', Node.ofTemplate template = .ok nodes ∧ Node.print nodes = printed.toList ∧
      Node.ofTemplate printed = .ok nodes' ∧ Node.unplaced nodes' = Node.unplaced nodes := by
  intro template printed
  have hreturn : '\r' ∉ template.toList := by decide +kernel
  have hliterals :
      (match Token.ofTemplate template with
        | .ok tokens => tokens.all fun token => token.kind = .directive || '?' ∉ token.text.toList
        | .error _ => false) = true := by decide +kernel
  have hprint : (Node.ofTemplate template).toOption.map Node.print = some printed.toList := by
    decide +kernel
  cases hnodes : Node.ofTemplate template with
  | error e =>
    rw [hnodes] at hprint
    cases hprint
  | ok nodes =>
    rw [hnodes] at hprint
    cases htokens : Token.ofTemplate template with
    | error e =>
      rw [htokens] at hliterals
      cases hliterals
    | ok tokens =>
      rw [htokens] at hliterals
      have hmarker : ∀ token ∈ tokens, token.kind = .literal → '?' ∉ token.text.toList := by
        intro token htoken hkind
        have := List.all_eq_true.1 hliterals token htoken
        simpa [hkind] using this
      obtain ⟨nodes', hnodes', hsame⟩ := ofTemplate_print hreturn htokens hmarker hnodes
      have htext : Node.print nodes = printed.toList := Option.some.inj hprint
      rw [htext, String.ofList_toList] at hnodes'
      exact ⟨nodes, nodes', rfl, htext, hnodes', hsame⟩

end QueryTemplate
