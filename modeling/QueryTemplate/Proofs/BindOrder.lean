import QueryTemplate.Proofs.Literals
import QueryTemplate.Proofs.Parsing
import QueryTemplate.Template

/-!
# The order of placeholders

What the placeholders of a template bind is collected while its tree is built, body by
body and text by text, and again when the tree is flattened into a program. Neither
loses a placeholder, takes one twice or changes their order: tree and program bind what
the literals of the template bind, one literal after the other.

* `Token.binds`: what the placeholders of the literals among tokens bind;
* `binds_addAllTo`: a tree of phrases binds what their literals bind;
* `Program.binds_ofNodes`: the program of a tree binds what the tree binds;
* `compile_binds`: both for a template that has been read.
-/

namespace QueryTemplate

/-- What the placeholders of the literals among tokens bind, in the order of the tokens. -/
def Token.binds (tokens : List Token) : List Bind :=
  (tokens.filter (·.kind = .literal)).flatMap fun token => (extract token.text).binds

/-- What the placeholders of the literals among symbols bind. -/
def Symbol.binds : List Symbol → List Bind
  | [] => []
  | literal token :: symbols => (extract token.text).binds ++ binds symbols
  | directive _ :: symbols => binds symbols

theorem Symbol.binds_append (symbols more : List Symbol) :
    binds (symbols ++ more) = binds symbols ++ binds more := by
  induction symbols with
  | nil => rfl
  | cons symbol symbols ih =>
    cases symbol with
    | literal token => rw [List.cons_append, binds, binds, ih, List.append_assoc]
    | directive d => exact ih

theorem Symbol.binds_concat_directive (symbols : List Symbol) (d : Directive) :
    binds (symbols ++ [directive d]) = binds symbols := by
  rw [binds_append]
  exact List.append_nil _

theorem Token.Reads.binds_eq {tokens : List Token} {symbols : List Symbol}
    (h : Token.Reads tokens symbols) : Token.binds tokens = Symbol.binds symbols := by
  induction symbols generalizing tokens with
  | nil =>
    rw [h.nil]
    rfl
  | cons symbol symbols ih =>
    obtain ⟨token, rest, rfl, htoken, hrest⟩ := h.cons
    cases symbol with
    | literal token' =>
      obtain ⟨hkind, rfl⟩ := Token.symbol?_eq_literal_iff.1 htoken
      rw [Symbol.binds, ← ih hrest, Token.binds, List.filter_cons_of_pos (by simp [hkind])]
      rfl
    | directive d =>
      have hkind := (Token.symbol?_eq_directive_iff.1 htoken).1
      rw [Symbol.binds, ← ih hrest, Token.binds, List.filter_cons_of_neg (by simp [hkind])]
      rfl

/-! ## Trees -/

namespace Node

theorem binds_append (nodes more : List Node) :
    binds (nodes ++ more) = binds nodes ++ binds more := by
  induction nodes with
  | nil => rfl
  | cons node nodes ih => rw [List.cons_append, binds, binds, ih, List.append_assoc]

theorem binds_concat (nodes : List Node) (node : Node) :
    binds (nodes ++ [node]) = binds nodes ++ bindsOf node := by
  rw [binds_append, binds, binds, List.append_nil]

/-- A text that is added brings the placeholders that are extracted from it. -/
theorem binds_addText (nodes : List Node) (text : String) (line : Nat) :
    binds (Builder.addText nodes text line) = binds nodes ++ (extract text).binds := by
  rcases Builder.addText_cases nodes text line with ⟨front, fragment, rfl, hadd⟩ | ⟨_, hadd⟩
  · rw [hadd, binds_concat, binds_concat, bindsOf, bindsOf, List.append_assoc]
  · rw [hadd, binds_concat, bindsOf]

end Node

namespace Phrase

open Node (binds bindsOf branchBinds binds_concat)

/-- A literal brings the placeholders of its text, whatever blanks it is joined with. -/
theorem binds_addLiteral (acc : List Node) (token : Token) :
    binds (addLiteral acc token) = binds acc ++ (extract token.text).binds := by
  have hpieces := binds_pieces token (Builder.endsBlank acc)
  rw [addLiteral, addedText_eq]
  split
  · next hempty =>
    -- Without a text there are no pieces, and no placeholders.
    rw [Token.pieces, String.isEmpty_iff.1 hempty, String.toList_empty, Piece.scan] at hpieces
    rw [← hpieces]
    exact (List.append_nil _).symm
  · rw [Node.binds_addText, ← hpieces]
    rfl

mutual

theorem binds_addTo :
    (phrase : Phrase) → (acc : List Node) →
      binds (addTo acc phrase) = binds acc ++ Symbol.binds (symbolsOf phrase)
  | .literal token, acc => by
    rw [addTo, binds_addLiteral, symbolsOf, Symbol.binds, Symbol.binds, List.append_nil]
  | .clause kind body, acc => by
    rw [addTo, binds_concat, bindsOf, binds_addAllTo body [], symbolsOf, Symbol.binds,
      Symbol.binds_concat_directive]
    rfl
  | .loop header body, acc => by
    rw [addTo, binds_concat, bindsOf, binds_addAllTo body [], symbolsOf, Symbol.binds,
      Symbol.binds_concat_directive]
    rfl
  | .cond condition body branches none, acc => by
    rw [addTo, binds_concat, bindsOf, branchBinds, binds_addAllTo body [],
      branchBinds_branchNodes branches, symbolsOf, Symbol.binds, Symbol.binds_append,
      Symbol.binds_concat_directive]
    rfl
  | .cond condition body branches (some last), acc => by
    rw [addTo, binds_concat, bindsOf, branchBinds, binds_addAllTo body [], binds_addAllTo last [],
      branchBinds_branchNodes branches, symbolsOf, Symbol.binds, Symbol.binds_append,
      Symbol.binds_append, Symbol.binds, Symbol.binds_concat_directive, List.append_assoc]
    rfl

/-- A tree of phrases binds what their literals bind, in the same order. -/
theorem binds_addAllTo :
    (phrases : List Phrase) → (acc : List Node) →
      binds (addAllTo acc phrases) = binds acc ++ Symbol.binds (symbols phrases)
  | [], acc => (List.append_nil _).symm
  | phrase :: phrases, acc => by
    rw [addAllTo, binds_addAllTo phrases, binds_addTo phrase, symbols, Symbol.binds_append,
      List.append_assoc]

theorem branchBinds_branchNodes :
    (branches : List PhraseBranch) →
      branchBinds (branchNodes branches) = Symbol.binds (branchSymbols branches)
  | [] => rfl
  | .mk condition body :: branches => by
    rw [branchNodes, branchBinds, binds_addAllTo body [], branchBinds_branchNodes branches,
      branchSymbols, Symbol.binds, Symbol.binds_append]
    rfl

end

end Phrase

/-! ## Programs -/

namespace Instr

/-- What an instruction binds. -/
def binds : Instr → List Bind
  | bind binds => binds
  | _ => []

open Node (bindsOf branchBinds)

mutual

theorem binds_ofNode : (node : Node) → (ofNode node).flatMap binds = bindsOf node
  | .text fragment => by
    rw [ofNode, bindsOf]
    -- A text without placeholders has no instruction for them.
    by_cases hbinds : fragment.binds = []
    · rw [hbinds]
      rfl
    · rw [if_neg (by rwa [List.isEmpty_iff])]
      exact List.append_nil _
  | .clause kind body => by
    rw [ofNode, bindsOf, List.flatMap_cons, List.flatMap_append, binds_ofNodes body]
    exact List.append_nil _
  | .loop header body => by
    rw [ofNode, bindsOf, List.flatMap_cons, List.flatMap_append, binds_ofNodes body]
    exact List.append_nil _
  | .cond branches none => by
    rw [ofNode, bindsOf, List.flatMap_append, binds_ofBranches branches true]
    exact List.append_nil _
  | .cond branches (some body) => by
    rw [ofNode, bindsOf, List.flatMap_append, List.flatMap_append, binds_ofBranches branches true]
    refine congrArg (branchBinds branches ++ ·) ?_
    -- An empty last branch is left out, and binds nothing.
    cases body with
    | nil => rfl
    | cons node body =>
      rw [if_neg (by simp), List.flatMap_cons, binds_ofNodes (node :: body)]
      exact List.append_nil _

theorem binds_ofNodes : (nodes : List Node) → (ofNodes nodes).flatMap binds = Node.binds nodes
  | [] => rfl
  | node :: nodes => by
    rw [ofNodes, List.flatMap_append, binds_ofNode node, binds_ofNodes nodes, Node.binds]

theorem binds_ofBranches :
    (branches : List Branch) → (first : Bool) →
      (ofBranches first branches).flatMap binds = branchBinds branches
  | [], _ => rfl
  | .mk condition body :: branches, first => by
    rw [ofBranches, List.flatMap_cons, List.flatMap_append, binds_ofNodes body,
      binds_ofBranches branches false, branchBinds]
    cases first <;> rfl

end

end Instr

/-- The program of a tree binds what the tree binds, in the same order. -/
theorem Program.binds_ofNodes (multiplier : Nat) (nodes : List Node) :
    (Program.ofNodes multiplier nodes).binds = Node.binds nodes :=
  Instr.binds_ofNodes nodes

/-- The tree of a template and its program bind what the placeholders of its literals bind,
    one literal after the other in the order of the tokens. -/
theorem compile_binds {source : String} {settings : Settings} {t : Template}
    (h : Template.compile source settings = .ok t) :
    ∃ tokens, Token.ofTemplate source = .ok tokens ∧ Node.binds t.nodes = Token.binds tokens ∧
      t.program.binds = Token.binds tokens := by
  obtain ⟨nodes, hnodes, h⟩ := Except.exists_of_bind h
  obtain rfl := Except.ok.inj h
  obtain ⟨tokens, phrases, htokens, hreads, rfl⟩ := exists_of_ofTemplate hnodes
  have hbinds : Node.binds (Phrase.nodes phrases) = Token.binds tokens := by
    rw [hreads.binds_eq, Phrase.nodes, Phrase.binds_addAllTo]
    rfl
  exact ⟨tokens, htokens, hbinds, (Program.binds_ofNodes ..).trans hbinds⟩

/-- A conditional with an `else if` over two lines, around a loop and before a clause. -/
theorem compile_binds_cond :
    let source := "@a \x7b\x7bif p\x7d\x7d @b\n " ++
      "\x7b\x7bfor x in xs\x7d\x7d\\@@@x.y\x7b\x7bend\x7d\x7d" ++
      "\x7b\x7belse if q\x7d\x7d\x7b\x7belse\x7d\x7d@c\x7b\x7bend\x7d\x7d" ++
      "\x7b\x7bwhere\x7d\x7d@@table.z = @d\x7b\x7bend\x7d\x7d"
    let binds : List Bind := [.value "a", .value "b", .raw "x.y", .value "c", .table, .value "d"]
    ∃ t, Template.compile source = .ok t ∧ Node.binds t.nodes = binds ∧
      t.program.binds = binds := by
  intro source binds
  have htokens :
      (match Token.ofTemplate source with
        | .ok tokens => Token.binds tokens == binds
        | .error _ => false) = true := by decide +kernel
  have hcompile : (Template.compile source).isOk = true := by decide +kernel
  cases ht : Template.compile source with
  | error e =>
    rw [ht] at hcompile
    cases hcompile
  | ok t =>
    obtain ⟨tokens, hok, hnodes, hprogram⟩ := compile_binds ht
    rw [hok] at htokens
    have hbinds : Token.binds tokens = binds := by simpa using htokens
    exact ⟨t, rfl, hnodes.trans hbinds, hprogram.trans hbinds⟩

end QueryTemplate
