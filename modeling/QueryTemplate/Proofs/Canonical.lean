import QueryTemplate.Proofs.Extraction
import QueryTemplate.Proofs.Printing
import QueryTemplate.Proofs.Tiling

/-!
# Canonical trees

The trees of templates are in a normal form: texts that come one after the other are joined, no
text is empty or has placeholders left in its SQL, every conditional has a branch, and headers and
conditions are as they are written between the braces, without the blanks around them.

While a tree is built, each open block would be in this form if it was closed. A directive opens a
block with an empty body, or closes one, and no text comes right before the next literal then. A
literal after another one begins a line, and what it adds is set apart by a blank.

* `Node.Canonical`, `Node.CanonicalBody`: the form of a node and of a body;
* `Builder.Canonical`: that of what is built so far, which a token keeps
  (`Builder.Canonical.add`), and so do the tokens of a template (`Builder.Canonical.addAll`);
* `ofTemplate_canonical`: the trees of templates are canonical.
-/

namespace QueryTemplate

open Text

/-! ## The form -/

/-- A header or a condition: it is not empty, has no blanks at its ends and stands within a
    directive. -/
structure Operand (text : String) : Prop where
  /-- It is not empty. -/
  filled : text ≠ ""
  /-- It has no blanks at its ends. -/
  trimmed : trim text = text
  /-- It is part of a line. -/
  newline : '\n' ∉ text.toList
  /-- The directive does not end in it. -/
  closing : ¬ Token.closing <:+: text.toList

/-- The SQL of a text is not empty, on one line, and has no placeholders left. -/
structure Fragment.Canonical (fragment : Fragment) : Prop where
  /-- There is some SQL. -/
  filled : fragment.sql ≠ ""
  /-- It is on one line. -/
  newline : '\n' ∉ fragment.sql.toList
  /-- No placeholders are left. -/
  settled : extract fragment.sql = { sql := fragment.sql, binds := [] }

/-- Nodes that may come one after the other: they are not both texts. -/
def Node.Apart : Node → Node → Prop
  | .text _, .text _ => False
  | _, _ => True

mutual

/-- A node in the form that a tree of a template has. -/
inductive Node.Canonical : Node → Prop
  | text {fragment : Fragment} : fragment.Canonical → Node.Canonical (.text fragment)
  | clause {kind : ClauseKind} {body : List Node} : Node.CanonicalBody body →
      Node.Canonical (.clause kind body)
  | loop {header : String} {body : List Node} : Operand header → Node.CanonicalBody body →
      Node.Canonical (.loop header body)
  | cond {branches : List Branch} {otherwise : Option (List Node)} : branches ≠ [] →
      (∀ branch ∈ branches, Branch.Canonical branch) →
      (∀ body ∈ otherwise, Node.CanonicalBody body) → Node.Canonical (.cond branches otherwise)

/-- A branch in this form. -/
inductive Branch.Canonical : Branch → Prop
  | mk {condition : String} {body : List Node} : Operand condition → Node.CanonicalBody body →
      Branch.Canonical (.mk condition body)

/-- The nodes of a body in this form, in which no text comes right after another one. -/
inductive Node.CanonicalBody : List Node → Prop
  | mk {nodes : List Node} : nodes.IsChain Node.Apart → (∀ node ∈ nodes, Node.Canonical node) →
      Node.CanonicalBody nodes

end

/-! ## Tokens -/

namespace Token

/-- A token of a line, the text of which is part of the line, and that of a directive does not
    end the directive. -/
structure Inline (token : Token) : Prop where
  /-- The text is part of a line. -/
  newline : '\n' ∉ token.text.toList
  /-- The directive does not end in it. -/
  closing : token.kind = .directive → ¬ Token.closing <:+: token.text.toList

variable {line : Nat} {before cs : List Char} {token : Token} {tokens : List Token}

theorem Tiles.inline (h : Tiles line before cs tokens) (hcs : '\n' ∉ cs) :
    ∀ token ∈ tokens, token.Inline := by
  induction h with
  | nil => nofun
  | @cons _ _ _ token _ _ _ hcovers _ ih =>
    rw [List.mem_append, not_or] at hcs
    refine List.forall_mem_cons.2 ⟨?_, ih hcs.2⟩
    cases hcovers with
    | literal hkind htext =>
      refine ⟨?_, fun hdirective => by cases hkind.symm.trans hdirective⟩
      rw [htext, String.toList_ofList]
      exact hcs.1
    | @directive inside _ hkind htext hinside =>
      have htoken : token.text.toList <:+: inside := by
        rw [htext, String.toList_ofList]
        exact infix_trimmed inside
      constructor
      · intro hnewline
        exact hcs.1 (by simp [htoken.mem hnewline])
      · intro _ hclosing
        exact hinside ((hclosing.trans htoken).trans (List.prefix_append _ _).isInfix)

theorem mem_of_mem_dropReturn {c : Char} (h : c ∈ dropReturn cs) : c ∈ cs := by
  obtain hcs | ⟨hcs, -⟩ := eq_dropReturn cs
  · rw [hcs]
    exact List.mem_append_left _ h
  · rwa [hcs]

theorem inline_of_rows {lines : List (List Char × Nat)} {rows : List (List Token)}
    (h : List.Forall₂ RowOf lines rows) (hlines : ∀ numbered ∈ lines, '\n' ∉ numbered.1) :
    ∀ token ∈ rows.flatten, token.Inline := by
  induction h with
  | nil => nofun
  | cons hrow _ ih =>
    obtain ⟨hcs, hlines⟩ := List.forall_mem_cons.1 hlines
    rw [List.flatten_cons, List.forall_mem_append]
    exact ⟨hrow.tiles.inline fun hmem => hcs (mem_of_mem_dropReturn hmem), ih hlines⟩

/-- The texts of the tokens of a template are parts of its lines. -/
theorem inline_of_ofTemplate {template : String} (h : ofTemplate template = .ok tokens) :
    ∀ token ∈ tokens, token.Inline := by
  obtain ⟨rows, hrows, rfl⟩ := ofLines_eq_ok_iff.1 h
  refine inline_of_rows hrows fun numbered hnumbered hmem => ?_
  have hline : numbered.1 ∈ splitChar '\n' template.toList := by
    rw [← List.zipIdx_map_fst 1 (splitChar _ _)]
    exact List.mem_map_of_mem hnumbered
  exact (mem_of_mem_splitChar hline hmem).2 rfl

/-- What a directive of a line says is set apart by blanks, and within the directive. -/
theorem Inline.operand {d : Directive} {operand : String} (h : token.Inline)
    (hd : token.symbol? = some (.directive d)) (hoperand : operand ∈ d.operand?) :
    Operand operand := by
  obtain ⟨hkind, hspelled⟩ := symbol?_eq_directive_iff.1 hd
  obtain ⟨hproper, hparts⟩ := hspelled.operand
  obtain ⟨hnil, hbare⟩ := hproper operand hoperand
  have hpart := hparts operand hoperand
  refine ⟨?_, ?_, fun hmem => h.newline (hpart.mem hmem),
    fun hmem => h.closing hkind (hmem.trans hpart)⟩
  · rintro rfl
    exact hnil rfl
  · rw [trim, hbare.trimmed, String.ofList_toList]

end Token

/-! ## Texts -/

theorem sql_extract_ne_empty {text : String} (h : text ≠ "") : (extract text).sql ≠ "" := by
  intro hempty
  rw [extract, ← String.toList_inj, String.toList_ofList] at hempty
  have hscan : Piece.scan text.toList = [] := by
    refine List.eq_nil_iff_forall_not_mem.2 fun piece hpiece => ?_
    have hsql := List.flatMap_eq_nil_iff.1 hempty piece hpiece
    cases piece <;> cases hsql
  exact h (String.toList_eq_nil_iff.1 (Piece.scan_eq_nil_iff.1 hscan))

theorem newline_mem_of_mem_sql_extract {text : String} (h : '\n' ∈ (extract text).sql.toList) :
    '\n' ∈ text.toList := by
  rw [extract, String.toList_ofList] at h
  obtain ⟨piece, hpiece, hmem⟩ := List.mem_flatMap.1 h
  cases piece with
  | char c =>
    obtain rfl := List.mem_singleton.1 hmem
    exact Piece.mem_of_char_mem_scan hpiece
  | escape | bind _ => simp [Piece.sql] at hmem

theorem newline_mem_of_mem_joined {token : Token} {blank : Bool}
    (h : '\n' ∈ (token.joined blank).toList) : '\n' ∈ token.text.toList :=
  (Token.mem_of_mem_joined h).resolve_left (by decide)

theorem startsBlank_sql_extract (text : String) :
    startsBlank (extract (" " ++ text)).sql.toList := by
  have hscan : Piece.scan (' ' :: text.toList) = .char ' ' :: Piece.scan text.toList :=
    Piece.scan_blank rfl
  rw [extract, String.toList_append, String.toList_ofList]
  exact hscan ▸ rfl

/-- The SQL of a text is canonical. -/
theorem Fragment.canonical_extract {text : String} (hfilled : text ≠ "")
    (hnewline : '\n' ∉ text.toList) (line : Nat) :
    Fragment.Canonical ⟨(extract text).sql, (extract text).binds, line⟩ where
  filled := sql_extract_ne_empty hfilled
  newline := fun hmem => hnewline (newline_mem_of_mem_sql_extract hmem)
  settled := extract_sql_extract text

/-- A literal that begins a line is joined to the text before it by a blank, so that no placeholder
    arises where they meet. -/
theorem Fragment.Canonical.append {fragment : Fragment} {token : Token} (h : fragment.Canonical)
    (hstart : token.lineStart) (htoken : '\n' ∉ token.text.toList) :
    let new := extract (token.joined (endsBlank fragment.sql))
    Fragment.Canonical { fragment with
      sql := fragment.sql ++ new.sql, binds := fragment.binds ++ new.binds } := by
  intro new
  -- What is added begins with a blank, unless there is one already.
  have hblank : endsBlank fragment.sql ∨ startsBlank new.sql.toList := by
    cases hends : endsBlank fragment.sql with
    | true => exact .inl rfl
    | false =>
      have hjoined : new = extract (" " ++ trimStart token.text) := by
        simp only [new, Token.joined, hstart, hends, if_pos, Bool.false_eq_true, if_false]
      exact .inr (hjoined ▸ startsBlank_sql_extract _)
  refine ⟨?_, ?_, ?_⟩
  · rw [Ne, String.append_eq_empty_iff]
    exact fun hempty => h.filled hempty.1
  · rw [String.toList_append, List.mem_append, not_or]
    exact ⟨h.newline, fun hmem =>
      htoken (newline_mem_of_mem_joined (newline_mem_of_mem_sql_extract hmem))⟩
  · rw [extract_append hblank, h.settled, extract_sql_extract]
    rfl

/-! ## Bodies -/

namespace Node

variable {node : Node} {nodes : List Node}

theorem Apart.text {fragment : Fragment} (h : Apart node (.text fragment)) (other : Fragment) :
    Apart node (.text other) := by
  cases node with
  | text => exact h
  | clause | loop | cond => trivial

theorem apart_of_ne_concat_text {fragment : Fragment}
    (h : ∀ front fragment, nodes ≠ front ++ [.text fragment]) :
    ∀ last ∈ nodes.getLast?, Apart last (.text fragment) := by
  intro last hlast
  obtain ⟨front, rfl⟩ := List.getLast?_eq_some_iff.1 hlast
  cases last with
  | text other => exact h front other rfl
  | clause | loop | cond => trivial

namespace CanonicalBody

theorem nil : CanonicalBody [] :=
  .mk .nil nofun

theorem concat_iff : CanonicalBody (nodes ++ [node]) ↔
    CanonicalBody nodes ∧ node.Canonical ∧ ∀ last ∈ nodes.getLast?, Apart last node := by
  constructor
  · rintro ⟨hchain, hnodes⟩
    rw [List.isChain_append] at hchain
    rw [List.forall_mem_append] at hnodes
    exact ⟨.mk hchain.1 hnodes.1, hnodes.2 node List.mem_cons_self,
      fun last hlast => hchain.2.2 last hlast node rfl⟩
  · rintro ⟨⟨hchain, hnodes⟩, hnode, hapart⟩
    refine .mk (List.isChain_append.2 ⟨hchain, .singleton node, fun last hlast next hnext => ?_⟩)
      (List.forall_mem_append.2 ⟨hnodes, List.forall_mem_singleton.2 hnode⟩)
    exact Option.some.inj hnext ▸ hapart last hlast

/-- A literal keeps the form of the body, if it begins a line or no text comes before it. -/
theorem addLiteral {token : Token} (h : CanonicalBody nodes) (htoken : '\n' ∉ token.text.toList)
    (hseam : token.lineStart ∨ ∀ front fragment, nodes ≠ front ++ [.text fragment]) :
    CanonicalBody (Phrase.addLiteral nodes token) := by
  rw [Phrase.addLiteral]
  split
  · exact h
  · next hfilled =>
    rcases Builder.addText_cases nodes (Builder.addedText nodes token) token.line with
      ⟨front, fragment, rfl, hadd⟩ | ⟨hnone, hadd⟩
    · -- A text comes before, so the literal begins a line.
      have hstart : token.lineStart := hseam.resolve_right fun hnone => hnone front fragment rfl
      obtain ⟨hfront, ⟨hfragment⟩, hapart⟩ := concat_iff.1 h
      rw [hadd, addedText_eq, endsBlank_concat_text]
      refine concat_iff.2 ⟨hfront, .text (hfragment.append hstart htoken), fun last hlast => ?_⟩
      exact (hapart last hlast).text _
    · rw [hadd]
      refine concat_iff.2 ⟨h, .text (Fragment.canonical_extract ?_ ?_ _),
        apart_of_ne_concat_text hnone⟩
      · intro hempty
        exact hfilled (by rw [hempty]; rfl)
      · exact fun hmem => htoken (newline_mem_of_mem_joined hmem)

end CanonicalBody

end Node

/-! ## Open blocks -/

namespace OpenBlock

variable {block : OpenBlock} {body : List Node}

/-- The branches of a conditional that is open, up to the one that is read. -/
def branches : OpenBlock → List Branch
  | cond before condition body => before ++ [.mk condition body]
  | otherwise before _ => before
  | clause _ _ | loop _ _ => []

/-- A conditional that is open has a branch, and up to its `else`, what is read is the body of the
    one at the last place. It keeps its branches when it is closed. -/
def Branched (block : OpenBlock) : Prop :=
  block.kind = .cond → (∃ otherwise, block.close = .cond block.branches otherwise) ∧
    ∃ last, block.branches[block.branches.length - 1]? = some last ∧
      ((∃ before, block = .otherwise before block.body) ∨
        ∃ condition, last = .mk condition block.body)

theorem apart_close (block : OpenBlock) (node : Node) : node.Apart block.close := by
  cases block <;> cases node <;> trivial

theorem canonical_body (h : block.close.Canonical) : Node.CanonicalBody block.body := by
  cases block with
  | clause kind body =>
    obtain - | ⟨hbody⟩ := h
    exact hbody
  | loop header body =>
    obtain - | - | ⟨-, hbody⟩ := h
    exact hbody
  | cond before condition body =>
    obtain - | - | - | ⟨-, hbranches, -⟩ := h
    obtain ⟨-, hbody⟩ := hbranches (.mk condition body) (by simp)
    exact hbody
  | otherwise before body =>
    obtain - | - | - | ⟨-, -, hbody⟩ := h
    exact hbody body rfl

theorem canonical_withBody (h : block.close.Canonical) (hbody : Node.CanonicalBody body) :
    (block.withBody body).close.Canonical := by
  cases block with
  | clause kind _ => exact .clause hbody
  | loop header _ =>
    obtain - | - | ⟨hheader, -⟩ := h
    exact .loop hheader hbody
  | cond before condition _ =>
    obtain - | - | - | ⟨-, hbranches, -⟩ := h
    rw [List.forall_mem_append, List.forall_mem_singleton] at hbranches
    obtain ⟨hbefore, ⟨hcondition, -⟩⟩ := hbranches
    refine .cond (by simp) ?_ nofun
    exact List.forall_mem_append.2 ⟨hbefore, List.forall_mem_singleton.2 (.mk hcondition hbody)⟩
  | otherwise before _ =>
    obtain - | - | - | ⟨hne, hbranches, -⟩ := h
    exact .cond hne hbranches fun _ hmem => Option.some.inj hmem ▸ hbody

theorem branched (h : block.close.Canonical) : block.Branched := by
  intro hkind
  cases block with
  | clause | loop => cases hkind
  | cond before condition body =>
    exact ⟨⟨none, rfl⟩, .mk condition body, by simp [branches], .inr ⟨condition, rfl⟩⟩
  | otherwise before body =>
    obtain - | - | - | ⟨hne, -, -⟩ := h
    refine ⟨⟨some body, rfl⟩, before.getLast hne, ?_, .inl ⟨before, rfl⟩⟩
    rw [branches, ← List.getLast?_eq_getElem?, List.getLast?_eq_getLast_of_ne_nil hne]

end OpenBlock

/-! ## Builders -/

namespace Builder

/-- The blocks that are open are canonical if they are closed, and so is what is outside of them. -/
structure Canonical (b : Builder) : Prop where
  /-- The nodes outside of all blocks. -/
  root : Node.CanonicalBody b.root
  /-- The open blocks. -/
  frames : ∀ frame ∈ b.frames, frame.block.close.Canonical

variable {b b' : Builder} {nodes : List Node} {token : Token} {tokens : List Token}

namespace Canonical

theorem empty : Canonical {} :=
  ⟨.nil, nofun⟩

theorem body (h : b.Canonical) : Node.CanonicalBody b.body := by
  obtain ⟨root, _ | ⟨frame, frames⟩⟩ := b
  · exact h.root
  · exact OpenBlock.canonical_body (h.frames frame List.mem_cons_self)

theorem withBody (h : b.Canonical) (hnodes : Node.CanonicalBody nodes) :
    (b.withBody nodes).Canonical := by
  obtain ⟨root, _ | ⟨frame, frames⟩⟩ := b
  · exact ⟨hnodes, nofun⟩
  · obtain ⟨hframe, hframes⟩ := List.forall_mem_cons.1 h.frames
    exact ⟨h.root, List.forall_mem_cons.2 ⟨OpenBlock.canonical_withBody hframe hnodes, hframes⟩⟩

theorem openBlock {block : OpenBlock} (h : b.Canonical) (hblock : block.close.Canonical) :
    (b.openBlock token block).Canonical :=
  ⟨h.root, List.forall_mem_cons.2 ⟨hblock, h.frames⟩⟩

/-- A directive keeps the form of what is built. -/
theorem addDirective {d : Directive} (h : b.Canonical)
    (hoperand : ∀ operand ∈ d.operand?, Operand operand)
    (hadd : b.addDirective token d = .ok b') : b'.Canonical := by
  cases d with
  | clause kind =>
    obtain rfl := Except.ok.inj hadd
    exact h.openBlock (.clause .nil)
  | loop header =>
    obtain rfl := Except.ok.inj hadd
    exact h.openBlock (.loop (hoperand header rfl) .nil)
  | cond condition =>
    obtain rfl := Except.ok.inj hadd
    exact h.openBlock (.cond (by simp) (by simpa using .mk (hoperand condition rfl) .nil) nofun)
  | elseCond condition =>
    obtain ⟨root, _ | ⟨⟨block, line, column⟩, frames⟩⟩ := b
    · cases hadd
    · cases block with
      | clause | loop | otherwise => cases hadd
      | cond branches before body =>
        obtain rfl := Except.ok.inj hadd
        obtain ⟨hframe, hframes⟩ := List.forall_mem_cons.1 h.frames
        -- The branch that was read is one of those before the new one.
        obtain - | - | - | ⟨-, hbranches, -⟩ := hframe
        refine ⟨h.root, List.forall_mem_cons.2 ⟨.cond (by simp) ?_ nofun, hframes⟩⟩
        exact List.forall_mem_append.2 ⟨hbranches,
          List.forall_mem_singleton.2 (.mk (hoperand condition rfl) .nil)⟩
  | otherwise =>
    obtain ⟨root, _ | ⟨⟨block, line, column⟩, frames⟩⟩ := b
    · cases hadd
    · cases block with
      | clause | loop | otherwise => cases hadd
      | cond branches before body =>
        obtain rfl := Except.ok.inj hadd
        obtain ⟨hframe, hframes⟩ := List.forall_mem_cons.1 h.frames
        obtain - | - | - | ⟨hne, hbranches, -⟩ := hframe
        exact ⟨h.root, List.forall_mem_cons.2 ⟨.cond hne hbranches
          fun _ hmem => Option.some.inj hmem ▸ .nil, hframes⟩⟩
  | close =>
    obtain ⟨root, _ | ⟨frame, frames⟩⟩ := b
    · cases hadd
    · obtain rfl := Except.ok.inj hadd
      obtain ⟨hframe, hframes⟩ := List.forall_mem_cons.1 h.frames
      have houter : Canonical { root, frames } := ⟨h.root, hframes⟩
      exact houter.withBody (Node.CanonicalBody.concat_iff.2
        ⟨houter.body, hframe, fun last _ => frame.block.apart_close last⟩)

end Canonical

/-- A literal may come next if it begins a line, or no text comes right before it. -/
def Ready (b : Builder) (token : Token) : Prop :=
  token.kind = .literal → token.lineStart ∨ ∀ front fragment, b.body ≠ front ++ [.text fragment]

theorem ready_of_add {next : Token} (h : b.add token = .ok b') (hseam : token.Seam next) :
    b'.Ready next := by
  intro hnext
  rcases cases_add h with ⟨hkind, -⟩ | ⟨d, -, hadd⟩
  · exact .inl (hseam hkind hnext)
  · exact .inr (ne_concat_text_of_addDirective hadd)

namespace Canonical

/-- A token of a line that may come next keeps the form of what is built. -/
theorem add (h : b.Canonical) (htoken : token.Inline) (hready : b.Ready token)
    (hadd : b.add token = .ok b') : b'.Canonical := by
  rcases cases_add hadd with ⟨hkind, rfl⟩ | ⟨d, hd, hadd⟩
  · exact h.withBody (h.body.addLiteral htoken.newline (hready hkind))
  · exact h.addDirective (fun operand => htoken.operand hd) hadd

/-- So do the tokens of lines, one after the other. -/
theorem addAll (h : b.Canonical) (htokens : ∀ token ∈ tokens, token.Inline)
    (hchain : tokens.IsChain Token.Seam) (hready : ∀ token ∈ tokens.head?, b.Ready token)
    (hadd : b.addAll tokens = .ok b') : b'.Canonical := by
  induction tokens generalizing b with
  | nil =>
    obtain rfl := Except.ok.inj hadd
    exact h
  | cons token tokens ih =>
    obtain ⟨next, hnext, hadd⟩ := Except.exists_of_bind hadd
    obtain ⟨htoken, htokens⟩ := List.forall_mem_cons.1 htokens
    obtain ⟨hseam, hchain⟩ := List.isChain_cons.1 hchain
    exact ih (h.add htoken (hready token rfl) hnext) htokens hchain
      (fun token' hmem => ready_of_add hnext (hseam token' hmem)) hadd

/-- What is built from the first tokens of a template is canonical. -/
theorem of_ofTemplate {template : String} {done : List Token}
    (htokens : Token.ofTemplate template = .ok tokens) (hdone : done <+: tokens)
    (hadd : Builder.addAll {} done = .ok b) : b.Canonical := by
  have hinline := Token.inline_of_ofTemplate htokens
  have hchain : done.IsChain Token.Seam :=
    List.IsChain.prefix (Token.chain_ofTemplate htokens) hdone
  refine empty.addAll (fun token hmem => hinline token (hdone.mem hmem)) hchain
    (fun token _ _ => .inr fun front fragment hbody => ?_) hadd
  simp [Builder.body] at hbody

end Canonical

end Builder

/-- The tree of a template is canonical, and while it is built, every conditional that is open has
    a branch at the last place, which is the one that is read up to its `else`. -/
theorem ofTemplate_canonical (template : String) :
    (∀ nodes, Node.ofTemplate template = .ok nodes → Node.CanonicalBody nodes) ∧
    ∀ tokens done b, Token.ofTemplate template = .ok tokens → done <+: tokens →
      Builder.addAll {} done = .ok b →
      b.Canonical ∧ ∀ frame ∈ b.frames, frame.block.Branched := by
  constructor
  · intro nodes hnodes
    obtain ⟨tokens, htokens, hnodes⟩ := Except.exists_of_bind hnodes
    obtain ⟨b, hb, hfinish⟩ := Except.exists_of_bind hnodes
    have hcanonical := Builder.Canonical.of_ofTemplate htokens (List.prefix_refl tokens) hb
    -- No block is open at the end, and what is outside of blocks is the tree.
    rw [Builder.eq_of_finish hfinish] at hcanonical
    exact hcanonical.root
  · intro tokens done b htokens hdone hb
    have hcanonical := Builder.Canonical.of_ofTemplate htokens hdone hb
    exact ⟨hcanonical, fun frame hframe => OpenBlock.branched (hcanonical.frames frame hframe)⟩

theorem Except.eq_ok_of_toOption {ε α : Type} {x : Except ε α} {a : α}
    (h : x.toOption = some a) : x = .ok a := by
  cases x with
  | error e => cases h
  | ok a' => exact congrArg Except.ok (Option.some.inj h)

/-- Lines joined before a conditional, which is open within its `else` around a loop. -/
theorem ofTemplate_canonical_nested :
    let template := "a@b\r\n \\@c\n\n\x7b\x7b if x \x7d\x7d d \n\x7b\x7belse\x7d\x7d" ++
      "\x7b\x7bfor  y of z\x7d\x7d@y\x7b\x7bend\x7d\x7d\x7b\x7bend\x7d\x7d"
    ∃ tokens nodes b, Token.ofTemplate template = .ok tokens ∧
      Node.ofTemplate template = .ok nodes ∧ nodes.length = 2 ∧ Node.CanonicalBody nodes ∧
      Builder.addAll {} (tokens.take 10) = .ok b ∧
      b.frames.map (·.block.branches.length) = [0, 1] ∧
      b.Canonical ∧ ∀ frame ∈ b.frames, frame.block.Branched := by
  intro template
  have hnodes : (Node.ofTemplate template).toOption.map List.length = some 2 := by decide +kernel
  have hframes : ((Token.ofTemplate template).toOption.bind fun tokens =>
      (Builder.addAll {} (tokens.take 10)).toOption.map fun b =>
        b.frames.map (·.block.branches.length)) = some [0, 1] := by decide +kernel
  obtain ⟨nodes, htree, hlength⟩ := Option.map_eq_some_iff.1 hnodes
  obtain ⟨tokens, htokens, hframes⟩ := Option.bind_eq_some_iff.1 hframes
  obtain ⟨b, hb, hframes⟩ := Option.map_eq_some_iff.1 hframes
  have htree := Except.eq_ok_of_toOption htree
  have htokens := Except.eq_ok_of_toOption htokens
  have hb := Except.eq_ok_of_toOption hb
  obtain ⟨hcanonical, hbuilder⟩ := ofTemplate_canonical template
  exact ⟨tokens, nodes, b, htokens, htree, hlength, hcanonical nodes htree, hb, hframes,
    hbuilder tokens _ b htokens ⟨_, List.take_append_drop 10 tokens⟩ hb⟩

end QueryTemplate
