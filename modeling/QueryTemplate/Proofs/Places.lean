import QueryTemplate.Proofs.Phrases

/-!
# Places

Tokens, trees and faults carry their places: lines and columns. Nothing that is built
from tokens depends on the places but the places themselves. So they may be forgotten
before a tree is built from tokens, or after that.

* `Node.unplaced`, `Token.unplaced`, `SyntaxError.unplaced`: without places;
* `Node.ofTokens`: the tree of tokens;
* `Node.ofTokens_unplaced`: the tree of tokens without places is their tree without
  places, and so are the faults.
-/

namespace QueryTemplate

/-! ## Without places -/

namespace Node

mutual

/-- A node without places. -/
def unplacedOf : Node → Node
  | text fragment => text { fragment with line := 0 }
  | clause kind body => clause kind (unplaced body)
  | loop header body => loop header (unplaced body)
  | cond branches none => cond (unplacedBranches branches) none
  | cond branches (some body) => cond (unplacedBranches branches) (some (unplaced body))

/-- Nodes without places. -/
def unplaced : List Node → List Node
  | [] => []
  | node :: nodes => node.unplacedOf :: unplaced nodes

/-- Branches without places. -/
def unplacedBranches : List Branch → List Branch
  | [] => []
  | .mk condition body :: branches => .mk condition (unplaced body) :: unplacedBranches branches

end

theorem unplaced_eq_map (nodes : List Node) : unplaced nodes = nodes.map unplacedOf := by
  induction nodes with
  | nil => rfl
  | cons node nodes ih => rw [unplaced, ih, List.map_cons]

theorem unplaced_append (nodes more : List Node) :
    unplaced (nodes ++ more) = unplaced nodes ++ unplaced more := by
  simp only [unplaced_eq_map, List.map_append]

theorem eq_text_of_unplacedOf {node : Node} {fragment : Fragment}
    (h : node.unplacedOf = text fragment) : ∃ fragment', node = text fragment' := by
  cases node with
  | text fragment' => exact ⟨fragment', rfl⟩
  | clause | loop => cases h
  | cond branches otherwise =>
    cases otherwise <;> cases h

/-- Without places, nodes end in a text only if they did before. -/
theorem unplaced_ne_concat_text {nodes : List Node}
    (h : ∀ front fragment, nodes ≠ front ++ [.text fragment]) :
    ∀ front fragment, unplaced nodes ≠ front ++ [.text fragment] := by
  intro front fragment hnodes
  rw [unplaced_eq_map] at hnodes
  obtain ⟨front', last, rfl, -, hlast⟩ := List.map_eq_append_iff.1 hnodes
  obtain ⟨node, rfl, hnode⟩ := List.map_eq_singleton_iff.1 hlast
  obtain ⟨fragment', rfl⟩ := eq_text_of_unplacedOf hnode
  exact h front' fragment' rfl

theorem unplacedBranches_concat (branches : List Branch) (condition : String) (body : List Node) :
    unplacedBranches (branches ++ [.mk condition body]) =
      unplacedBranches branches ++ [.mk condition (unplaced body)] := by
  induction branches with
  | nil => rfl
  | cons branch branches ih =>
    obtain ⟨condition', body'⟩ := branch
    rw [List.cons_append, unplacedBranches, ih, unplacedBranches, List.cons_append]

end Node

/-- A token without its place; that it begins a line is kept. -/
def Token.unplaced (token : Token) : Token :=
  { token with line := 0, column := 0 }

@[simp]
theorem Token.kind_unplaced (token : Token) : token.unplaced.kind = token.kind := rfl

@[simp]
theorem Token.text_unplaced (token : Token) : token.unplaced.text = token.text := rfl

@[simp]
theorem Token.lineStart_unplaced (token : Token) :
    token.unplaced.lineStart = token.lineStart := rfl

@[simp]
theorem Token.line_unplaced (token : Token) : token.unplaced.line = 0 := rfl

/-- A fault without its place. -/
def SyntaxError.unplaced (e : SyntaxError) : SyntaxError :=
  { e with line := 0, column := 0 }

/-- An open block without places. -/
def OpenBlock.unplaced : OpenBlock → OpenBlock
  | clause kind body => clause kind (Node.unplaced body)
  | loop header body => loop header (Node.unplaced body)
  | cond branches condition body =>
    cond (Node.unplacedBranches branches) condition (Node.unplaced body)
  | otherwise branches body => otherwise (Node.unplacedBranches branches) (Node.unplaced body)

/-- An open block without places and without the place of its directive. -/
def OpenFrame.unplaced (frame : OpenFrame) : OpenFrame :=
  { block := frame.block.unplaced, line := 0, column := 0 }

/-- A builder without places. -/
def Builder.unplaced (b : Builder) : Builder :=
  { root := Node.unplaced b.root, frames := b.frames.map OpenFrame.unplaced }

/-- The outcome of reading, with the places in a result forgotten by `f`. -/
def unplacedBy {α : Type} (f : α → α) : Except SyntaxError α → Except SyntaxError α
  | .ok a => .ok (f a)
  | .error e => .error e.unplaced

/-! ## Builders -/

namespace OpenBlock

theorem body_unplaced (block : OpenBlock) : block.unplaced.body = Node.unplaced block.body := by
  cases block <;> rfl

theorem withBody_unplaced (block : OpenBlock) (nodes : List Node) :
    block.unplaced.withBody (Node.unplaced nodes) = (block.withBody nodes).unplaced := by
  cases block <;> rfl

theorem kind_unplaced (block : OpenBlock) : block.unplaced.kind = block.kind := by
  cases block <;> rfl

theorem close_unplaced (block : OpenBlock) : block.unplaced.close = block.close.unplacedOf := by
  cases block with
  | clause | loop | otherwise => simp [unplaced, close, Node.unplacedOf]
  | cond branches condition body =>
    simp [unplaced, close, Node.unplacedOf, Node.unplacedBranches_concat]

end OpenBlock

namespace Builder

theorem body_unplaced (b : Builder) : b.unplaced.body = Node.unplaced b.body := by
  obtain ⟨root, frames⟩ := b
  cases frames with
  | nil => rfl
  | cons frame frames => exact frame.block.body_unplaced

theorem withBody_unplaced (b : Builder) (nodes : List Node) :
    b.unplaced.withBody (Node.unplaced nodes) = (b.withBody nodes).unplaced := by
  obtain ⟨root, frames⟩ := b
  cases frames with
  | nil => rfl
  | cons frame frames =>
    simp [unplaced, withBody, OpenFrame.unplaced, OpenBlock.withBody_unplaced]

theorem addText_concat (nodes : List Node) (fragment : Fragment) (text : String) (line : Nat) :
    addText (nodes ++ [.text fragment]) text line =
      nodes ++ [.text { fragment with
        sql := fragment.sql ++ (extract text).sql
        binds := fragment.binds ++ (extract text).binds }] := by
  rw [addText, List.getLast?_concat, List.dropLast_concat]

theorem addText_of_ne {nodes : List Node} (h : ∀ front fragment, nodes ≠ front ++ [.text fragment])
    (text : String) (line : Nat) :
    addText nodes text line =
      nodes ++ [.text
        { sql := (extract text).sql, binds := (extract text).binds, line := line }] := by
  rcases addText_cases nodes text line with ⟨front, fragment, hnodes, -⟩ | ⟨-, hadd⟩
  · exact absurd hnodes (h front fragment)
  · exact hadd

theorem endsBlank_unplaced (nodes : List Node) :
    endsBlank (Node.unplaced nodes) = endsBlank nodes := by
  rw [endsBlank, endsBlank, Node.unplaced_eq_map, List.getLast?_map]
  cases nodes.getLast? with
  | none => rfl
  | some node =>
    cases node with
    | text | clause | loop => rfl
    | cond branches otherwise => cases otherwise <;> rfl

theorem addText_unplaced (nodes : List Node) (text : String) (line : Nat) :
    addText (Node.unplaced nodes) text 0 = Node.unplaced (addText nodes text line) := by
  rcases addText_cases nodes text line with ⟨front, fragment, rfl, hadd⟩ | ⟨hne, hadd⟩
  · rw [hadd, Node.unplaced_append, Node.unplaced_append]
    exact addText_concat (Node.unplaced front) { fragment with line := 0 } text 0
  · rw [hadd, Node.unplaced_append, addText_of_ne (Node.unplaced_ne_concat_text hne)]
    rfl

theorem addLiteral_unplaced (nodes : List Node) (token : Token) :
    Phrase.addLiteral (Node.unplaced nodes) token.unplaced =
      Node.unplaced (Phrase.addLiteral nodes token) := by
  have htext : addedText (Node.unplaced nodes) token.unplaced = addedText nodes token := by
    rw [addedText, addedText, endsBlank_unplaced]
    rfl
  rw [Phrase.addLiteral, Phrase.addLiteral, htext]
  split
  · rfl
  · exact addText_unplaced ..

/-- A directive does the same without places. -/
theorem addDirective_unplaced (b : Builder) (token : Token) (directive : Directive) :
    b.unplaced.addDirective token.unplaced directive =
      unplacedBy unplaced (b.addDirective token directive) := by
  obtain ⟨root, frames⟩ := b
  cases directive with
  | clause | loop | cond => rfl
  | elseCond | otherwise =>
    rcases frames with - | ⟨⟨block, line, column⟩, frames⟩
    · rfl
    · cases block with
      | clause | loop | otherwise => rfl
      | cond branches before body =>
        simp [unplaced, addDirective, unplacedBy, OpenFrame.unplaced, OpenBlock.unplaced,
          Node.unplacedBranches_concat, Node.unplaced]
  | close =>
    rcases frames with - | ⟨frame, frames⟩
    · rfl
    · -- The node of the block goes to the body around it.
      let outer : Builder := ⟨root, frames⟩
      have houter : outer.unplaced.withBody (outer.unplaced.body ++ [frame.block.unplaced.close]) =
          (outer.withBody (outer.body ++ [frame.block.close])).unplaced := by
        rw [← withBody_unplaced, body_unplaced, OpenBlock.close_unplaced, Node.unplaced_append]
        rfl
      exact congrArg Except.ok houter

theorem add_unplaced (b : Builder) (token : Token) :
    b.unplaced.add token.unplaced = unplacedBy unplaced (b.add token) := by
  cases hkind : token.kind with
  | literal =>
    rw [add_literal b hkind, add_literal b.unplaced (token.kind_unplaced.trans hkind),
      body_unplaced, addLiteral_unplaced, withBody_unplaced]
    rfl
  | directive =>
    simp only [add, Token.kind_unplaced, hkind, Token.text_unplaced]
    cases Directive.read? token.text with
    | none => rfl
    | some directive => exact addDirective_unplaced b token directive

theorem addAll_unplaced (b : Builder) (tokens : List Token) :
    b.unplaced.addAll (tokens.map Token.unplaced) = unplacedBy unplaced (b.addAll tokens) := by
  induction tokens generalizing b with
  | nil => rfl
  | cons token tokens ih =>
    rw [List.map_cons, addAll, addAll, add_unplaced]
    cases b.add token with
    | error e => rfl
    | ok b' => exact ih b'

theorem finish_unplaced (b : Builder) :
    b.unplaced.finish = unplacedBy Node.unplaced b.finish := by
  rw [finish, finish, unplaced, List.getLast?_map]
  cases b.frames.getLast? with
  | none => rfl
  | some frame =>
    simp [unplacedBy, SyntaxError.unplaced, OpenFrame.unplaced, OpenBlock.kind_unplaced]

end Builder

/-- The tree of tokens. -/
def Node.ofTokens (tokens : List Token) : Except SyntaxError (List Node) := do
  (← Builder.addAll {} tokens).finish

theorem Node.ofTemplate_eq {template : String} {tokens : List Token}
    (h : Token.ofTemplate template = .ok tokens) :
    Node.ofTemplate template = Node.ofTokens tokens := by
  rw [Node.ofTemplate, h]
  rfl

/-- Places may be forgotten before a tree is built or after that. -/
theorem Node.ofTokens_unplaced (tokens : List Token) :
    Node.ofTokens (tokens.map Token.unplaced) =
      unplacedBy Node.unplaced (Node.ofTokens tokens) := by
  have hall : Builder.addAll {} (tokens.map Token.unplaced) = _ := Builder.addAll_unplaced {} tokens
  rw [Node.ofTokens, Node.ofTokens, hall]
  cases Builder.addAll {} tokens with
  | error e => rfl
  | ok b => exact b.finish_unplaced

end QueryTemplate
