import QueryTemplate.Directive
import QueryTemplate.Token
import QueryTemplate.Tree

/-!
# Building trees

A tree is built from tokens, one after the other, with the blocks that are still
open on a stack. A text joins the text before it; the text that a line begins
with is joined by one blank.

* `OpenBlock`: a block that is not closed yet;
* `Builder`: the nodes outside of all blocks and the open blocks;
* `Builder.add`: the builder after one more token;
* `Node.ofTemplate`: the tree of a template.
-/

namespace QueryTemplate

/-- A block that is not closed yet. -/
inductive OpenBlock where
  /-- A clause with the parts read so far. -/
  | clause (kind : ClauseKind) (body : List Node)
  /-- A loop with what is read of its body. -/
  | loop (header : String) (body : List Node)
  /-- A conditional within a branch, after the branches read before it. -/
  | cond (branches : List Branch) (condition : String) (body : List Node)
  /-- A conditional within its last branch, which has no condition. -/
  | otherwise (branches : List Branch) (body : List Node)

namespace OpenBlock

/-- The kind of an open block. -/
def kind : OpenBlock → BlockKind
  | clause kind _ => .clause kind
  | loop _ _ => .loop
  | cond _ _ _ | otherwise _ _ => .cond

/-- The nodes that the next node is added to. -/
def body : OpenBlock → List Node
  | clause _ body | loop _ body | cond _ _ body | otherwise _ body => body

/-- The open block with other nodes in the place of those it adds to. -/
def withBody (body : List Node) : OpenBlock → OpenBlock
  | clause kind _ => clause kind body
  | loop header _ => loop header body
  | cond branches condition _ => cond branches condition body
  | otherwise branches _ => otherwise branches body

/-- The node of a block that is closed. -/
def close : OpenBlock → Node
  | clause kind body => .clause kind body
  | loop header body => .loop header body
  | cond branches condition body => .cond (branches ++ [.mk condition body]) none
  | otherwise branches body => .cond branches (some body)

end OpenBlock

/-- An open block with the place of the directive that opened it. -/
structure OpenFrame where
  /-- The block. -/
  block : OpenBlock
  /-- The line of the directive. -/
  line : Nat
  /-- The column of the directive. -/
  column : Nat

/-- The state in which a tree is built. -/
structure Builder where
  /-- The nodes outside of all open blocks. -/
  root : List Node := []
  /-- The open blocks, the innermost first. -/
  frames : List OpenFrame := []

namespace Builder

/-- The nodes that the next node is added to. -/
def body (b : Builder) : List Node :=
  match b.frames with
  | [] => b.root
  | frame :: _ => frame.block.body

/-- The builder with other nodes in the place of those it adds to. -/
def withBody (b : Builder) (body : List Node) : Builder :=
  match b.frames with
  | [] => { b with root := body }
  | frame :: frames =>
    { b with frames := { frame with block := frame.block.withBody body } :: frames }

/-- Whether the last of the nodes is a text that ends in a blank. -/
def endsBlank (nodes : List Node) : Bool :=
  match nodes.getLast? with
  | some (.text fragment) => Text.endsBlank fragment.sql
  | _ => false

/-- The text that a literal adds: at the start of a line, blanks give way to one
    blank, which may be there already. -/
def addedText (nodes : List Node) (token : Token) : String :=
  if token.lineStart then
    let rest := Text.trimStart token.text
    if endsBlank nodes then rest else " " ++ rest
  else token.text

/-- The nodes with a text added: it joins a text before it. -/
def addText (nodes : List Node) (text : String) (line : Nat) : List Node :=
  let new := extract text
  match nodes.getLast? with
  | some (.text fragment) =>
    nodes.dropLast ++
      [.text { fragment with sql := fragment.sql ++ new.sql, binds := fragment.binds ++ new.binds }]
  | _ => nodes ++ [.text { sql := new.sql, binds := new.binds, line := line }]

/-- The builder after a literal. -/
def addLiteral (b : Builder) (token : Token) : Builder :=
  let text := addedText b.body token
  if text.isEmpty then b else b.withBody (addText b.body text token.line)

/-- The builder after a directive that opens a block. -/
def openBlock (b : Builder) (token : Token) (block : OpenBlock) : Builder :=
  { b with frames := { block := block, line := token.line, column := token.column } :: b.frames }

/-- The fault of a directive. -/
def fault (token : Token) (cause : SyntaxError.Cause) : SyntaxError :=
  { cause := cause, line := token.line, column := token.column, found := some token.text }

/-- The builder after a directive. -/
def addDirective (b : Builder) (token : Token) : Directive → Except SyntaxError Builder
  | .clause kind => .ok (b.openBlock token (.clause kind []))
  | .loop header => .ok (b.openBlock token (.loop header []))
  | .cond condition => .ok (b.openBlock token (.cond [] condition []))
  | .elseCond condition =>
    match b.frames with
    | { block := .cond branches before body, line, column } :: frames =>
      let block := .cond (branches ++ [.mk before body]) condition []
      .ok { b with frames := { block := block, line := line, column := column } :: frames }
    | { block := .otherwise _ _, .. } :: _ => .error (fault token .elseIfAfterElse)
    | _ => .error (fault token .elseIfWithoutIf)
  | .otherwise =>
    match b.frames with
    | { block := .cond branches before body, line, column } :: frames =>
      let block := .otherwise (branches ++ [.mk before body]) []
      .ok { b with frames := { block := block, line := line, column := column } :: frames }
    | { block := .otherwise _ _, .. } :: _ => .error (fault token .duplicateElse)
    | _ => .error (fault token .elseWithoutIf)
  | .close =>
    match b.frames with
    | [] => .error (fault token .unmatchedEnd)
    | frame :: frames =>
      let outer := { b with frames := frames }
      .ok (outer.withBody (outer.body ++ [frame.block.close]))

/-- The builder after one more token. -/
def add (b : Builder) (token : Token) : Except SyntaxError Builder :=
  match token.kind with
  | .literal => .ok (b.addLiteral token)
  | .directive =>
    match Directive.read? token.text with
    | some directive => b.addDirective token directive
    | none => .error (fault token .unknownDirective)

/-- The builder after more tokens. -/
def addAll (b : Builder) : List Token → Except SyntaxError Builder
  | [] => .ok b
  | token :: tokens => do (← b.add token).addAll tokens

/-- The tree, if no block is open; else the fault of the outermost one. -/
def finish (b : Builder) : Except SyntaxError (List Node) :=
  match b.frames.getLast? with
  | none => .ok b.root
  | some frame =>
    .error
      { cause := .unclosedBlock
        line := frame.line
        column := frame.column
        block := some frame.block.kind }

end Builder

/-- The tree of a template. -/
def Node.ofTemplate (template : String) : Except SyntaxError (List Node) := do
  (← Builder.addAll {} (← Token.ofTemplate template)).finish

end QueryTemplate
