import QueryTemplate.Host.Syntax
import QueryTemplate.Program
import QueryTemplate.Settings
import QueryTemplate.Target.CodeError
import QueryTemplate.Text.Escape

/-!
# Rust blocks

A program as a Rust block whose value is the SQL and the parameters of its query.
Blocks of instructions become blocks of code; they have to be closed in the order
in which they were opened.

* `RustBlock.Emitter`: the code made so far, with the blocks that are still open;
* `RustBlock.Emitter.step`: the code after one more instruction;
* `RustBlock.ofProgram`: the block of a program.
-/

namespace QueryTemplate

namespace RustBlock

/-- Names, literals and operators as tokens. -/
def words (texts : List String) : List CodeToken :=
  texts.map .word

/-- The variables that collect a query. -/
def root : Sink :=
  { buffer := "__sb", params := "__params" }

/-- The variables that collect a clause `depth` clauses deep. -/
def scratch (depth : Nat) : Sink :=
  { buffer := "__tmp" ++ toString depth, params := "__tmp_params" ++ toString depth }

/-- The path of something in the support library. -/
def inRuntime (runtime : List CodeToken) (names : List String) : List CodeToken :=
  runtime ++ names.flatMap fun name => words ["::", name]

/-- The declarations of the variables that collect; `make` makes the parameters. -/
def declarations (runtime : List CodeToken) (sink : Sink) (make : List CodeToken) :
    List CodeToken :=
  let allow : List CodeToken :=
    [.word "#", .brackets [.word "allow", .parens [.word "unused_mut"]]]
  allow ++ words ["let", "mut", sink.buffer, "=", "::", "std", "::", "string", "::", "String",
    "::", "new"] ++ [.parens [], .word ";"] ++
  allow ++ words ["let", "mut", sink.params, ":", "::", "std", "::", "vec", "::", "Vec", "<"] ++
    inRuntime runtime ["Value"] ++
    words [">", "=", "::", "std", "::", "vec", "::", "Vec"] ++ make ++ [.word ";"]

/-- The statement that writes SQL. -/
def writeStmt (sink : Sink) (sql : String) : List CodeToken :=
  words [sink.buffer, ".", "push_str"] ++ [.parens [.word (Text.quotedLiteral sql)], .word ";"]

/-- What is read from a text, where an error is one of the given cause. -/
def readText {α : Type} (read : String → Except String α) (cause : CodeError.Cause)
    (text : String) : Except CodeError α :=
  (read text).mapError (.unreadable cause text)

/-- A value of the support library made from a reference to a table. -/
def tableValue (runtime : List CodeToken) : List CodeToken :=
  inRuntime runtime ["Value", "table"] ++ [.parens []]

/-- A value of the support library made from SQL. -/
def rawValue (runtime expr : List CodeToken) : List CodeToken :=
  inRuntime runtime ["Value", "raw"] ++ [.parens [.word "&", .parens expr]]

/-- A value of the support library made from that of an expression. -/
def exprValue (runtime expr : List CodeToken) : List CodeToken :=
  inRuntime runtime ["Value", "from"] ++
    [.parens (words ["::", "std", "::", "clone", "::", "Clone", "::", "clone"] ++
      [.parens [.word "&", .parens expr]])]

/-- What a placeholder binds, as a value of the support library. -/
def bindValue (host : HostSyntax) (runtime : List CodeToken) :
    Bind → Except CodeError (List CodeToken)
  | .table => .ok (tableValue runtime)
  | .raw expr => rawValue runtime <$> readText host.expr .invalidBindExpression expr
  | .value expr => exprValue runtime <$> readText host.expr .invalidBindExpression expr

/-- The statement that adds a parameter. -/
def pushStmt (sink : Sink) (value : List CodeToken) : List CodeToken :=
  words [sink.params, ".", "push"] ++ [.parens value, .word ";"]

/-- The statements that add parameters. -/
def bindStmts (host : HostSyntax) (runtime : List CodeToken) (sink : Sink) :
    List Bind → Except CodeError (List CodeToken)
  | [] => .ok []
  | bind :: binds => do
    let value ← bindValue host runtime bind
    let stmts ← bindStmts host runtime sink binds
    return pushStmt sink value ++ stmts

/-- The name of a kind of clauses in the support library. -/
def kindName : ClauseKind → String
  | .conditions => "Where"
  | .assignments => "Set"

/-- The block that collects a clause in `sink` and appends it to `outer`. -/
def clauseBlock (runtime : List CodeToken) (kind : ClauseKind) (sink outer : Sink)
    (body : List CodeToken) : CodeToken :=
  .braces (declarations runtime sink (words ["::", "new"] ++ [.parens []]) ++ body ++
    inRuntime runtime ["runtime", "append_clause"] ++
    [.parens (inRuntime runtime ["ClauseKind", kindName kind] ++
      words [",", "&", sink.buffer, ",", sink.params, ",", "&", "mut", outer.buffer, ",", "&",
        "mut", outer.params]), .word ";"])

/-- The code of a loop up to its brace. -/
def loopHead (pattern items : List CodeToken) : List CodeToken :=
  .word "for" :: pattern ++ .word "in" :: items

/-- A block of code that is still open. -/
inductive OpenCode where
  /-- A conditional: its code up to the brace of the branch being made. -/
  | cond (code : List CodeToken)
  /-- A loop: its code up to its brace. -/
  | loop (code : List CodeToken)
  /-- A clause of the given kind. -/
  | clause (kind : ClauseKind)

/-- Whether an open block is a clause. -/
def OpenCode.isClause : OpenCode → Bool
  | clause _ => true
  | _ => false

/-- The code made so far. -/
structure Emitter where
  /-- The statements of the innermost open block. -/
  body : List CodeToken := []
  /-- The open blocks, the innermost first, each with the statements before it. -/
  outer : List (OpenCode × List CodeToken) := []

namespace Emitter

/-- The variables that collect within open blocks. -/
def sinkOf (blocks : List (OpenCode × List CodeToken)) : Sink :=
  match (blocks.filter (·.1.isClause)).length with
  | 0 => root
  | depth => scratch depth

/-- The code with statements added. -/
def add (e : Emitter) (stmts : List CodeToken) : Emitter :=
  { e with body := e.body ++ stmts }

/-- The code with a block opened. -/
def openBlock (e : Emitter) (block : OpenCode) : Emitter :=
  { body := [], outer := (block, e.body) :: e.outer }

/-- The error of an instruction that does not fit into the open blocks. -/
def unbalanced : CodeError :=
  { cause := .unbalancedProgram }

/-- The code with the next branch of a conditional, which begins with `head`. -/
def nextBranch (e : Emitter) (head : List CodeToken) : Except CodeError Emitter :=
  match e.outer with
  | (.cond code, before) :: outer =>
    .ok { body := [], outer := (.cond (code ++ .braces e.body :: head), before) :: outer }
  | _ => .error unbalanced

/-- The code after one more instruction. -/
def step (host : HostSyntax) (runtime : List CodeToken) (e : Emitter) :
    Instr → Except CodeError Emitter
  | .literal sql =>
    .ok (if sql.isEmpty then e else e.add (writeStmt (sinkOf e.outer) sql))
  | .bind binds => do
    return e.add (← bindStmts host runtime (sinkOf e.outer) binds)
  | .beginIf condition => do
    let tokens ← readText host.expr .invalidCondition condition
    return e.openBlock (.cond (.word "if" :: tokens))
  | .elseIf condition => do
    let tokens ← readText host.expr .invalidCondition condition
    e.nextBranch (words ["else", "if"] ++ tokens)
  | .otherwise => e.nextBranch [.word "else"]
  | .endIf =>
    match e.outer with
    | (.cond code, before) :: outer =>
      .ok { body := before ++ code ++ [.braces e.body], outer := outer }
    | _ => .error unbalanced
  | .beginLoop header => do
    let (pattern, items) ← readText host.loop .invalidLoopHeader header
    return e.openBlock (.loop (loopHead pattern items))
  | .endLoop =>
    match e.outer with
    | (.loop code, before) :: outer =>
      .ok { body := before ++ code ++ [.braces e.body], outer := outer }
    | _ => .error unbalanced
  | .beginClause kind => .ok (e.openBlock (.clause kind))
  | .endClause _ =>
    match e.outer with
    | (.clause kind, before) :: outer =>
      let block := clauseBlock runtime kind (sinkOf e.outer) (sinkOf outer) e.body
      .ok { body := before ++ [block], outer := outer }
    | _ => .error unbalanced

end Emitter

/-- Where an error arises. -/
inductive Stage where
  /-- Before the first instruction. -/
  | start
  /-- At the instruction with the given index. -/
  | instr (index : Nat)
  /-- After the last instruction. -/
  | finish
deriving DecidableEq

/-- An error with where it arises. -/
structure Failure where
  /-- Where it arises. -/
  stage : Stage
  /-- The error. -/
  error : CodeError
deriving DecidableEq

/-- The code after instructions, the first of which has the given index. -/
def run (host : HostSyntax) (runtime : List CodeToken) (e : Emitter) (index : Nat) :
    List Instr → Except Failure Emitter
  | [] => .ok e
  | instr :: code =>
    match e.step host runtime instr with
    | .ok e => run host runtime e (index + 1) code
    | .error error => .error { stage := .instr index, error := error }

/-- The block around the statements of a program. -/
def rootBlock (runtime : List CodeToken) (capacity : Nat) (body : List CodeToken) : CodeToken :=
  let make := words ["::", "with_capacity"] ++ [.parens [.word (toString capacity ++ "usize")]]
  .braces (declarations runtime root make ++ body ++
    [.parens (words [root.buffer, ",", root.params])])

/-- The block of a program, whose texts are read as `host` reads them. -/
def ofProgram (s : Settings) (p : Program) (host : HostSyntax := .rust) :
    Except Failure CodeToken :=
  match readText host.path .invalidRuntimePath s.runtimePath with
  | .error error => .error { stage := .start, error := error }
  | .ok runtime =>
    match run host runtime {} 0 p.code with
    | .error failure => .error failure
    | .ok e =>
      if e.outer.isEmpty then .ok (rootBlock runtime p.capacity e.body)
      else .error { stage := .finish, error := Emitter.unbalanced }

end RustBlock

end QueryTemplate
