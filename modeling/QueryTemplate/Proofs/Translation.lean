import QueryTemplate.Proofs.Balance
import QueryTemplate.Proofs.Lockstep

/-!
# Rust blocks of trees

The Rust block of a template tree has the structure of the tree. Each node becomes code of its own,
which depends on the node and on how many clauses are around it: these decide in which variables
its SQL and its parameters are collected. The emitter goes over the instructions of the tree one by
one and finds the variables by a search of the open blocks, but what it makes is that code.

No block is made if a text of the tree cannot be read; the error is then that of the first such
text, in the order in which the template has them.

* `RustBlock.ofNodes`: the code of nodes, token by token, by recursion on the tree;
* `RustBlock.ofTree`: the block around the code of the nodes of a tree;
* `Node.hostTexts`: the texts of the host language in a tree, in order;
* `Yields`: what the emitter makes of a piece of code, wherever that stands;
* `ofProgram_ofNodes`: the Rust block of a tree is the one of its nodes.
-/

namespace QueryTemplate

/-! ## Texts of trees -/

namespace Node

mutual

/-- The texts of the host language in a node, in the order of the template. -/
def hostTextsOf : Node → List HostText
  | text fragment => fragment.binds.filterMap Bind.hostText?
  | clause _ body => hostTexts body
  | loop header body => .header header :: hostTexts body
  | cond branches none => branchHostTexts branches
  | cond branches (some body) => branchHostTexts branches ++ hostTexts body

/-- The texts of the host language in nodes, in the order of the template. -/
def hostTexts : List Node → List HostText
  | [] => []
  | node :: nodes => node.hostTextsOf ++ hostTexts nodes

/-- The texts of the host language in branches, in the order of the template. -/
def branchHostTexts : List Branch → List HostText
  | [] => []
  | .mk condition body :: branches =>
    .condition condition :: (hostTexts body ++ branchHostTexts branches)

end

end Node

namespace Instr

mutual

theorem hostTexts_ofNode :
    (node : Node) → (ofNode node).flatMap hostTexts = node.hostTextsOf
  | .text fragment => by
    rw [ofNode, Node.hostTextsOf]
    by_cases hbinds : fragment.binds = []
    · simp [hbinds, hostTexts]
    · simp [hbinds, hostTexts]
  | .clause kind body => by
    simp [ofNode, Node.hostTextsOf, hostTexts_ofNodes body, hostTexts]
  | .loop header body => by
    simp [ofNode, Node.hostTextsOf, hostTexts_ofNodes body, hostTexts]
  | .cond branches none => by
    simp [ofNode, Node.hostTextsOf, hostTexts_ofBranches true branches, hostTexts]
  | .cond branches (some body) => by
    have helse : (if body.isEmpty then [] else otherwise :: ofNodes body).flatMap hostTexts =
        Node.hostTexts body := by
      cases body with
      | nil => rfl
      | cons node body => exact hostTexts_ofNodes (node :: body)
    rw [ofNode, Node.hostTextsOf, List.flatMap_append, List.flatMap_append,
      hostTexts_ofBranches true branches, helse]
    simp [hostTexts]

theorem hostTexts_ofNodes :
    (nodes : List Node) → (ofNodes nodes).flatMap hostTexts = Node.hostTexts nodes
  | [] => rfl
  | node :: nodes => by
    rw [ofNodes, List.flatMap_append, hostTexts_ofNode node, hostTexts_ofNodes nodes,
      Node.hostTexts]

theorem hostTexts_ofBranches (first : Bool) :
    (branches : List Branch) →
      (ofBranches first branches).flatMap hostTexts = Node.branchHostTexts branches
  | [] => rfl
  | .mk condition body :: branches => by
    have hstart : (if first then beginIf condition else elseIf condition).hostTexts =
        [.condition condition] := by
      cases first with
      | true => rfl
      | false => rfl
    rw [ofBranches, List.flatMap_cons, List.flatMap_append, hstart, hostTexts_ofNodes body,
      hostTexts_ofBranches false branches, Node.branchHostTexts]
    rfl

end

end Instr

namespace RustBlock

/-! ## Code of trees -/

/-- The variables that collect inside of `depth` clauses. -/
def sinkAt : Nat → Sink
  | 0 => { buffer := "__sb", params := "__params" }
  | depth + 1 =>
    { buffer := "__tmp" ++ toString (depth + 1), params := "__tmp_params" ++ toString (depth + 1) }

section

variable (host : HostSyntax) (runtime : List CodeToken)

/-- The code that declares the variables that collect; the parameters are what `make` makes. -/
def prologue (sink : Sink) (make : List CodeToken) : List CodeToken :=
  List.flatten
    [[.word "#", .brackets [.word "allow", .parens [.word "unused_mut"]],
        .word "let", .word "mut", .word sink.buffer, .word "=",
        .word "::", .word "std", .word "::", .word "string", .word "::", .word "String",
        .word "::", .word "new", .parens [], .word ";",
        .word "#", .brackets [.word "allow", .parens [.word "unused_mut"]],
        .word "let", .word "mut", .word sink.params, .word ":",
        .word "::", .word "std", .word "::", .word "vec", .word "::", .word "Vec", .word "<"],
      runtime,
      [.word "::", .word "Value", .word ">", .word "=",
        .word "::", .word "std", .word "::", .word "vec", .word "::", .word "Vec", .word "::"],
      make, [.word ";"]]

/-- The code of what a placeholder binds. -/
def ofBind : Bind → List CodeToken
  | .table => runtime ++ [.word "::", .word "Value", .word "::", .word "table", .parens []]
  | .raw expr =>
    runtime ++ [.word "::", .word "Value", .word "::", .word "raw",
      .parens [.word "&", .parens (host.exprTokens expr)]]
  | .value expr =>
    runtime ++ [.word "::", .word "Value", .word "::", .word "from",
      .parens [.word "::", .word "std", .word "::", .word "clone", .word "::", .word "Clone",
        .word "::", .word "clone", .parens [.word "&", .parens (host.exprTokens expr)]]]

mutual

/-- The code of a node inside of `depth` clauses. -/
def ofNode (depth : Nat) : Node → List CodeToken
  | .text fragment =>
    let sql := unescape fragment.sql
    let sink := sinkAt depth
    (if sql.isEmpty then []
      else [.word sink.buffer, .word ".", .word "push_str",
        .parens [.word (Text.quotedLiteral sql)], .word ";"]) ++
    fragment.binds.flatMap fun bind =>
      [.word sink.params, .word ".", .word "push", .parens (ofBind host runtime bind), .word ";"]
  | .clause kind body =>
    let sink := sinkAt (depth + 1)
    let outer := sinkAt depth
    [.braces (prologue runtime sink [.word "new", .parens []] ++ ofNodes (depth + 1) body ++
      runtime ++ [.word "::", .word "runtime", .word "::", .word "append_clause",
        .parens (runtime ++ [.word "::", .word "ClauseKind", .word "::",
          .word (if kind = .conditions then "Where" else "Set"),
          .word ",", .word "&", .word sink.buffer, .word ",", .word sink.params,
          .word ",", .word "&", .word "mut", .word outer.buffer,
          .word ",", .word "&", .word "mut", .word outer.params]), .word ";"])]
  | .loop header body =>
    let (pattern, items) := HostSyntax.resultOf (host.loop header)
    .word "for" :: pattern ++ .word "in" :: items ++ [.braces (ofNodes depth body)]
  | .cond branches none => ofBranches depth true branches
  | .cond branches (some body) =>
    ofBranches depth true branches ++
      if body.isEmpty then [] else [.word "else", .braces (ofNodes depth body)]

/-- The code of nodes inside of `depth` clauses. -/
def ofNodes (depth : Nat) : List Node → List CodeToken
  | [] => []
  | node :: nodes => ofNode depth node ++ ofNodes depth nodes

/-- The code of branches inside of `depth` clauses; `first` says that none comes before them. -/
def ofBranches (depth : Nat) (first : Bool) : List Branch → List CodeToken
  | [] => []
  | .mk condition body :: branches =>
    (if first then [.word "if"] else [.word "else", .word "if"]) ++ host.exprTokens condition ++
      .braces (ofNodes depth body) :: ofBranches depth false branches

end

/-- The block of a tree, with an estimate for the parameters. -/
def ofTree (capacity : Nat) (nodes : List Node) : CodeToken :=
  .braces (prologue runtime { buffer := "__sb", params := "__params" }
      [.word "with_capacity", .parens [.word (toString capacity ++ "usize")]] ++
    ofNodes host runtime 0 nodes ++ [.parens [.word "__sb", .word ",", .word "__params"]])

end

/-! ## Statements of the emitter -/

section

variable {host : HostSyntax} {runtime : List CodeToken}

theorem declarations_eq (sink : Sink) (make : List CodeToken) :
    declarations runtime sink (.word "::" :: make) = prologue runtime sink make := by
  simp [declarations, prologue, inRuntime, words]

theorem bindTokens_eq (bind : Bind) : bindTokens host runtime bind = ofBind host runtime bind := by
  cases bind with
  | table => simp [bindTokens, ofBind, tableValue, inRuntime, words]
  | raw expr => simp [bindTokens, ofBind, rawValue, inRuntime, words]
  | value expr => simp [bindTokens, ofBind, exprValue, inRuntime, words]

theorem ofNode_text (depth : Nat) (fragment : Fragment) :
    ofNode host runtime depth (.text fragment) =
      (if (unescape fragment.sql).isEmpty then []
        else writeStmt (sinkAt depth) (unescape fragment.sql)) ++
      fragment.binds.flatMap fun bind =>
        pushStmt (sinkAt depth) (bindTokens host runtime bind) := by
  rw [ofNode]
  simp only [bindTokens_eq]
  rfl

theorem kindName_eq (kind : ClauseKind) :
    kindName kind = if kind = .conditions then "Where" else "Set" := by
  cases kind with
  | conditions => rfl
  | assignments => rfl

theorem ofNode_clause (depth : Nat) (kind : ClauseKind) (body : List Node) :
    ofNode host runtime depth (.clause kind body) =
      [clauseBlock runtime kind (sinkAt (depth + 1)) (sinkAt depth)
        (ofNodes host runtime (depth + 1) body)] := by
  have hmake : words ["::", "new"] ++ [.parens []] =
      .word "::" :: [.word "new", .parens []] := rfl
  rw [clauseBlock, hmake, declarations_eq, kindName_eq, ofNode]
  simp [inRuntime, words]

theorem ofTree_eq (capacity : Nat) (nodes : List Node) :
    ofTree host runtime capacity nodes =
      rootBlock runtime capacity (ofNodes host runtime 0 nodes) := by
  have hmake : words ["::", "with_capacity"] ++ [.parens [.word (toString capacity ++ "usize")]] =
      .word "::" :: [.word "with_capacity", .parens [.word (toString capacity ++ "usize")]] := rfl
  rw [rootBlock, hmake, declarations_eq]
  rfl

end

/-! ## Emitting the code of trees -/

namespace Emitter

/-- How many clauses are open. -/
def depth (e : Emitter) : Nat :=
  (e.outer.filter (·.1.isClause)).length

theorem sinkOf_outer (e : Emitter) : sinkOf e.outer = sinkAt e.depth := by
  rw [sinkOf, depth]
  cases (e.outer.filter (·.1.isClause)).length with
  | zero => rfl
  | succ depth => rfl

theorem add_nil (e : Emitter) : e.add [] = e := by
  rw [add, List.append_nil]

theorem add_add (e : Emitter) (stmts more : List CodeToken) :
    (e.add stmts).add more = e.add (stmts ++ more) := by
  simp only [add, List.append_assoc]

end Emitter

open Emitter

/-- Wherever the code stands, going over it takes an emitter from one state to the other. -/
def Yields (host : HostSyntax) (runtime : List CodeToken) (code : List Instr) (e e' : Emitter) :
    Prop :=
  ∀ index rest, run host runtime e index (code ++ rest) =
    run host runtime e' (index + code.length) rest

variable {host : HostSyntax} {runtime : List CodeToken}

namespace Yields

variable {code more : List Instr} {instr : Instr} {e e₁ e₂ : Emitter}

theorem nil : Yields host runtime [] e e :=
  fun _ _ => rfl

theorem append (h : Yields host runtime code e e₁) (h' : Yields host runtime more e₁ e₂) :
    Yields host runtime (code ++ more) e e₂ := by
  intro index rest
  rw [List.append_assoc, h, h', List.length_append, Nat.add_assoc]

theorem single (h : e.step host runtime instr = .ok e₁) : Yields host runtime [instr] e e₁ := by
  intro index rest
  rw [List.singleton_append, run, h]
  rfl

theorem cons (h : e.step host runtime instr = .ok e₁) (h' : Yields host runtime more e₁ e₂) :
    Yields host runtime (instr :: more) e e₂ :=
  (single h).append h'

/-- A block is opened, the code in it yields its statements, and the block is closed. -/
theorem enclose {opening closing : Instr} {block : OpenCode} {stmts tokens : List CodeToken}
    (hopen : e.step host runtime opening = .ok (e.openBlock block))
    (hbody : Yields host runtime code (e.openBlock block) ((e.openBlock block).add stmts))
    (hclose : step host runtime ⟨stmts, (block, e.body) :: e.outer⟩ closing = .ok (e.add tokens)) :
    Yields host runtime (opening :: (code ++ [closing])) e (e.add tokens) :=
  .cons hopen (hbody.append (.single hclose))

/-- A conditional is closed after its last branch. -/
theorem endIf {body tokens : List CodeToken}
    (h : Yields host runtime code e ⟨body, (.cond tokens, e.body) :: e.outer⟩) :
    Yields host runtime (code ++ [.endIf]) e (e.add (tokens ++ [.braces body])) := by
  refine h.append (.single ?_)
  rw [add, ← List.append_assoc]
  rfl

end Yields

mutual

theorem yields_ofNode (host : HostSyntax) (runtime : List CodeToken) :
    (node : Node) → Node.ProperOf node → (∀ t ∈ node.hostTextsOf, host.Reads t) → (e : Emitter) →
      Yields host runtime (Instr.ofNode node) e (e.add (ofNode host runtime e.depth node))
  | .text fragment, _, hreads, e => by
    rw [Instr.ofNode, ofNode_text, ← add_add, ← sinkOf_outer]
    have hliteral : e.step host runtime (.literal (unescape fragment.sql)) =
        .ok (e.add (if (unescape fragment.sql).isEmpty then []
          else writeStmt (sinkOf e.outer) (unescape fragment.sql))) := by
      rw [step]
      split
      · rw [add_nil]
      · rfl
    refine .cons hliteral ?_
    by_cases hbinds : fragment.binds = []
    · simp only [hbinds, List.isEmpty_nil, if_true, List.flatMap_nil, add_nil]
      exact .nil
    · rw [if_neg (by rwa [List.isEmpty_iff])]
      exact .single (step_bind (host.firstError?_eq_none_iff.2 hreads))
  | .clause kind body, hproper, hreads, e => by
    have hbody := yields_ofNodes host runtime body hproper hreads (e.openBlock (.clause kind))
    refine .enclose rfl hbody ?_
    rw [ofNode_clause, ← sinkOf_outer]
    rfl
  | .loop header body, hproper, hreads, e => by
    rw [Node.hostTextsOf, List.forall_mem_cons] at hreads
    have hbody := yields_ofNodes host runtime body hproper hreads.2
      (e.openBlock (.loop (host.loopTokens header)))
    refine .enclose (step_beginLoop hreads.1) hbody ?_
    rw [ofNode, add, ← List.append_assoc]
    rfl
  | .cond branches none, ⟨hne, hbranches⟩, hreads, e => by
    obtain ⟨body, code, hyields, hcode⟩ :=
      yields_ofBranches host runtime branches hne hbranches hreads e
    rw [ofNode, ← hcode]
    exact hyields.endIf
  | .cond branches (some last), ⟨hne, hbranches, hlast⟩, hreads, e => by
    rw [Node.hostTextsOf, List.forall_mem_append] at hreads
    obtain ⟨body, code, hyields, hcode⟩ :=
      yields_ofBranches host runtime branches hne hbranches hreads.1 e
    rw [Instr.ofNode, ofNode, ← hcode, ← List.append_assoc]
    cases last with
    | nil =>
      rw [List.isEmpty_nil, if_pos rfl, if_pos rfl, List.append_nil, List.append_nil]
      exact hyields.endIf
    | cons node last =>
      rw [List.isEmpty_cons, if_neg Bool.false_ne_true, if_neg Bool.false_ne_true]
      have hstep : step host runtime ⟨body, (.cond code, e.body) :: e.outer⟩ .otherwise =
          .ok ⟨[], (.cond (code ++ [.braces body, .word "else"]), e.body) :: e.outer⟩ := rfl
      have hbody := yields_ofNodes host runtime (node :: last) hlast hreads.2
        ⟨[], (.cond (code ++ [.braces body, .word "else"]), e.body) :: e.outer⟩
      have htokens (tokens : List CodeToken) :
          code ++ [.braces body] ++ [.word "else", .braces tokens] =
            code ++ [.braces body, .word "else"] ++ [.braces tokens] := by
        rw [List.append_assoc, List.append_assoc]
        rfl
      rw [htokens]
      exact (hyields.append (.cons hstep hbody)).endIf

theorem yields_ofNodes (host : HostSyntax) (runtime : List CodeToken) :
    (nodes : List Node) → Node.Proper nodes → (∀ t ∈ Node.hostTexts nodes, host.Reads t) →
      (e : Emitter) →
      Yields host runtime (Instr.ofNodes nodes) e (e.add (ofNodes host runtime e.depth nodes))
  | [], _, _, e => by
    rw [ofNodes, add_nil]
    exact .nil
  | node :: nodes, ⟨hnode, hnodes⟩, hreads, e => by
    rw [Node.hostTexts, List.forall_mem_append] at hreads
    rw [Instr.ofNodes, ofNodes, ← add_add]
    exact .append (yields_ofNode host runtime node hnode hreads.1 e)
      (yields_ofNodes host runtime nodes hnodes hreads.2 _)

/-- Going over the branches of a conditional, an emitter ends in the last one. -/
theorem yields_ofBranches (host : HostSyntax) (runtime : List CodeToken) :
    (branches : List Branch) → branches ≠ [] → Node.ProperBranches branches →
      (∀ t ∈ Node.branchHostTexts branches, host.Reads t) → (e : Emitter) →
      ∃ last code, Yields host runtime (Instr.ofBranches true branches) e
          ⟨last, (.cond code, e.body) :: e.outer⟩ ∧
        code ++ [.braces last] = ofBranches host runtime e.depth true branches
  | [], hne, _, _, _ => absurd rfl hne
  | .mk condition body :: branches, _, ⟨hbody, hbranches⟩, hreads, e => by
    rw [Node.branchHostTexts, List.forall_mem_cons, List.forall_mem_append] at hreads
    have hyields := yields_ofNodes host runtime body hbody hreads.2.1
      (e.openBlock (.cond (.word "if" :: host.exprTokens condition)))
    obtain ⟨last, code, hlater, hcode⟩ :=
      yields_ofLater host runtime branches hbranches hreads.2.2
        (ofNodes host runtime e.depth body) (.word "if" :: host.exprTokens condition) e.body e.outer
    exact ⟨last, code, .cons (step_beginIf hreads.1) (hyields.append hlater), hcode⟩

/-- Going over the branches of a conditional after the first, an emitter finishes the branch that it
    is in and ends in the last one. -/
theorem yields_ofLater (host : HostSyntax) (runtime : List CodeToken) :
    (branches : List Branch) → Node.ProperBranches branches →
      (∀ t ∈ Node.branchHostTexts branches, host.Reads t) → (body code before : List CodeToken) →
      (outer : List (OpenCode × List CodeToken)) →
      ∃ last code', Yields host runtime (Instr.ofBranches false branches)
          ⟨body, (.cond code, before) :: outer⟩ ⟨last, (.cond code', before) :: outer⟩ ∧
        code' ++ [.braces last] = code ++ .braces body ::
          ofBranches host runtime (depth ⟨body, (.cond code, before) :: outer⟩) false branches
  | [], _, _, body, code, before, outer => ⟨body, code, .nil, by rw [ofBranches]⟩
  | .mk condition next :: branches, ⟨hnext, hbranches⟩, hreads, body, code, before, outer => by
    rw [Node.branchHostTexts, List.forall_mem_cons, List.forall_mem_append] at hreads
    let code₁ := code ++ .braces body :: (words ["else", "if"] ++ host.exprTokens condition)
    have hstep : step host runtime ⟨body, (.cond code, before) :: outer⟩ (.elseIf condition) =
        .ok ⟨[], (.cond code₁, before) :: outer⟩ := step_elseIf hreads.1
    have hyields := yields_ofNodes host runtime next hnext hreads.2.1
      ⟨[], (.cond code₁, before) :: outer⟩
    obtain ⟨last, code₂, hlater, hcode⟩ :=
      yields_ofLater host runtime branches hbranches hreads.2.2
        (ofNodes host runtime (depth ⟨body, (.cond code, before) :: outer⟩) next) code₁ before outer
    refine ⟨last, code₂, .cons hstep (hyields.append hlater), ?_⟩
    rw [hcode, ofBranches, List.append_assoc]
    rfl

end

/-! ## The block of a tree -/

variable {s : Settings} {nodes : List Node}

theorem afterAll_ofNodes (h : Node.Proper nodes) :
    Instr.afterAll [] 0 (Instr.ofNodes nodes) = .ok [] := by
  obtain ⟨jumps, hjumps⟩ := (exists_ofCode_iff nodes).2 h
  have hafter := Jumps.ofCode_afterAll (Instr.ofNodes nodes)
  rw [hjumps] at hafter
  match Instr.afterAll [] 0 (Instr.ofNodes nodes), hafter with
  | .ok [], _ => rfl

/-- If all texts can be read, the block of a tree is the code of its nodes. -/
theorem ofProgram_of_firstError?_eq_none (h : Node.Proper nodes)
    (hreads : host.firstError? (.path s.runtimePath :: Node.hostTexts nodes) = none) :
    let p := Program.ofNodes s.loopMultiplier nodes
    ofProgram s p host = .ok (ofTree host (host.pathTokens s.runtimePath) p.capacity nodes) := by
  intro p
  rw [HostSyntax.firstError?_eq_none_iff, List.forall_mem_cons] at hreads
  have hrun := yields_ofNodes host (host.pathTokens s.runtimePath) nodes h hreads.2 {} 0 []
  rw [List.append_nil] at hrun
  rw [ofProgram_of_reads hreads.1, show p.code = Instr.ofNodes nodes from rfl, hrun, ofTree_eq]
  rfl

/-- If a text cannot be read, the error of the first one is that of the block. -/
theorem exists_ofProgram_of_firstError?_eq_some (h : Node.Proper nodes) {error : CodeError}
    (herror : host.firstError? (.path s.runtimePath :: Node.hostTexts nodes) = some error) :
    ∃ stage, ofProgram s (Program.ofNodes s.loopMultiplier nodes) host =
      .error { stage := stage, error := error } := by
  rw [HostSyntax.firstError?_cons, Option.or_eq_some_iff] at herror
  rcases herror with herror | ⟨hpath, herror⟩
  · refine ⟨.start, ?_⟩
    rw [ofProgram, readText_of_some host.path .invalidRuntimePath s.runtimePath herror]
  · rw [← Instr.hostTexts_ofNodes] at herror
    have hfit : Instr.afterAll (shapes {}) 0 (Instr.ofNodes nodes) = .ok [] := afterAll_ofNodes h
    obtain ⟨place, hrun⟩ := run_of_error herror (host.pathTokens s.runtimePath) hfit
    refine ⟨.instr place, ?_⟩
    rw [ofProgram_of_reads (Option.map_eq_none_iff.1 hpath)]
    exact hrun ▸ rfl

/-- Take a tree in which every conditional has a branch, and consider the path of the support
    library and the texts of the host language in the tree, in their order. A Rust block is made of
    the tree exactly if all of them can be read. It is then the block that declares the variables of
    the query, with the estimate for the parameters, around the code of the nodes. Otherwise the
    error is that of the first text that cannot be read. -/
theorem ofProgram_ofNodes (host : HostSyntax) (s : Settings) (nodes : List Node)
    (h : Node.Proper nodes) :
    let p := Program.ofNodes s.loopMultiplier nodes
    let runtime := host.pathTokens s.runtimePath
    let texts := .path s.runtimePath :: Node.hostTexts nodes
    ((∃ block, ofProgram s p host = .ok block) ↔ ∀ t ∈ texts, host.Reads t) ∧
      ((∀ t ∈ texts, host.Reads t) →
        ofProgram s p host = .ok (ofTree host runtime p.capacity nodes)) ∧
      ∀ error, (∃ stage, ofProgram s p host = .error { stage := stage, error := error }) ↔
        host.firstError? texts = some error := by
  intro p runtime texts
  rw [← HostSyntax.firstError?_eq_none_iff]
  cases herror : host.firstError? texts with
  | none =>
    have hblock := ofProgram_of_firstError?_eq_none h herror
    refine ⟨⟨fun _ => rfl, fun _ => ⟨_, hblock⟩⟩, fun _ => hblock, fun error => ?_⟩
    rw [hblock]
    exact ⟨nofun, nofun⟩
  | some error =>
    obtain ⟨stage, hblock⟩ := exists_ofProgram_of_firstError?_eq_some h herror
    rw [hblock]
    refine ⟨⟨nofun, nofun⟩, nofun, fun error' => ⟨?_, ?_⟩⟩
    · rintro ⟨_, hfailure⟩
      cases hfailure
      rfl
    · intro hsome
      cases hsome
      exact ⟨stage, rfl⟩

/-- A clause within the last branch of a conditional within a clause. With a condition after it that
    is no expression, the error is that of the condition, and not that of the placeholder below. -/
theorem ofProgram_ofNodes_nested :
    let nodes : List Node :=
      [.clause .conditions [.cond [.mk "a > 0" [.text ⟨"\"x\" = ? or", [.value "x"], 1⟩]]
        (some [.clause .assignments [.loop "y in ys" [.text ⟨"?,", [.raw "y.name"], 2⟩]]])]]
    let faulty : List Node := nodes ++ [.cond [.mk "a b" [.text ⟨"?", [.value "1x"], 3⟩]] none]
    let code (texts : List String) : List CodeToken := texts.map .word
    let allow : List CodeToken :=
      [.word "#", .brackets [.word "allow", .parens [.word "unused_mut"]]]
    let declared (buffer params : String) (make : List CodeToken) : List CodeToken := List.flatten
      [allow, code ["let", "mut", buffer, "=", "::", "std", "::", "string", "::", "String", "::",
          "new"],
        [.parens [], .word ";"],
        allow, code ["let", "mut", params, ":", "::", "std", "::", "vec", "::", "Vec", "<", "::",
          "sqltmpl", "::", "Value", ">", "=", "::", "std", "::", "vec", "::", "Vec", "::"],
        make, [.word ";"]]
    let inner : List CodeToken := List.flatten
      [declared "__tmp2" "__tmp_params2" [.word "new", .parens []],
        code ["for", "y", "in", "ys"],
        [.braces (List.flatten
          [code ["__tmp2", ".", "push_str"], [.parens [.word "\"?,\""], .word ";"],
            code ["__tmp_params2", ".", "push"],
            [.parens (List.flatten
              [code ["::", "sqltmpl", "::", "Value", "::", "raw"],
                [.parens [.word "&", .parens (code ["y", ".", "name"])]]]), .word ";"]])],
        code ["::", "sqltmpl", "::", "runtime", "::", "append_clause"],
        [.parens (code ["::", "sqltmpl", "::", "ClauseKind", "::", "Set", ",", "&", "__tmp2", ",",
            "__tmp_params2", ",", "&", "mut", "__tmp1", ",", "&", "mut", "__tmp_params1"]),
          .word ";"]]
    let outer : List CodeToken := List.flatten
      [declared "__tmp1" "__tmp_params1" [.word "new", .parens []],
        code ["if", "a", ">", "0"],
        [.braces (List.flatten
          [code ["__tmp1", ".", "push_str"],
            [.parens [.word "\"\\\"x\\\" = ? or\""], .word ";"],
            code ["__tmp_params1", ".", "push"],
            [.parens (List.flatten
              [code ["::", "sqltmpl", "::", "Value", "::", "from"],
                [.parens (List.flatten
                  [code ["::", "std", "::", "clone", "::", "Clone", "::", "clone"],
                    [.parens [.word "&", .parens [.word "x"]]]])]]), .word ";"]])],
        [.word "else", .braces [.braces inner]],
        code ["::", "sqltmpl", "::", "runtime", "::", "append_clause"],
        [.parens (code ["::", "sqltmpl", "::", "ClauseKind", "::", "Where", ",", "&", "__tmp1", ",",
            "__tmp_params1", ",", "&", "mut", "__sb", ",", "&", "mut", "__params"]),
          .word ";"]]
    Node.Proper nodes ∧ Node.Proper faulty ∧
      ofProgram {} (Program.ofNodes 4 nodes) =
        .ok (.braces (List.flatten
          [declared "__sb" "__params" [.word "with_capacity", .parens [.word "5usize"]],
            [.braces outer, .parens (code ["__sb", ",", "__params"])]])) ∧
      ∃ stage, ofProgram {} (Program.ofNodes 4 faulty) =
        .error ⟨stage, .unreadable .invalidCondition "a b" "not part of the language"⟩ := by
  intro nodes faulty code allow declared inner outer
  have h : Node.Proper nodes := by
    simp [nodes, Node.Proper, Node.ProperOf, Node.ProperBranches]
  have hfaulty : Node.Proper faulty := by
    simp [faulty, nodes, Node.Proper, Node.ProperOf, Node.ProperBranches]
  refine ⟨h, hfaulty, ((ofProgram_ofNodes .rust {} nodes h).2.1 ?_).trans (congrArg Except.ok ?_),
    ((ofProgram_ofNodes .rust {} faulty hfaulty).2.2 _).2 ?_⟩
  · decide +kernel
  · decide +kernel
  · decide +kernel

end RustBlock

end QueryTemplate
