import QueryTemplate.Instr.Jumps
import QueryTemplate.Target.RustBlock

/-!
# Open blocks in step

Two machines go over the instructions of a program one by one: one makes its jump table, the
other its Rust block. Both keep a stack of the blocks that are open. The stacks hold different
things, the places of instructions in one and the code around a block in the other, but whether an
instruction fits depends only on the shapes of the open blocks, and of these both machines know
the same.

The second machine also reads the texts of the host language that instructions have, before it
looks at the open blocks. It stops at the first text that cannot be read.

* `HostText`: a text of the host language by its use, and `HostSyntax.firstError?` the error of the
  first in a list that cannot be read;
* `Instr.after`, `Instr.afterAll`: the shapes of the open blocks after instructions, or the index
  of the first instruction that does not fit;
* `Scan.shapes_run`, `Emitter.run_of_reads`, `Emitter.run_of_error`: both machines follow these;
* `ofProgram_error_iff`: if all texts can be read, the Rust block fails exactly where the jump table
  does.
-/

namespace QueryTemplate

/-! ## Texts of the host language -/

/-- A text of the host language, by its use. -/
inductive HostText where
  /-- The path of the support library. -/
  | path (text : String)
  /-- The condition of a branch. -/
  | condition (text : String)
  /-- The header of a loop. -/
  | header (text : String)
  /-- What a placeholder binds. -/
  | bind (text : String)
deriving DecidableEq

namespace HostText

/-- The text itself. -/
def text : HostText → String
  | path text | condition text | header text | bind text => text

/-- The cause of the error that arises if the text cannot be read. -/
def cause : HostText → CodeError.Cause
  | path _ => .invalidRuntimePath
  | condition _ => .invalidCondition
  | header _ => .invalidLoopHeader
  | bind _ => .invalidBindExpression

end HostText

namespace HostSyntax

/-- What is wrong with a text, if something is. -/
def problemIn {α : Type} : Except String α → Option String
  | .ok _ => none
  | .error problem => some problem

/-- What was read, where nothing is wrong. -/
def resultOf {α : Type} [Inhabited α] : Except String α → α
  | .ok a => a
  | .error _ => default

variable (host : HostSyntax)

/-- What is wrong with a text, if it cannot be read. -/
def problem? : HostText → Option String
  | .path text => problemIn (host.path text)
  | .condition text | .bind text => problemIn (host.expr text)
  | .header text => problemIn (host.loop text)

/-- A text can be read. -/
def Reads (t : HostText) : Prop :=
  host.problem? t = none

instance (t : HostText) : Decidable (host.Reads t) :=
  inferInstanceAs (Decidable (host.problem? t = none))

/-- The error of a text, if it cannot be read. -/
def error? (t : HostText) : Option CodeError :=
  (host.problem? t).map (.unreadable t.cause t.text)

/-- The error of the first text that cannot be read, if there is one. -/
def firstError? (texts : List HostText) : Option CodeError :=
  texts.findSome? host.error?

theorem firstError?_eq_none_iff {texts : List HostText} :
    host.firstError? texts = none ↔ ∀ t ∈ texts, host.Reads t := by
  simp only [firstError?, List.findSome?_eq_none_iff, error?, Option.map_eq_none_iff, Reads]

theorem firstError?_cons (t : HostText) (texts : List HostText) :
    host.firstError? (t :: texts) = (host.error? t).or (host.firstError? texts) := by
  rw [firstError?, List.findSome?_cons]
  cases host.error? t with
  | none => rfl
  | some error => rfl

@[simp] theorem firstError?_singleton (t : HostText) : host.firstError? [t] = host.error? t :=
  (host.firstError?_cons t []).trans (Option.or_none ..)

theorem firstError?_append (texts more : List HostText) :
    host.firstError? (texts ++ more) = (host.firstError? texts).or (host.firstError? more) :=
  List.findSome?_append

/-- The tokens of a path that can be read. -/
def pathTokens (text : String) : List CodeToken :=
  resultOf (host.path text)

/-- The tokens of an expression that can be read. -/
def exprTokens (text : String) : List CodeToken :=
  resultOf (host.expr text)

/-- The code of a loop up to its brace, if its header can be read. -/
def loopTokens (header : String) : List CodeToken :=
  RustBlock.loopHead (resultOf (host.loop header)).1 (resultOf (host.loop header)).2

end HostSyntax

/-- The text that a placeholder binds, unless it is for the table. -/
def Bind.hostText? : Bind → Option HostText
  | table => none
  | raw expr | value expr => some (.bind expr)

/-- The texts of an instruction, in order. -/
def Instr.hostTexts : Instr → List HostText
  | bind binds => binds.filterMap Bind.hostText?
  | beginIf condition | elseIf condition => [.condition condition]
  | beginLoop header => [.header header]
  | _ => []

namespace RustBlock

variable {host : HostSyntax} {runtime : List CodeToken}

theorem readText_of_none {α : Type} [Inhabited α] {read : String → Except String α}
    {cause : CodeError.Cause} {text : String} (h : HostSyntax.problemIn (read text) = none) :
    readText read cause text = .ok (HostSyntax.resultOf (read text)) := by
  rw [readText]
  cases hread : read text with
  | ok a => rfl
  | error problem => rw [hread] at h; cases h

theorem readText_of_some {α : Type} (read : String → Except String α) (cause : CodeError.Cause)
    (text : String) {error : CodeError}
    (h : (HostSyntax.problemIn (read text)).map (.unreadable cause text) = some error) :
    readText read cause text = .error error := by
  rw [readText]
  cases hread : read text with
  | ok a => rw [hread] at h; cases h
  | error problem => rw [hread] at h; cases h; rfl

/-- The value that a placeholder binds, if its text can be read. -/
def bindTokens (host : HostSyntax) (runtime : List CodeToken) : Bind → List CodeToken
  | .table => tableValue runtime
  | .raw expr => rawValue runtime (host.exprTokens expr)
  | .value expr => exprValue runtime (host.exprTokens expr)

theorem bindValue_of_none {bind : Bind} (h : bind.hostText?.bind host.error? = none) :
    bindValue host runtime bind = .ok (bindTokens host runtime bind) := by
  cases bind with
  | table => rfl
  | raw expr | value expr =>
    rw [bindValue, readText_of_none (Option.map_eq_none_iff.1 h)]
    rfl

theorem bindValue_of_some {bind : Bind} {error : CodeError}
    (h : bind.hostText?.bind host.error? = some error) :
    bindValue host runtime bind = .error error := by
  cases bind with
  | table => cases h
  | raw expr | value expr =>
    rw [bindValue, readText_of_some host.expr .invalidBindExpression expr h]
    rfl

theorem firstError?_binds_cons (bind : Bind) (binds : List Bind) :
    host.firstError? ((bind :: binds).filterMap Bind.hostText?) =
      (bind.hostText?.bind host.error?).or
        (host.firstError? (binds.filterMap Bind.hostText?)) := by
  rw [List.filterMap_cons]
  cases bind.hostText? with
  | none => rfl
  | some t => exact host.firstError?_cons ..

theorem bindStmts_of_none {binds : List Bind}
    (h : host.firstError? (binds.filterMap Bind.hostText?) = none) (sink : Sink) :
    bindStmts host runtime sink binds =
      .ok (binds.flatMap fun bind => pushStmt sink (bindTokens host runtime bind)) := by
  induction binds with
  | nil => rfl
  | cons bind binds ih =>
    rw [firstError?_binds_cons, Option.or_eq_none_iff] at h
    rw [bindStmts, bindValue_of_none h.1, ih h.2]
    rfl

theorem bindStmts_of_some {binds : List Bind} {error : CodeError}
    (h : host.firstError? (binds.filterMap Bind.hostText?) = some error) (sink : Sink) :
    bindStmts host runtime sink binds = .error error := by
  induction binds with
  | nil => cases h
  | cons bind binds ih =>
    rw [firstError?_binds_cons, Option.or_eq_some_iff] at h
    rcases h with h | ⟨hbind, h⟩
    · rw [bindStmts, bindValue_of_some h]
      rfl
    · rw [bindStmts, bindValue_of_none hbind, ih h]
      rfl

namespace Emitter

/-- A text that cannot be read is the error of its instruction, whatever blocks are open. -/
theorem step_of_error {instr : Instr} {error : CodeError}
    (h : host.firstError? instr.hostTexts = some error) (e : Emitter) :
    e.step host runtime instr = .error error := by
  cases instr with
  | bind binds =>
    rw [step, bindStmts_of_some h]
    rfl
  | beginIf condition | elseIf condition =>
    rw [Instr.hostTexts, HostSyntax.firstError?_singleton] at h
    rw [step, readText_of_some host.expr .invalidCondition condition h]
    rfl
  | beginLoop header =>
    rw [Instr.hostTexts, HostSyntax.firstError?_singleton] at h
    rw [step, readText_of_some host.loop .invalidLoopHeader header h]
    rfl
  | literal | otherwise | endIf | endLoop | beginClause | endClause => cases h

variable {e : Emitter}

theorem step_bind {binds : List Bind}
    (h : host.firstError? (binds.filterMap Bind.hostText?) = none) :
    e.step host runtime (.bind binds) =
      .ok (e.add (binds.flatMap fun bind =>
        pushStmt (sinkOf e.outer) (bindTokens host runtime bind))) := by
  rw [step, bindStmts_of_none h]
  rfl

theorem step_beginIf {condition : String} (h : host.Reads (.condition condition)) :
    e.step host runtime (.beginIf condition) =
      .ok (e.openBlock (.cond (.word "if" :: host.exprTokens condition))) := by
  rw [step, readText_of_none h]
  rfl

theorem step_elseIf {condition : String} (h : host.Reads (.condition condition)) :
    e.step host runtime (.elseIf condition) =
      e.nextBranch (words ["else", "if"] ++ host.exprTokens condition) := by
  rw [step, readText_of_none h]
  rfl

theorem step_beginLoop {header : String} (h : host.Reads (.header header)) :
    e.step host runtime (.beginLoop header) =
      .ok (e.openBlock (.loop (host.loopTokens header))) := by
  rw [step, readText_of_none h]
  rfl

end Emitter

end RustBlock

/-! ## Shapes of open blocks -/

/-- The shapes of blocks. -/
inductive BlockShape where
  /-- A conditional. -/
  | cond
  /-- A loop. -/
  | loop
  /-- A clause. -/
  | clause
deriving DecidableEq

namespace Instr

/-- The shapes of the open blocks after an instruction, the innermost first, if it fits. -/
def after (shapes : List BlockShape) : Instr → Option (List BlockShape)
  | literal _ | bind _ => some shapes
  | beginIf _ => some (.cond :: shapes)
  | elseIf _ | otherwise =>
    match shapes with
    | .cond :: _ => some shapes
    | _ => none
  | endIf =>
    match shapes with
    | .cond :: outer => some outer
    | _ => none
  | beginLoop _ => some (.loop :: shapes)
  | endLoop =>
    match shapes with
    | .loop :: outer => some outer
    | _ => none
  | beginClause _ => some (.clause :: shapes)
  | endClause _ =>
    match shapes with
    | .clause :: outer => some outer
    | _ => none

/-- The shapes of the open blocks after instructions, the first of which has the given index, or
    the index of the first that does not fit. -/
def afterAll (shapes : List BlockShape) (index : Nat) :
    List Instr → Except Nat (List BlockShape)
  | [] => .ok shapes
  | instr :: code =>
    match instr.after shapes with
    | some shapes => afterAll shapes (index + 1) code
    | none => .error index

theorem lt_of_afterAll {shapes : List BlockShape} {index place : Nat} {code : List Instr}
    (h : afterAll shapes index code = .error place) : place < index + code.length := by
  induction code generalizing shapes index with
  | nil => cases h
  | cons instr code ih =>
    rw [afterAll] at h
    split at h
    · have hlt := ih h
      rw [List.length_cons]
      omega
    · cases h
      rw [List.length_cons]
      omega

end Instr

namespace Jumps

/-- The shape of an open block. -/
def Unclosed.shape : Unclosed → BlockShape
  | cond _ _ => .cond
  | loop _ => .loop
  | clause _ => .clause

/-- The shapes of the open blocks. -/
def Scan.shapes (s : Scan) : List BlockShape :=
  s.unclosed.map Unclosed.shape

theorem Scan.shapes_step (s : Scan) (pc : Nat) (instr : Instr) :
    (s.step pc instr).map shapes = instr.after s.shapes := by
  obtain ⟨jumps, unclosed⟩ := s
  cases instr with
  | literal | bind | beginIf | beginLoop | beginClause => rfl
  | elseIf | otherwise | endIf | endLoop | endClause =>
    match unclosed with
    | [] => rfl
    | .cond _ _ :: _ => rfl
    | .loop _ :: _ => rfl
    | .clause _ :: _ => rfl

theorem Scan.shapes_run (s : Scan) (pc : Nat) (code : List Instr) :
    (s.run pc code).map shapes = Instr.afterAll s.shapes pc code := by
  induction code generalizing s pc with
  | nil => rfl
  | cons instr code ih =>
    rw [Scan.run, Instr.afterAll, ← shapes_step s pc]
    cases s.step pc instr with
    | none => rfl
    | some s => exact ih s (pc + 1)

/-- There is a jump table if all instructions fit and no block is left open. -/
theorem ofCode_afterAll (code : List Instr) :
    match Instr.afterAll [] 0 code with
    | .error pc => ofCode code = .error pc
    | .ok [] => ∃ jumps, ofCode code = .ok jumps
    | .ok (_ :: _) => ofCode code = .error code.length := by
  have hrun : (Scan.run { jumps := code.map fun _ => {} } 0 code).map Scan.shapes =
      Instr.afterAll [] 0 code := Scan.shapes_run _ 0 code
  rw [ofCode, ← hrun]
  match Scan.run { jumps := code.map fun _ => {} } 0 code with
  | .error pc => rfl
  | .ok ⟨jumps, []⟩ => exact ⟨jumps, rfl⟩
  | .ok ⟨_, _ :: _⟩ => rfl

end Jumps

namespace RustBlock

/-- The shape of an open block. -/
def OpenCode.shape : OpenCode → BlockShape
  | cond _ => .cond
  | loop _ => .loop
  | clause _ => .clause

namespace Emitter

variable {host : HostSyntax} {runtime : List CodeToken}

/-- The shapes of the open blocks. -/
def shapes (e : Emitter) : List BlockShape :=
  e.outer.map (·.1.shape)

theorem shapes_nextBranch (e : Emitter) (head : List CodeToken) :
    match Instr.otherwise.after e.shapes with
    | some shapes => ∃ e', e.nextBranch head = .ok e' ∧ e'.shapes = shapes
    | none => e.nextBranch head = .error unbalanced := by
  obtain ⟨body, outer⟩ := e
  match outer with
  | [] => rfl
  | (.cond _, _) :: _ => exact ⟨_, rfl, rfl⟩
  | (.loop _, _) :: _ => rfl
  | (.clause _, _) :: _ => rfl

/-- An instruction whose texts can be read does to the open blocks what its shape does, and fails if
    it does not fit. -/
theorem shapes_step {instr : Instr} (h : host.firstError? instr.hostTexts = none)
    (runtime : List CodeToken) (e : Emitter) :
    match instr.after e.shapes with
    | some shapes => ∃ e', e.step host runtime instr = .ok e' ∧ e'.shapes = shapes
    | none => e.step host runtime instr = .error unbalanced := by
  rw [HostSyntax.firstError?_eq_none_iff] at h
  cases instr with
  | literal sql =>
    refine ⟨_, rfl, ?_⟩
    split <;> rfl
  | bind binds => exact ⟨_, step_bind (host.firstError?_eq_none_iff.2 h), rfl⟩
  | beginIf condition => exact ⟨_, step_beginIf (h _ List.mem_cons_self), rfl⟩
  | elseIf condition =>
    rw [step_elseIf (h _ List.mem_cons_self)]
    exact e.shapes_nextBranch _
  | otherwise => exact e.shapes_nextBranch _
  | beginLoop header => exact ⟨_, step_beginLoop (h _ List.mem_cons_self), rfl⟩
  | beginClause kind => exact ⟨_, rfl, rfl⟩
  | endIf =>
    obtain ⟨body, outer⟩ := e
    match outer with
    | (.cond _, _) :: _ => exact ⟨_, rfl, rfl⟩
    | [] | (.loop _, _) :: _ | (.clause _, _) :: _ => rfl
  | endLoop =>
    obtain ⟨body, outer⟩ := e
    match outer with
    | (.loop _, _) :: _ => exact ⟨_, rfl, rfl⟩
    | [] | (.cond _, _) :: _ | (.clause _, _) :: _ => rfl
  | endClause =>
    obtain ⟨body, outer⟩ := e
    match outer with
    | (.clause _, _) :: _ => exact ⟨_, rfl, rfl⟩
    | [] | (.cond _, _) :: _ | (.loop _, _) :: _ => rfl

theorem firstError?_code_cons (instr : Instr) (code : List Instr) :
    host.firstError? ((instr :: code).flatMap Instr.hostTexts) =
      (host.firstError? instr.hostTexts).or (host.firstError? (code.flatMap Instr.hostTexts)) := by
  rw [List.flatMap_cons, HostSyntax.firstError?_append]

/-- Where all texts can be read, a run ends with blocks of the right shapes open, or at the first
    instruction that does not fit. -/
theorem run_of_reads {code : List Instr}
    (h : host.firstError? (code.flatMap Instr.hostTexts) = none) (runtime : List CodeToken)
    (e : Emitter) (index : Nat) :
    match Instr.afterAll e.shapes index code with
    | .ok shapes => ∃ e', run host runtime e index code = .ok e' ∧ e'.shapes = shapes
    | .error place =>
      run host runtime e index code = .error { stage := .instr place, error := unbalanced } := by
  induction code generalizing e index with
  | nil => exact ⟨e, rfl, rfl⟩
  | cons instr code ih =>
    rw [firstError?_code_cons, Option.or_eq_none_iff] at h
    have hstep := shapes_step h.1 runtime e
    rw [Instr.afterAll, run]
    cases hafter : instr.after e.shapes with
    | none =>
      rw [hafter] at hstep
      simp only [hstep]
    | some shapes =>
      rw [hafter] at hstep
      obtain ⟨e', hstep, rfl⟩ := hstep
      rw [hstep]
      exact ih h.2 e' (index + 1)

/-- Where all instructions fit, a run ends at the first text that cannot be read. -/
theorem run_of_error {code : List Instr} {error : CodeError}
    (h : host.firstError? (code.flatMap Instr.hostTexts) = some error) (runtime : List CodeToken)
    {e : Emitter} {index : Nat} {shapes : List BlockShape}
    (hfit : Instr.afterAll e.shapes index code = .ok shapes) :
    ∃ place, run host runtime e index code = .error { stage := .instr place, error := error } := by
  induction code generalizing e index with
  | nil => cases h
  | cons instr code ih =>
    rw [firstError?_code_cons, Option.or_eq_some_iff] at h
    rcases h with h | ⟨hinstr, h⟩
    · exact ⟨index, by rw [run, step_of_error h]⟩
    · have hstep := shapes_step hinstr runtime e
      rw [Instr.afterAll] at hfit
      cases hafter : instr.after e.shapes with
      | none =>
        rw [hafter] at hfit
        cases hfit
      | some shapes =>
        rw [hafter] at hstep hfit
        obtain ⟨e', hstep, rfl⟩ := hstep
        rw [run, hstep]
        exact ih h hfit

end Emitter

/-! ## Programs -/

variable {host : HostSyntax} {s : Settings} {p : Program}

theorem ofProgram_of_reads (h : host.Reads (.path s.runtimePath)) :
    ofProgram s p host =
      match run host (host.pathTokens s.runtimePath) {} 0 p.code with
      | .error failure => .error failure
      | .ok e =>
        if e.outer.isEmpty then .ok (rootBlock (host.pathTokens s.runtimePath) p.capacity e.body)
        else .error { stage := .finish, error := Emitter.unbalanced } := by
  rw [ofProgram, readText_of_none h]
  rfl

/-- A Rust block is made if all instructions fit and no block is left open. -/
theorem ofProgram_afterAll (hpath : host.Reads (.path s.runtimePath))
    (hcode : host.firstError? (p.code.flatMap Instr.hostTexts) = none) :
    match Instr.afterAll [] 0 p.code with
    | .error pc => ofProgram s p host = .error { stage := .instr pc, error := Emitter.unbalanced }
    | .ok [] => ∃ block, ofProgram s p host = .ok block
    | .ok (_ :: _) =>
      ofProgram s p host = .error { stage := .finish, error := Emitter.unbalanced } := by
  rw [ofProgram_of_reads hpath]
  have hrun := Emitter.run_of_reads hcode (host.pathTokens s.runtimePath) {} 0
  rw [show Emitter.shapes {} = [] from rfl] at hrun
  match Instr.afterAll [] 0 p.code, hrun with
  | .error pc, hrun => simp only [hrun]
  | .ok [], ⟨⟨body, outer⟩, hrun, hshapes⟩ =>
    cases List.map_eq_nil_iff.1 hshapes
    rw [hrun]
    exact ⟨_, rfl⟩
  | .ok (_ :: _), ⟨⟨body, outer⟩, hrun, hshapes⟩ =>
    obtain ⟨block, outer, rfl, -, -⟩ := List.map_eq_cons_iff.1 hshapes
    rw [hrun]
    rfl

/-- Take a program of any instructions, balanced or not, all of whose texts can be read, like the
    path of the support library. Making its Rust block fails exactly if there is no jump table for
    it, always because the instructions do not fit together, and at the same place: at the same
    instruction, or after the last one where the jump table fails at the end of the code. -/
theorem ofProgram_error_iff (host : HostSyntax) (s : Settings) (p : Program)
    (hpath : host.Reads (.path s.runtimePath))
    (hcode : ∀ instr ∈ p.code, ∀ t ∈ instr.hostTexts, host.Reads t) (failure : Failure) :
    ofProgram s p host = .error failure ↔
      ∃ pc, Jumps.ofCode p.code = .error pc ∧
        failure = {
          stage := if pc = p.code.length then .finish else .instr pc
          error := { cause := .unbalancedProgram } } := by
  have hreads : host.firstError? (p.code.flatMap Instr.hostTexts) = none := by
    rw [HostSyntax.firstError?_eq_none_iff]
    intro t ht
    obtain ⟨instr, hinstr, ht⟩ := List.mem_flatMap.1 ht
    exact hcode instr hinstr t ht
  have hblock := ofProgram_afterAll hpath hreads
  have hjumps := Jumps.ofCode_afterAll p.code
  match hafter : Instr.afterAll [] 0 p.code with
  | .error pc =>
    rw [hafter] at hblock hjumps
    -- An instruction has an index below the length of the code.
    have hne : pc ≠ p.code.length := by
      have hlt := Instr.lt_of_afterAll hafter
      omega
    simp only [hblock, hjumps, Except.error.injEq]
    constructor
    · rintro rfl
      exact ⟨pc, rfl, by rw [if_neg hne]; rfl⟩
    · rintro ⟨_, rfl, rfl⟩
      rw [if_neg hne]
      rfl
  | .ok [] =>
    rw [hafter] at hblock hjumps
    obtain ⟨block, hblock⟩ := hblock
    obtain ⟨jumps, hjumps⟩ := hjumps
    simp [hblock, hjumps]
  | .ok (_ :: _) =>
    rw [hafter] at hblock hjumps
    simp only [hblock, hjumps, Except.error.injEq]
    constructor
    · rintro rfl
      exact ⟨_, rfl, by rw [if_pos rfl]; rfl⟩
    · rintro ⟨_, rfl, rfl⟩
      rw [if_pos rfl]
      rfl

/-- The end of a conditional does not fit within a loop, though two branches without a condition
    do. Without it, three blocks are open in the end. -/
theorem ofProgram_error_iff_arms :
    let code : List Instr := [.beginClause .conditions, .beginIf "a > 0", .otherwise, .otherwise,
      .beginLoop "x in xs", .bind [.value "x.id", .raw "order", .table]]
    (HostSyntax.rust.Reads (.path "::sqltmpl") ∧
      ∀ instr ∈ code ++ [.endIf], ∀ t ∈ instr.hostTexts, HostSyntax.rust.Reads t) ∧
    ofProgram {} { code := code ++ [.endIf], capacity := 3 } .rust =
      .error { stage := .instr 6, error := { cause := .unbalancedProgram } } ∧
    ofProgram {} { code := code, capacity := 3 } .rust =
      .error { stage := .finish, error := { cause := .unbalancedProgram } } := by
  intro code
  have hpath : HostSyntax.rust.Reads (.path "::sqltmpl") := by decide +kernel
  have hcode : ∀ instr ∈ code ++ [.endIf], ∀ t ∈ instr.hostTexts, HostSyntax.rust.Reads t := by
    decide +kernel
  refine ⟨⟨hpath, hcode⟩, ?_, ?_⟩
  · exact (ofProgram_error_iff .rust {} { code := code ++ [.endIf], capacity := 3 } hpath hcode _).2
      ⟨6, rfl, rfl⟩
  · exact (ofProgram_error_iff .rust {} { code := code, capacity := 3 } hpath
      (fun instr hinstr => hcode instr (List.mem_append_left _ hinstr)) _).2 ⟨6, rfl, rfl⟩

end RustBlock

end QueryTemplate
