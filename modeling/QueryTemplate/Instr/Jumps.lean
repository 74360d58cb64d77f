import QueryTemplate.Instr

/-!
# Jumps

Which instructions of a list belong together: where the branch of a conditional
ends, and where a conditional, loop or clause is closed.

Places to jump to are there for conditionals and loops. No instruction jumps over
a clause, so that at its two ends there is no such place; where a clause is closed,
which is asked for to run it as a whole, is kept apart from them.

* `Jump`: the places that go with an instruction;
* `Jumps.ofCode`: the table of them, or the place of the first instruction that
  does not fit into the blocks open before it.
-/

namespace QueryTemplate

/-- The places that go with an instruction. -/
structure Jump where
  /-- For a branch of a conditional, where the next one starts or the conditional
      is closed; for a loop, the other end of it. -/
  next : Nat := 0
  /-- For a branch of a conditional, where the conditional is closed. -/
  last : Nat := 0
  /-- For the start of a clause, where the clause is closed. -/
  close : Nat := 0
deriving DecidableEq

/-- The places that go with each instruction of a list. -/
abbrev Jumps := List Jump

namespace Jumps

/-- The place after the branch, or the other end of the loop, at `pc`. -/
def next (jumps : Jumps) (pc : Nat) : Nat :=
  (jumps[pc]?.getD {}).next

/-- The place where the conditional with the branch at `pc` is closed. -/
def last (jumps : Jumps) (pc : Nat) : Nat :=
  (jumps[pc]?.getD {}).last

/-- The place where the clause that starts at `pc` is closed. -/
def close (jumps : Jumps) (pc : Nat) : Nat :=
  (jumps[pc]?.getD {}).close

/-- The table with `target` as the next place of `pc`. -/
def setNext (jumps : Jumps) (pc target : Nat) : Jumps :=
  jumps.modify pc fun jump => { jump with next := target }

/-- The table with `target` as the last place of every one of `pcs`. -/
def setLast (jumps : Jumps) (target : Nat) (pcs : List Nat) : Jumps :=
  pcs.foldl (fun jumps pc => jumps.modify pc fun jump => { jump with last := target }) jumps

/-- The table with `target` as the place where the clause at `pc` is closed. -/
def setClose (jumps : Jumps) (pc target : Nat) : Jumps :=
  jumps.modify pc fun jump => { jump with close := target }

/-- A block that is not closed yet. -/
inductive Unclosed where
  /-- A conditional: where its latest branch starts, and where those before it do. -/
  | cond (arm : Nat) (arms : List Nat)
  /-- A loop opened at `head`. -/
  | loop (head : Nat)
  /-- A clause opened at `head`. -/
  | clause (head : Nat)
deriving DecidableEq

/-- The table filled in so far, and the blocks still open, the innermost first. -/
structure Scan where
  /-- The table. -/
  jumps : Jumps
  /-- The open blocks. -/
  unclosed : List Unclosed := []

/-- The scan after the instruction at `pc`, if that fits. -/
def Scan.step (s : Scan) (pc : Nat) : Instr → Option Scan
  | .literal _ | .bind _ => some s
  | .beginIf _ => some { s with unclosed := .cond pc [] :: s.unclosed }
  | .elseIf _ | .otherwise =>
    match s.unclosed with
    | .cond arm arms :: outer =>
      some { jumps := s.jumps.setNext arm pc, unclosed := .cond pc (arm :: arms) :: outer }
    | _ => none
  | .endIf =>
    match s.unclosed with
    | .cond arm arms :: outer =>
      some { jumps := (s.jumps.setNext arm pc).setLast pc (arm :: arms), unclosed := outer }
    | _ => none
  | .beginLoop _ => some { s with unclosed := .loop pc :: s.unclosed }
  | .endLoop =>
    match s.unclosed with
    | .loop head :: outer =>
      some { jumps := (s.jumps.setNext head pc).setNext pc head, unclosed := outer }
    | _ => none
  | .beginClause _ => some { s with unclosed := .clause pc :: s.unclosed }
  | .endClause _ =>
    match s.unclosed with
    | .clause head :: outer => some { jumps := s.jumps.setClose head pc, unclosed := outer }
    | _ => none

/-- The scan after instructions, the first of which is at `pc`, or the place of
    the first that does not fit. -/
def Scan.run (s : Scan) (pc : Nat) : List Instr → Except Nat Scan
  | [] => .ok s
  | instr :: code =>
    match s.step pc instr with
    | some s => s.run (pc + 1) code
    | none => .error pc

/-- The table of a list of instructions, or the place of the first that does not
    fit; a block left open shows at the end of the list. -/
def ofCode (code : List Instr) : Except Nat Jumps := do
  let s ← Scan.run { jumps := code.map fun _ => {} } 0 code
  if s.unclosed.isEmpty then .ok s.jumps else .error code.length

end Jumps

end QueryTemplate
