import QueryTemplate.Proofs.Evaluation

/-!
# Balanced code

A jump table is found for nested code, and for no other. Wherever a scan has come to, what is
left of the code has to close the blocks that are open, the innermost first; at the start none
is open, and the code is nested.

The instructions of a tree are nested exactly if every conditional of the tree has a branch. One
without a branch has an end, but no start. Its end may close a conditional around it, and the
fault then shows at another place or only at the end of the code; but the code has more ends of
conditionals than starts, which nested code has not.

* `Closes`: code that closes the open blocks (`closes_of_run`);
* `exists_nests_of_ofCode`: code with a jump table is nested, and the table is right about it;
* `Instr.net`: the starts of conditionals less their ends;
* `ofCode_ofNodes_iff`: the instructions of a tree have a jump table exactly if the tree is
  proper, and else rendering them fails without a call of the scope.
-/

namespace QueryTemplate

open Nest Node

/-! ## Code with a jump table -/

/-- The code closes the open blocks, the innermost first, with nested code in between. -/
inductive Closes : List Jumps.Unclosed → List Instr → Prop where
  /-- No block is open. -/
  | done (nests : List Nest) : Closes [] (code nests)
  /-- A conditional is closed, maybe after more branches. -/
  | cond {arm : Nat} {before : List Nat} {outer : List Jumps.Unclosed} {rest : List Instr}
    (body : List Nest) (arms : List Arm) :
    Closes outer rest →
      Closes (.cond arm before :: outer) (code body ++ (armCode arms ++ .endIf :: rest))
  /-- A loop is closed. -/
  | loop {head : Nat} {outer : List Jumps.Unclosed} {rest : List Instr} (body : List Nest) :
    Closes outer rest → Closes (.loop head :: outer) (code body ++ .endLoop :: rest)
  /-- A clause is closed. -/
  | clause {head : Nat} {outer : List Jumps.Unclosed} {rest : List Instr} (body : List Nest)
    (kind : ClauseKind) :
    Closes outer rest → Closes (.clause head :: outer) (code body ++ .endClause kind :: rest)

namespace Closes

variable {unclosed : List Jumps.Unclosed} {instrs : List Instr}

/-- A further piece in front changes nothing about the open blocks. -/
theorem cons (nest : Nest) (h : Closes unclosed instrs) :
    Closes unclosed (codeOf nest ++ instrs) := by
  cases h with
  | done nests => exact .done (nest :: nests)
  | cond body arms hrest =>
    rw [← List.append_assoc]
    exact .cond (nest :: body) arms hrest
  | loop body hrest =>
    rw [← List.append_assoc]
    exact .loop (nest :: body) hrest
  | clause body kind hrest =>
    rw [← List.append_assoc]
    exact .clause (nest :: body) kind hrest

/-- A further branch in front changes nothing but where the branches of a conditional start. -/
theorem branch {arm arm' : Nat} {before before' : List Nat} {outer : List Jumps.Unclosed}
    (condition : Option String) (h : Closes (.cond arm before :: outer) instrs) :
    Closes (.cond arm' before' :: outer) (Arm.start condition :: instrs) := by
  cases h with
  | @cond _ _ _ rest body arms hrest =>
    have hcode : Arm.start condition :: (code body ++ (armCode arms ++ .endIf :: rest)) =
        code [] ++ (armCode (.mk condition body :: arms) ++ .endIf :: rest) := by
      rw [code, armCode, List.nil_append, List.cons_append, List.append_assoc]
    rw [hcode]
    exact .cond [] (.mk condition body :: arms) hrest

/-- What closes the blocks that are open after an instruction closes, with the instruction, those
    that are open before it. -/
theorem of_step {s s' : Jumps.Scan} {pc : Nat} {instr : Instr} (hstep : s.step pc instr = some s')
    (h : Closes s'.unclosed instrs) : Closes s.unclosed (instr :: instrs) := by
  obtain ⟨jumps, unclosed⟩ := s
  cases instr with
  | literal sql =>
    cases hstep
    exact h.cons (.literal sql)
  | bind binds =>
    cases hstep
    exact h.cons (.bind binds)
  | beginIf condition =>
    cases hstep
    -- What follows closes the new conditional first; with its start, that is a whole piece.
    cases h with
    | cond body arms hrest =>
      have hcons := hrest.cons (.cond condition body arms)
      rwa [codeOf, List.cons_append, List.append_assoc, List.append_assoc,
        List.singleton_append] at hcons
  | elseIf condition =>
    match unclosed, hstep with
    | .cond _ _ :: _, rfl => exact h.branch (some condition)
  | otherwise =>
    match unclosed, hstep with
    | .cond _ _ :: _, rfl => exact h.branch none
  | endIf =>
    match unclosed, hstep with
    | .cond _ _ :: _, rfl => exact .cond [] [] h
  | beginLoop header =>
    cases hstep
    cases h with
    | loop body hrest =>
      have hcons := hrest.cons (.loop header body)
      rwa [codeOf, List.cons_append, List.append_assoc, List.singleton_append] at hcons
  | endLoop =>
    match unclosed, hstep with
    | .loop _ :: _, rfl => exact .loop [] h
  | beginClause kind =>
    cases hstep
    cases h with
    | clause body closing hrest =>
      have hcons := hrest.cons (.clause kind body closing)
      rwa [codeOf, List.cons_append, List.append_assoc, List.singleton_append] at hcons
  | endClause kind =>
    match unclosed, hstep with
    | .clause _ :: _, rfl => exact .clause [] kind h

end Closes

/-- A scan that leaves no block open has gone over code that closes those open before it. -/
theorem closes_of_run {s s' : Jumps.Scan} {pc : Nat} {instrs : List Instr}
    (h : s.run pc instrs = .ok s') (hend : s'.unclosed = []) : Closes s.unclosed instrs := by
  induction instrs generalizing s pc with
  | nil =>
    cases h
    rw [hend]
    exact .done []
  | cons instr instrs ih =>
    rw [Jumps.Scan.run] at h
    split at h
    · next hstep => exact .of_step hstep (ih h)
    · cases h

/-- Code with a jump table is nested, and the table is right about all of it. -/
theorem exists_nests_of_ofCode {instrs : List Instr} {jumps : Jumps}
    (h : Jumps.ofCode instrs = .ok jumps) :
    ∃ nests, instrs = code nests ∧ Linked jumps 0 nests := by
  have hnested : ∃ nests, instrs = code nests := by
    rw [Jumps.ofCode] at h
    cases hrun : Jumps.Scan.run { jumps := instrs.map fun _ => {} } 0 instrs with
    | error pc =>
      rw [hrun] at h
      cases h
    | ok s =>
      rw [hrun] at h
      by_cases hend : s.unclosed.isEmpty
      · have hcloses := closes_of_run hrun (List.isEmpty_iff.1 hend)
        cases hcloses with
        | done nests => exact ⟨nests, rfl⟩
      · replace h : (if s.unclosed.isEmpty then Except.ok s.jumps else .error instrs.length) =
            .ok jumps := h
        rw [if_neg hend] at h
        cases h
  obtain ⟨nests, rfl⟩ := hnested
  -- The table is the one that nested code is known to have.
  obtain ⟨jumps', hjumps', hlinked⟩ := ofCode_code nests
  cases hjumps'.symm.trans h
  exact ⟨nests, rfl, hlinked⟩

/-! ## Starts and ends of conditionals -/

namespace Instr

/-- What an instruction adds to the number of conditionals that are open. -/
def weight : Instr → Int
  | beginIf _ => 1
  | endIf => -1
  | _ => 0

/-- The starts of conditionals less their ends. -/
def net : List Instr → Int
  | [] => 0
  | instr :: instrs => instr.weight + net instrs

@[simp] theorem net_nil : net [] = 0 := rfl

theorem net_cons (instr : Instr) (instrs : List Instr) :
    net (instr :: instrs) = instr.weight + net instrs := rfl

theorem net_append (instrs more : List Instr) : net (instrs ++ more) = net instrs + net more := by
  induction instrs with
  | nil => rw [List.nil_append, net_nil, Int.zero_add]
  | cons instr instrs ih => rw [List.cons_append, net_cons, net_cons, ih, Int.add_assoc]

end Instr

open Instr

theorem weight_start (condition : Option String) : (Arm.start condition).weight = 0 := by
  cases condition with
  | none => rfl
  | some condition => rfl

mutual

theorem net_codeOf : (nest : Nest) → net (codeOf nest) = 0
  | .literal _ => rfl
  | .bind _ => rfl
  | .cond condition body arms => by
    simp only [codeOf, net_cons, net_append, net_code body, net_armCode arms, net_nil, weight]
    omega
  | .loop header body => by
    simp only [codeOf, net_cons, net_append, net_code body, net_nil, weight]
    omega
  | .clause kind body closing => by
    simp only [codeOf, net_cons, net_append, net_code body, net_nil, weight]
    omega

/-- Nested code has as many starts of conditionals as ends. -/
theorem net_code : (nests : List Nest) → net (code nests) = 0
  | [] => rfl
  | nest :: nests => by rw [code, net_append, net_codeOf nest, net_code nests, Int.add_zero]

theorem net_armCode : (arms : List Arm) → net (armCode arms) = 0
  | [] => rfl
  | .mk condition body :: arms => by
    rw [armCode, net_cons, net_append, weight_start, net_code body, net_armCode arms]
    rfl

end

mutual

theorem net_ofNode : (node : Node) → net (ofNode node) ≤ 0 ∧ (net (ofNode node) = 0 → ProperOf node)
  | .text fragment => by
    rw [ofNode]
    split <;> exact ⟨Int.le_refl 0, fun _ => trivial⟩
  | .clause kind body => by
    have hbody := net_ofNodes body
    have hnet : net (ofNode (.clause kind body)) = net (ofNodes body) := by
      simp only [ofNode, net_cons, net_append, net_nil, weight]
      omega
    rwa [hnet, ProperOf]
  | .loop header body => by
    have hbody := net_ofNodes body
    have hnet : net (ofNode (.loop header body)) = net (ofNodes body) := by
      simp only [ofNode, net_cons, net_append, net_nil, weight]
      omega
    rwa [hnet, ProperOf]
  | .cond branches none => by
    have hbranches := net_ofBranches branches
    have hnet : net (ofNode (.cond branches none)) = net (ofBranches true branches) - 1 := by
      simp only [ofNode, net_append, net_cons, net_nil, weight]
      omega
    rw [hnet, ProperOf]
    exact ⟨by omega, fun h => hbranches.2 (by omega)⟩
  | .cond branches (some last) => by
    have hbranches := net_ofBranches branches
    have hlast := net_ofNodes last
    -- An empty last branch has no instructions, and nothing below it either.
    have helse : net (if last.isEmpty then [] else otherwise :: ofNodes last) =
        net (ofNodes last) := by
      cases last with
      | nil => rfl
      | cons node last => exact Int.zero_add _
    have hnet : net (ofNode (.cond branches (some last))) =
        net (ofBranches true branches) + net (ofNodes last) - 1 := by
      simp only [ofNode, net_append, helse, net_cons, net_nil, weight]
      omega
    rw [hnet, ProperOf]
    refine ⟨by omega, fun h => ?_⟩
    obtain ⟨hne, hproper⟩ := hbranches.2 (by omega)
    exact ⟨hne, hproper, hlast.2 (by omega)⟩

/-- The instructions of nodes have no more starts of conditionals than ends, and fewer unless
    every conditional has a branch. -/
theorem net_ofNodes :
    (nodes : List Node) → net (ofNodes nodes) ≤ 0 ∧ (net (ofNodes nodes) = 0 → Proper nodes)
  | [] => ⟨Int.le_refl 0, fun _ => trivial⟩
  | node :: nodes => by
    have hnode := net_ofNode node
    have hnodes := net_ofNodes nodes
    rw [ofNodes, net_append, Proper]
    exact ⟨by omega, fun h => ⟨hnode.2 (by omega), hnodes.2 (by omega)⟩⟩

/-- With the first branch a conditional is opened. -/
theorem net_ofBranches :
    (branches : List Branch) → net (ofBranches true branches) ≤ 1 ∧
      (net (ofBranches true branches) = 1 → branches ≠ [] ∧ ProperBranches branches)
  | [] => ⟨by decide, fun h => absurd h (by decide)⟩
  | .mk condition body :: branches => by
    have hbody := net_ofNodes body
    have hbranches := net_ofLaterBranches branches
    rw [ofBranches, net_cons, net_append, ProperBranches, if_pos rfl, weight]
    exact ⟨by omega, fun h => ⟨List.cons_ne_nil _ _, hbody.2 (by omega), hbranches.2 (by omega)⟩⟩

theorem net_ofLaterBranches :
    (branches : List Branch) → net (ofBranches false branches) ≤ 0 ∧
      (net (ofBranches false branches) = 0 → ProperBranches branches)
  | [] => ⟨Int.le_refl 0, fun _ => trivial⟩
  | .mk condition body :: branches => by
    have hbody := net_ofNodes body
    have hbranches := net_ofLaterBranches branches
    have hweight : (elseIf condition).weight = 0 := rfl
    rw [ofBranches, net_cons, net_append, ProperBranches, if_neg Bool.false_ne_true, hweight]
    exact ⟨by omega, fun h => ⟨hbody.2 (by omega), hbranches.2 (by omega)⟩⟩

end

/-! ## Trees -/

/-- The instructions of a tree have a jump table exactly if every conditional has a branch. -/
theorem exists_ofCode_iff (nodes : List Node) :
    (∃ jumps, Jumps.ofCode (ofNodes nodes) = .ok jumps) ↔ Proper nodes := by
  constructor
  · rintro ⟨jumps, hjumps⟩
    obtain ⟨nests, hcode, -⟩ := exists_nests_of_ofCode hjumps
    exact (net_ofNodes nodes).2 (hcode ▸ net_code nests)
  · intro hproper
    obtain ⟨jumps, hjumps, -⟩ := ofCode_code (nests nodes)
    exact ⟨jumps, code_nests nodes hproper ▸ hjumps⟩

/-- Without a jump table, rendering fails at once, for every scope in the same way. -/
theorem render_of_ofCode_error {σ : Type} {p : Program} {pc : Nat}
    (h : Jumps.ofCode p.code = .error pc) (scope : Scope σ) (s : σ) :
    p.render scope s = .error (.malformedProgram pc) s := by
  rw [Program.render, h]
  rfl

/-- The program of a tree, read from a template or not, has a jump table exactly if every
    conditional at every depth has a branch. Otherwise rendering it fails because of an instruction
    that does not fit, whatever the scope is: the scope stays in its state, and the recorded calls
    are none. -/
theorem ofCode_ofNodes_iff (settings : Settings) (nodes : List Node) :
    let p := Program.ofNodes settings.loopMultiplier nodes
    ((∃ jumps, Jumps.ofCode p.code = .ok jumps) ↔ Proper nodes) ∧
      (¬ Proper nodes → ∃ pc, ∀ (σ : Type) (scope : Scope σ) (s : σ),
        p.render scope s = .error (.malformedProgram pc) s ∧
          p.render scope.recorded (s, []) = .error (.malformedProgram pc) (s, [])) := by
  intro p
  refine ⟨exists_ofCode_iff nodes, fun hproper => ?_⟩
  cases hjumps : Jumps.ofCode p.code with
  | ok jumps => exact absurd ((exists_ofCode_iff nodes).1 ⟨jumps, hjumps⟩) hproper
  | error pc =>
    exact ⟨pc, fun σ scope s =>
      ⟨render_of_ofCode_error hjumps scope s, render_of_ofCode_error hjumps scope.recorded (s, [])⟩⟩

/-- The end of a conditional without branches closes the one around it, so that the fault shows
    only at the end of that one, within the loop. -/
theorem ofCode_ofNodes_iff_stray :
    let nodes : List Node := [.loop "x in xs" [.cond [.mk "a" [.cond [] none]] none]]
    ¬ Proper nodes ∧
      ¬ (∃ jumps, Jumps.ofCode (Program.ofNodes 4 nodes).code = .ok jumps) ∧
      ∃ pc, ∀ (σ : Type) (scope : Scope σ) (s : σ),
        (Program.ofNodes 4 nodes).render scope s = .error (.malformedProgram pc) s ∧
          (Program.ofNodes 4 nodes).render scope.recorded (s, []) =
            .error (.malformedProgram pc) (s, []) := by
  intro nodes
  have hproper : ¬ Proper nodes := by simp [nodes, Proper, ProperOf, ProperBranches]
  obtain ⟨hiff, hrender⟩ := ofCode_ofNodes_iff {} nodes
  exact ⟨hproper, mt hiff.1 hproper, hrender hproper⟩

end QueryTemplate
