import QueryTemplate.Instr.Jumps

/-!
# Nested code

Code in which every block is closed is a tree written flat: between the two ends
of a loop or clause, and between two branches of a conditional, there is again
such code. The jump table of the flat writing is right about the tree: it links
each branch to the next one and to the end of its conditional, the two ends of a
loop to each other, and the start of a clause to its end.

* `Nest`: a piece of code with its blocks as trees, and `Nest.code` the flat
  writing of such pieces;
* `Linked`: a table is right about the pieces that start at a place;
* `Scanned`, `ScannedArms`: what a scan of a piece of code, or of the branches of a
  conditional, does to the table;
* `scan_nests`: a scan goes over nested code without a trace but in the part of
  the table that the code takes up, and links it;
* `ofCode_code`: nested code has a jump table, and it is linked.
-/

namespace QueryTemplate

mutual

/-- A piece of code with the blocks in it as trees. -/
inductive Nest where
  /-- SQL to write. -/
  | literal (sql : String)
  /-- Parameters to add. -/
  | bind (binds : List Bind)
  /-- A conditional: its first branch, and the others. -/
  | cond (condition : String) (body : List Nest) (arms : List Arm)
  /-- A loop. -/
  | loop (header : String) (body : List Nest)
  /-- A clause, with the kind it is opened as and the kind it is closed as. -/
  | clause (kind : ClauseKind) (body : List Nest) (closing : ClauseKind)

/-- A branch of a conditional after the first. -/
inductive Arm where
  /-- The branch with a condition, if it has one. -/
  | mk (condition : Option String) (body : List Nest)

end

/-- Whether an instruction starts a branch of a conditional. -/
def Instr.startsBranch : Instr → Bool
  | beginIf _ | elseIf _ | otherwise => true
  | _ => false

/-- The instruction that starts a branch after the first. -/
def Arm.start : Option String → Instr
  | some condition => .elseIf condition
  | none => .otherwise

namespace Nest

mutual

/-- The instructions of a piece. -/
def codeOf : Nest → List Instr
  | literal sql => [.literal sql]
  | bind binds => [.bind binds]
  | cond condition body arms => .beginIf condition :: (code body ++ (armCode arms ++ [.endIf]))
  | loop header body => .beginLoop header :: (code body ++ [.endLoop])
  | clause kind body closing => .beginClause kind :: (code body ++ [.endClause closing])

/-- The instructions of pieces. -/
def code : List Nest → List Instr
  | [] => []
  | nest :: nests => codeOf nest ++ code nests

/-- The instructions of branches after the first. -/
def armCode : List Arm → List Instr
  | [] => []
  | .mk condition body :: arms => Arm.start condition :: (code body ++ armCode arms)

end

theorem code_append (nests more : List Nest) : code (nests ++ more) = code nests ++ code more := by
  induction nests with
  | nil => rfl
  | cons nest nests ih => rw [List.cons_append, code, code, ih, List.append_assoc]

theorem length_cond (condition : String) (body : List Nest) (arms : List Arm) :
    (codeOf (cond condition body arms)).length =
      (code body).length + (armCode arms).length + 2 := by
  simp only [codeOf, List.length_cons, List.length_append, List.length_nil]
  omega

theorem length_loop (header : String) (body : List Nest) :
    (codeOf (loop header body)).length = (code body).length + 2 := by
  simp only [codeOf, List.length_cons, List.length_append, List.length_nil]

theorem length_clause (kind : ClauseKind) (body : List Nest) (closing : ClauseKind) :
    (codeOf (clause kind body closing)).length = (code body).length + 2 := by
  simp only [codeOf, List.length_cons, List.length_append, List.length_nil]

theorem length_code_cons (nest : Nest) (nests : List Nest) :
    (code (nest :: nests)).length = (codeOf nest).length + (code nests).length :=
  List.length_append

theorem length_armCode_cons (condition : Option String) (body : List Nest) (arms : List Arm) :
    (armCode (.mk condition body :: arms)).length =
      (code body).length + (armCode arms).length + 1 := by
  rw [armCode, List.length_cons, List.length_append]

end Nest

open Nest

/-! ## Tables -/

namespace Jumps

variable {jumps : Jumps}

theorem getD_modify (i pc : Nat) (f : Jump → Jump) :
    (jumps.modify pc f)[i]?.getD {} =
      if pc = i ∧ i < jumps.length then f (jumps[i]?.getD {}) else jumps[i]?.getD {} := by
  rw [List.getElem?_modify]
  by_cases hi : i < jumps.length
  · by_cases hpc : pc = i <;> simp [hi, hpc]
  · simp [hi]

theorem next_modify (i pc : Nat) (f : Jump → Jump) :
    next (jumps.modify pc f) i =
      if pc = i ∧ i < jumps.length then (f (jumps[i]?.getD {})).next else jumps.next i := by
  rw [next, getD_modify, apply_ite Jump.next, next]

theorem last_modify (i pc : Nat) (f : Jump → Jump) :
    last (jumps.modify pc f) i =
      if pc = i ∧ i < jumps.length then (f (jumps[i]?.getD {})).last else jumps.last i := by
  rw [last, getD_modify, apply_ite Jump.last, last]

theorem close_modify (i pc : Nat) (f : Jump → Jump) :
    close (jumps.modify pc f) i =
      if pc = i ∧ i < jumps.length then (f (jumps[i]?.getD {})).close else jumps.close i := by
  rw [close, getD_modify, apply_ite Jump.close, close]

@[simp] theorem length_setNext (pc target : Nat) :
    (jumps.setNext pc target).length = jumps.length :=
  List.length_modify ..

theorem next_setNext (i pc target : Nat) :
    (jumps.setNext pc target).next i =
      if pc = i ∧ i < jumps.length then target else jumps.next i :=
  next_modify ..

@[simp] theorem last_setNext (i pc target : Nat) :
    (jumps.setNext pc target).last i = jumps.last i := by
  rw [setNext, last_modify]
  split <;> rfl

@[simp] theorem close_setNext (i pc target : Nat) :
    (jumps.setNext pc target).close i = jumps.close i := by
  rw [setNext, close_modify]
  split <;> rfl

@[simp] theorem length_setClose (pc target : Nat) :
    (jumps.setClose pc target).length = jumps.length :=
  List.length_modify ..

@[simp] theorem next_setClose (i pc target : Nat) :
    (jumps.setClose pc target).next i = jumps.next i := by
  rw [setClose, next_modify]
  split <;> rfl

@[simp] theorem last_setClose (i pc target : Nat) :
    (jumps.setClose pc target).last i = jumps.last i := by
  rw [setClose, last_modify]
  split <;> rfl

theorem close_setClose (i pc target : Nat) :
    (jumps.setClose pc target).close i =
      if pc = i ∧ i < jumps.length then target else jumps.close i :=
  close_modify ..

theorem setLast_cons (target pc : Nat) (pcs : List Nat) :
    jumps.setLast target (pc :: pcs) =
      setLast (jumps.modify pc fun jump => { jump with last := target }) target pcs :=
  rfl

@[simp] theorem length_setLast (target : Nat) (pcs : List Nat) :
    (jumps.setLast target pcs).length = jumps.length := by
  induction pcs generalizing jumps with
  | nil => rfl
  | cons pc pcs ih => rw [setLast_cons, ih, List.length_modify]

@[simp] theorem next_setLast (i target : Nat) (pcs : List Nat) :
    (jumps.setLast target pcs).next i = jumps.next i := by
  induction pcs generalizing jumps with
  | nil => rfl
  | cons pc pcs ih =>
    rw [setLast_cons, ih, next_modify]
    split <;> rfl

@[simp] theorem close_setLast (i target : Nat) (pcs : List Nat) :
    (jumps.setLast target pcs).close i = jumps.close i := by
  induction pcs generalizing jumps with
  | nil => rfl
  | cons pc pcs ih =>
    rw [setLast_cons, ih, close_modify]
    split <;> rfl

theorem last_setLast (i target : Nat) (pcs : List Nat) :
    (jumps.setLast target pcs).last i =
      if i ∈ pcs ∧ i < jumps.length then target else jumps.last i := by
  induction pcs generalizing jumps with
  | nil => simp [setLast]
  | cons pc pcs ih =>
    rw [setLast_cons, ih, last_modify, List.length_modify]
    by_cases hi : i < jumps.length
    · by_cases hpc : i = pc
      · subst hpc
        simp [hi]
      · simp [hpc, Ne.symm hpc]
    · simp [hi]

/-- Two tables have the same places at `i`. -/
structure AgreeAt (jumps jumps' : Jumps) (i : Nat) : Prop where
  next : jumps.next i = jumps'.next i
  last : jumps.last i = jumps'.last i
  close : jumps.close i = jumps'.close i

theorem AgreeAt.rfl {i : Nat} : jumps.AgreeAt jumps i :=
  ⟨.refl _, .refl _, .refl _⟩

theorem AgreeAt.trans {jumps jumps' jumps'' : Jumps} {i : Nat} (h : jumps.AgreeAt jumps' i)
    (h' : jumps'.AgreeAt jumps'' i) : jumps.AgreeAt jumps'' i :=
  ⟨h.next.trans h'.next, h.last.trans h'.last, h.close.trans h'.close⟩

theorem agreeAt_setNext {i pc : Nat} (target : Nat) (h : pc ≠ i) :
    (jumps.setNext pc target).AgreeAt jumps i :=
  ⟨by rw [next_setNext, if_neg fun hc => h hc.1], last_setNext .., close_setNext ..⟩

theorem agreeAt_setClose {i pc : Nat} (target : Nat) (h : pc ≠ i) :
    (jumps.setClose pc target).AgreeAt jumps i :=
  ⟨next_setClose .., last_setClose .., by rw [close_setClose, if_neg fun hc => h hc.1]⟩

theorem agreeAt_setLast {i : Nat} {pcs : List Nat} (target : Nat) (h : i ∉ pcs) :
    (jumps.setLast target pcs).AgreeAt jumps i :=
  ⟨next_setLast .., by rw [last_setLast, if_neg fun hc => h hc.1], close_setLast ..⟩

end Jumps

/-! ## Links -/

mutual

/-- The table has the places of the piece that starts at a place. -/
def LinkedOf (jumps : Jumps) : Nat → Nest → Prop
  | _, .literal _ => True
  | _, .bind _ => True
  | pc, .cond _ body arms =>
    let next := pc + 1 + (code body).length
    let last := next + (armCode arms).length
    jumps.next pc = next ∧ jumps.last pc = last ∧
      Linked jumps (pc + 1) body ∧ LinkedArms jumps next last arms
  | pc, .loop _ body =>
    jumps.next pc = pc + 1 + (code body).length ∧
      jumps.next (pc + 1 + (code body).length) = pc ∧ Linked jumps (pc + 1) body
  | pc, .clause _ body _ =>
    jumps.close pc = pc + 1 + (code body).length ∧ Linked jumps (pc + 1) body

/-- The table has the places of the pieces that start at a place. -/
def Linked (jumps : Jumps) : Nat → List Nest → Prop
  | _, [] => True
  | pc, nest :: nests => LinkedOf jumps pc nest ∧ Linked jumps (pc + (codeOf nest).length) nests

/-- The table has the places of the branches that start at a place, of a
    conditional that is closed at `last`. -/
def LinkedArms (jumps : Jumps) : Nat → Nat → List Arm → Prop
  | _, _, [] => True
  | pc, last, .mk _ body :: arms =>
    let next := pc + 1 + (code body).length
    jumps.next pc = next ∧ jumps.last pc = last ∧
      Linked jumps (pc + 1) body ∧ LinkedArms jumps next last arms

end

mutual

/-- Whether a table is linked shows in the part that the piece takes up. -/
theorem LinkedOf.congr {jumps jumps' : Jumps} {pc : Nat} :
    {nest : Nest} → LinkedOf jumps pc nest →
      (∀ i, pc ≤ i → i < pc + (codeOf nest).length → jumps'.AgreeAt jumps i) →
      LinkedOf jumps' pc nest
  | .literal _, _, _ => trivial
  | .bind _, _, _ => trivial
  | .cond _ body arms, ⟨hnext, hlast, hbody, harms⟩, h => by
    rw [length_cond] at h
    refine ⟨?_, ?_, hbody.congr fun i h₁ h₂ => h i (by omega) (by omega),
      harms.congr fun i h₁ h₂ => h i (by omega) (by omega)⟩
    · rw [(h pc (by omega) (by omega)).next, hnext]
    · rw [(h pc (by omega) (by omega)).last, hlast]
  | .loop _ body, ⟨hnext, hback, hbody⟩, h => by
    rw [length_loop] at h
    refine ⟨?_, ?_, hbody.congr fun i h₁ h₂ => h i (by omega) (by omega)⟩
    · rw [(h pc (by omega) (by omega)).next, hnext]
    · rw [(h _ (by omega) (by omega)).next, hback]
  | .clause _ body _, ⟨hclose, hbody⟩, h => by
    rw [length_clause] at h
    refine ⟨?_, hbody.congr fun i h₁ h₂ => h i (by omega) (by omega)⟩
    rw [(h pc (by omega) (by omega)).close, hclose]

theorem Linked.congr {jumps jumps' : Jumps} {pc : Nat} :
    {nests : List Nest} → Linked jumps pc nests →
      (∀ i, pc ≤ i → i < pc + (code nests).length → jumps'.AgreeAt jumps i) →
      Linked jumps' pc nests
  | [], _, _ => trivial
  | nest :: nests, ⟨hnest, hnests⟩, h => by
    rw [length_code_cons] at h
    exact ⟨hnest.congr fun i h₁ h₂ => h i (by omega) (by omega),
      hnests.congr fun i h₁ h₂ => h i (by omega) (by omega)⟩

theorem LinkedArms.congr {jumps jumps' : Jumps} {pc last : Nat} :
    {arms : List Arm} → LinkedArms jumps pc last arms →
      (∀ i, pc ≤ i → i < pc + (armCode arms).length → jumps'.AgreeAt jumps i) →
      LinkedArms jumps' pc last arms
  | [], _, _ => trivial
  | .mk _ body :: arms, ⟨hnext, hlast, hbody, harms⟩, h => by
    rw [length_armCode_cons] at h
    refine ⟨?_, ?_, hbody.congr fun i h₁ h₂ => h i (by omega) (by omega),
      harms.congr fun i h₁ h₂ => h i (by omega) (by omega)⟩
    · rw [(h pc (by omega) (by omega)).next, hnext]
    · rw [(h pc (by omega) (by omega)).last, hlast]

end

/-! ## Scans -/

/-- A scan of the code at `pc` turns the first table into the second. It leaves
    the open blocks as they are, and changes the table only in the part that the
    code takes up. -/
structure Scanned (jumps jumps' : Jumps) (pc : Nat) (code : List Instr) : Prop where
  length_eq : jumps'.length = jumps.length
  agree : ∀ i, i < pc ∨ pc + code.length ≤ i → jumps'.AgreeAt jumps i
  run_eq : ∀ unclosed rest, Jumps.Scan.run ⟨jumps, unclosed⟩ pc (code ++ rest) =
    Jumps.Scan.run ⟨jumps', unclosed⟩ (pc + code.length) rest

theorem Scanned.append {jumps jumps' jumps'' : Jumps} {pc : Nat} {code more : List Instr}
    (h : Scanned jumps jumps' pc code) (h' : Scanned jumps' jumps'' (pc + code.length) more) :
    Scanned jumps jumps'' pc (code ++ more) where
  length_eq := h'.length_eq.trans h.length_eq
  agree i hi := by
    rw [List.length_append] at hi
    exact (h'.agree i (by omega)).trans (h.agree i (by omega))
  run_eq unclosed rest := by
    rw [List.append_assoc, h.run_eq, h'.run_eq, List.length_append, Nat.add_assoc]

/-- A scan of a loop or clause, from a scan of what it encloses; `link` is what closing the block
    at a place does to the table. -/
theorem Scanned.enclose {jumps jumps₁ : Jumps} {pc : Nat} {body : List Instr}
    (h : Scanned jumps jumps₁ (pc + 1) body) (opening closing : Instr) (block : Jumps.Unclosed)
    (link : Jumps → Nat → Jumps)
    (hlength : ∀ jumps last, (link jumps last).length = jumps.length)
    (hagree : ∀ jumps last i, pc ≠ i → last ≠ i → (link jumps last).AgreeAt jumps i)
    (hopen : ∀ jumps outer,
      Jumps.Scan.step ⟨jumps, outer⟩ pc opening = some ⟨jumps, block :: outer⟩)
    (hclose : ∀ jumps outer last, Jumps.Scan.step ⟨jumps, block :: outer⟩ last closing =
      some ⟨link jumps last, outer⟩) :
    Scanned jumps (link jumps₁ (pc + 1 + body.length)) pc (opening :: (body ++ [closing])) := by
  refine ⟨(hlength ..).trans h.length_eq, fun i hi => ?_, fun outer rest => ?_⟩
  · simp only [List.length_cons, List.length_append, List.length_nil] at hi
    exact (hagree _ _ i (by omega) (by omega)).trans (h.agree i (by omega))
  · rw [List.cons_append, List.append_assoc, Jumps.Scan.run, hopen]
    simp only
    rw [h.run_eq, List.singleton_append, Jumps.Scan.run, hclose]
    simp only [List.length_cons, List.length_append, List.length_nil]
    congr 1
    omega

/-- A scan of the branches of a conditional after the one at `arm`, up to and with the
    end of the conditional; `before` are the places of the branches before `arm`. It
    links `arm` to what comes next, and all branches to the end. -/
structure ScannedArms (jumps jumps' : Jumps) (pc arm : Nat) (before : List Nat)
    (code : List Instr) : Prop where
  length_eq : jumps'.length = jumps.length
  run_eq : ∀ outer rest,
    Jumps.Scan.run ⟨jumps, .cond arm before :: outer⟩ pc (code ++ .endIf :: rest) =
      Jumps.Scan.run ⟨jumps', outer⟩ (pc + code.length + 1) rest
  next_arm : jumps'.next arm = pc
  last_eq : ∀ i ∈ arm :: before, jumps'.last i = pc + code.length
  next_of_lt : ∀ i < pc, i ≠ arm → jumps'.next i = jumps.next i
  last_of_lt : ∀ i < pc, i ∉ arm :: before → jumps'.last i = jumps.last i
  close_of_lt : ∀ i < pc, jumps'.close i = jumps.close i
  agree : ∀ i, pc + code.length < i → jumps'.AgreeAt jumps i

namespace ScannedArms

variable {jumps jumps₁ jumps₂ : Jumps} {pc arm : Nat} {before : List Nat}
  {body more : List Instr}

/-- Without further branches, the end of the conditional comes next. -/
theorem endIf (hbefore : ∀ i ∈ arm :: before, i < pc) (hlen : pc < jumps.length) :
    ScannedArms jumps ((jumps.setNext arm pc).setLast pc (arm :: before)) pc arm before [] where
  length_eq := by rw [Jumps.length_setLast, Jumps.length_setNext]
  run_eq _ _ := rfl
  next_arm := by
    have harm := hbefore arm List.mem_cons_self
    rw [Jumps.next_setLast, Jumps.next_setNext, if_pos ⟨rfl, Nat.lt_trans harm hlen⟩]
  last_eq i hi := by
    have hlt := Nat.lt_trans (hbefore i hi) hlen
    rw [Jumps.last_setLast, Jumps.length_setNext, if_pos ⟨hi, hlt⟩]
    rfl
  next_of_lt i _ hne := by
    rw [Jumps.next_setLast, Jumps.next_setNext, if_neg fun h => hne h.1.symm]
  last_of_lt i _ hni := by
    rw [Jumps.last_setLast, if_neg fun h => hni h.1, Jumps.last_setNext]
  close_of_lt i _ := by rw [Jumps.close_setLast, Jumps.close_setNext]
  agree i hi := by
    have hni : i ∉ arm :: before := fun h => Nat.lt_asymm (hbefore i h) hi
    have hne : arm ≠ i := fun h => hni (h ▸ List.mem_cons_self)
    exact (Jumps.agreeAt_setLast pc hni).trans (Jumps.agreeAt_setNext pc hne)

/-- A further branch: `arm` is linked to it, and it takes the place of `arm`. -/
theorem branch {start : Instr} (hbody : Scanned (jumps.setNext arm pc) jumps₁ (pc + 1) body)
    (h : ScannedArms jumps₁ jumps₂ (pc + 1 + body.length) pc (arm :: before) more)
    (hbefore : ∀ i ∈ arm :: before, i < pc) (hlen : pc < jumps.length)
    (hstart : ∀ outer, Jumps.Scan.step ⟨jumps, .cond arm before :: outer⟩ pc start =
      some ⟨jumps.setNext arm pc, .cond pc (arm :: before) :: outer⟩) :
    ScannedArms jumps jumps₂ pc arm before (start :: (body ++ more)) := by
  have harm := hbefore arm List.mem_cons_self
  have hlength : (start :: (body ++ more)).length = 1 + body.length + more.length := by
    rw [List.length_cons, List.length_append]
    omega
  refine ⟨?_, fun outer rest => ?_, ?_, fun i hi => ?_, fun i hi hne => ?_, fun i hi hni => ?_,
    fun i hi => ?_, fun i hi => ?_⟩
  · rw [h.length_eq, hbody.length_eq, Jumps.length_setNext]
  · rw [List.cons_append, List.append_assoc, Jumps.Scan.run, hstart]
    simp only
    rw [hbody.run_eq, h.run_eq, hlength]
    congr 1
    omega
  · rw [h.next_of_lt arm (by omega) (by omega), (hbody.agree arm (by omega)).next,
      Jumps.next_setNext, if_pos ⟨rfl, Nat.lt_trans harm hlen⟩]
  · rw [h.last_eq i (List.mem_cons_of_mem _ hi), hlength]
    omega
  · rw [h.next_of_lt i (by omega) (by omega), (hbody.agree i (by omega)).next, Jumps.next_setNext,
      if_neg fun h => hne h.1.symm]
  · have hni' : i ∉ pc :: arm :: before := List.not_mem_cons_of_ne_of_not_mem (by omega) hni
    rw [h.last_of_lt i (by omega) hni', (hbody.agree i (by omega)).last, Jumps.last_setNext]
  · rw [h.close_of_lt i (by omega), (hbody.agree i (by omega)).close, Jumps.close_setNext]
  · rw [hlength] at hi
    exact (h.agree i (by omega)).trans ((hbody.agree i (by omega)).trans
      (Jumps.agreeAt_setNext pc (by omega)))

theorem agreeAt (h : ScannedArms jumps jumps₁ pc arm before more) {i : Nat} (hi : i < pc)
    (hni : i ∉ arm :: before) : jumps₁.AgreeAt jumps i :=
  ⟨h.next_of_lt i hi (List.ne_of_not_mem_cons hni), h.last_of_lt i hi hni, h.close_of_lt i hi⟩

/-- A scan of a conditional, from scans of its first branch and of the others. -/
theorem scanned (hbody : Scanned jumps jumps₁ (pc + 1) body)
    (h : ScannedArms jumps₁ jumps₂ (pc + 1 + body.length) pc [] more) (condition : String) :
    Scanned jumps jumps₂ pc (.beginIf condition :: (body ++ (more ++ [.endIf]))) := by
  have hlength : (Instr.beginIf condition :: (body ++ (more ++ [.endIf]))).length =
      body.length + more.length + 2 := by
    simp only [List.length_cons, List.length_append, List.length_nil]
    omega
  refine ⟨h.length_eq.trans hbody.length_eq, fun i hi => ?_, fun outer rest => ?_⟩
  · rw [hlength] at hi
    refine Jumps.AgreeAt.trans ?_ (hbody.agree i (by omega))
    rcases hi with hi | hi
    · exact h.agreeAt (by omega) (by simp; omega)
    · exact h.agree i (by omega)
  · rw [hlength, List.cons_append, List.append_assoc, List.append_assoc, Jumps.Scan.run]
    simp only [Jumps.Scan.step]
    rw [hbody.run_eq, List.singleton_append, h.run_eq]
    congr 1
    omega

end ScannedArms

mutual

theorem scan_nest :
    (nest : Nest) → (jumps : Jumps) → (pc : Nat) → pc + (codeOf nest).length ≤ jumps.length →
      ∃ jumps', Scanned jumps jumps' pc (codeOf nest) ∧ LinkedOf jumps' pc nest
  | .literal _, jumps, _, _ => ⟨jumps, ⟨rfl, fun _ _ => .rfl, fun _ _ => rfl⟩, trivial⟩
  | .bind _, jumps, _, _ => ⟨jumps, ⟨rfl, fun _ _ => .rfl, fun _ _ => rfl⟩, trivial⟩
  | .cond condition body arms, jumps, pc, h => by
    rw [length_cond] at h
    obtain ⟨jumps₁, hbody, hlinked⟩ := scan_nests body jumps (pc + 1) (by omega)
    obtain ⟨jumps₂, harms, hlinked'⟩ :=
      scan_arms arms jumps₁ (pc + 1 + (code body).length) pc [] (by simp; omega)
        (by rw [hbody.length_eq]; omega)
    refine ⟨jumps₂, harms.scanned hbody condition, harms.next_arm,
      harms.last_eq pc List.mem_cons_self, ?_, hlinked'⟩
    exact hlinked.congr fun i h₁ h₂ => harms.agreeAt h₂ (by simp; omega)
  | .loop header body, jumps, pc, h => by
    rw [length_loop] at h
    obtain ⟨jumps₁, hbody, hlinked⟩ := scan_nests body jumps (pc + 1) (by omega)
    have hlen := hbody.length_eq
    have hagree (jumps : Jumps) (last i : Nat) (hpc : pc ≠ i) (hlast : last ≠ i) :
        ((jumps.setNext pc last).setNext last pc).AgreeAt jumps i :=
      (Jumps.agreeAt_setNext pc hlast).trans (Jumps.agreeAt_setNext last hpc)
    have hscan := hbody.enclose (.beginLoop header) .endLoop (.loop pc)
      (fun jumps last => (jumps.setNext pc last).setNext last pc) (by simp) hagree
      (fun _ _ => rfl) fun _ _ _ => rfl
    refine ⟨_, hscan, ?_, ?_, hlinked.congr fun i h₁ h₂ => hagree _ _ i (by omega) (by omega)⟩
    · rw [Jumps.next_setNext, if_neg fun hc => by omega, Jumps.next_setNext, if_pos ⟨rfl, by omega⟩]
    · rw [Jumps.next_setNext, if_pos ⟨rfl, by rw [Jumps.length_setNext]; omega⟩]
  | .clause kind body closing, jumps, pc, h => by
    rw [length_clause] at h
    obtain ⟨jumps₁, hbody, hlinked⟩ := scan_nests body jumps (pc + 1) (by omega)
    have hlen := hbody.length_eq
    have hscan := hbody.enclose (.beginClause kind) (.endClause closing) (.clause pc)
      (fun jumps last => jumps.setClose pc last) (by simp)
      (fun _ last _ hpc _ => Jumps.agreeAt_setClose last hpc) (fun _ _ => rfl) fun _ _ _ => rfl
    refine ⟨_, hscan, ?_, hlinked.congr fun i h₁ h₂ => Jumps.agreeAt_setClose _ (by omega)⟩
    rw [Jumps.close_setClose, if_pos ⟨rfl, by omega⟩]

theorem scan_nests :
    (nests : List Nest) → (jumps : Jumps) → (pc : Nat) → pc + (code nests).length ≤ jumps.length →
      ∃ jumps', Scanned jumps jumps' pc (code nests) ∧ Linked jumps' pc nests
  | [], jumps, _, _ => ⟨jumps, ⟨rfl, fun _ _ => .rfl, fun _ _ => rfl⟩, trivial⟩
  | nest :: nests, jumps, pc, h => by
    rw [length_code_cons] at h
    obtain ⟨jumps₁, hnest, hlinked⟩ := scan_nest nest jumps pc (by omega)
    obtain ⟨jumps₂, hnests, hlinked'⟩ :=
      scan_nests nests jumps₁ (pc + (codeOf nest).length) (by rw [hnest.length_eq]; omega)
    -- The later pieces leave the links of the first one alone.
    exact ⟨jumps₂, hnest.append hnests,
      hlinked.congr fun i _ h₂ => hnests.agree i (.inl h₂), hlinked'⟩

theorem scan_arms :
    (arms : List Arm) → (jumps : Jumps) → (pc arm : Nat) → (before : List Nat) →
      (∀ i ∈ arm :: before, i < pc) → pc + (armCode arms).length < jumps.length →
      ∃ jumps', ScannedArms jumps jumps' pc arm before (armCode arms) ∧
        LinkedArms jumps' pc (pc + (armCode arms).length) arms
  | [], _, _, _, _, hbefore, h => ⟨_, .endIf hbefore h, trivial⟩
  | .mk condition body :: arms, jumps, pc, arm, before, hbefore, h => by
    rw [length_armCode_cons] at h ⊢
    have hlen : (jumps.setNext arm pc).length = jumps.length := Jumps.length_setNext ..
    obtain ⟨jumps₁, hbody, hlinked⟩ :=
      scan_nests body (jumps.setNext arm pc) (pc + 1) (by omega)
    have hbefore' : ∀ i ∈ pc :: arm :: before, i < pc + 1 + (code body).length := by
      intro i hi
      rcases List.mem_cons.1 hi with rfl | hi
      · omega
      · exact Nat.lt_trans (hbefore i hi) (by omega)
    obtain ⟨jumps₂, harms, hlinked'⟩ :=
      scan_arms arms jumps₁ (pc + 1 + (code body).length) pc (arm :: before) hbefore'
        (by rw [hbody.length_eq]; omega)
    have hsum : pc + 1 + (code body).length + (armCode arms).length =
        pc + ((code body).length + (armCode arms).length + 1) := by omega
    refine ⟨jumps₂, harms.branch hbody hbefore (by omega) fun outer => ?_, harms.next_arm, ?_, ?_,
      hsum ▸ hlinked'⟩
    · cases condition with
      | none => rfl
      | some condition => rfl
    · rw [harms.last_eq pc List.mem_cons_self, hsum]
    · refine hlinked.congr fun i h₁ h₂ => harms.agreeAt h₂ fun hi => ?_
      rcases List.mem_cons.1 hi with rfl | hi
      · omega
      · exact absurd (hbefore i hi) (by omega)

end

/-- Nested code has a jump table, and it is right about all of the code. -/
theorem ofCode_code (nests : List Nest) :
    ∃ jumps, Jumps.ofCode (code nests) = .ok jumps ∧ Linked jumps 0 nests := by
  obtain ⟨jumps, hscan, hlinked⟩ :=
    scan_nests nests ((code nests).map fun _ => {}) 0 (by simp)
  refine ⟨jumps, ?_, hlinked⟩
  have hrun := hscan.run_eq [] []
  rw [List.append_nil, Jumps.Scan.run] at hrun
  rw [Jumps.ofCode, hrun]
  rfl

end QueryTemplate
