import QueryTemplate.Proofs.Balance
import QueryTemplate.Proofs.Lockstep

/-!
# Matching instructions

Which instructions belong together can be read off the code alone. The depth of a place is the
number of blocks opened before it less the number of those closed. A block is open from its start
for as long as the depth stays above that of the start, and the instruction that closes it is the
one that brings the depth back. The branches of a conditional and its end stand directly in it:
with them, one block less is around the instruction than are open.

The jump table has just these places. This follows from the nested code that code with a jump table
is: a stretch of nested code comes back to the depth that it starts from and never falls below, and
every block opened in it is closed in it.

The scan that makes the table keeps the open blocks, and their starts are the places of the code
where blocks are open. So an instruction that does not fit for the scan has no block to belong to.

* `Instr.depth`, `Instr.level`: how many blocks are open before a place, and around an instruction;
* `Instr.Directly`, `Instr.Pairs`: a place stands directly in a block, or closes it;
* `Jumps.Matching`: a table has the places that belong together;
* `Stretch`: what nested code does to the depth (`stretch_nests`);
* `Tracks`: the open blocks of a scan are those of the code (`tracks_of_step`);
* `ofCode_matching`: the jump table is the matching of the code, and where there is none the first
  instruction without a match is named.
-/

namespace QueryTemplate

open Nest

/-! ## Blocks by place -/

namespace Instr

/-- The shape of the block that an instruction opens. -/
def opens? : Instr → Option BlockShape
  | beginIf _ => some .cond
  | beginLoop _ => some .loop
  | beginClause _ => some .clause
  | _ => none

/-- The shape of the block that an instruction closes. -/
def closes? : Instr → Option BlockShape
  | endIf => some .cond
  | endLoop => some .loop
  | endClause _ => some .clause
  | _ => none

/-- The shape of the block that an instruction belongs to without opening it: as the start of a
    further branch, or as the end. -/
def within? : Instr → Option BlockShape
  | elseIf _ | otherwise => some .cond
  | instr => instr.closes?

/-- What an instruction adds to the number of open blocks. -/
def rise (instr : Instr) : Int :=
  if instr.opens?.isSome then 1 else if instr.closes?.isSome then -1 else 0

/-- The number of blocks that are open before a place of the code. -/
def depth (code : List Instr) (i : Nat) : Int :=
  (code.take i).foldl (fun d instr => d + instr.rise) 0

/-- The number of blocks around the instruction at a place, without the one that it belongs to. -/
def level (code : List Instr) (i : Nat) : Int :=
  if (code[i]?.bind within?).isSome then depth code i - 1 else depth code i

/-- The block opened at `start` is the innermost one that is open before `i`. -/
structure Directly (code : List Instr) (start i : Nat) : Prop where
  lt : start < i
  depth_eq : depth code i = depth code start + 1
  lt_depth : ∀ k, start < k → k ≤ i → depth code start < depth code k

/-- The instruction at `j` closes the block that the one at `i` opens. -/
def Pairs (code : List Instr) (i j : Nat) : Prop :=
  Directly code i j ∧ ∃ shape, code[i]?.bind opens? = some shape ∧
    code[j]?.bind closes? = some shape

/-- The block that the instruction at a place belongs to, if it is to belong to one, is open there
    and has the right shape. -/
def Fits (code : List Instr) (i : Nat) : Prop :=
  ∀ shape, code[i]?.bind within? = some shape →
    ∃ start, Directly code start i ∧ code[start]?.bind opens? = some shape

/-- A branch of a conditional starts at a place. -/
def BranchAt (code : List Instr) (i : Nat) : Prop :=
  ∃ instr, code[i]? = some instr ∧ instr.startsBranch

/-- A loop is opened or closed at a place. -/
def LoopEndAt (code : List Instr) (i : Nat) : Prop :=
  code[i]?.bind opens? = some .loop ∨ code[i]?.bind closes? = some .loop

/-- Every block opened from `lo` on and before `hi` is closed there, and the other way round. -/
def Closed (code : List Instr) (lo hi : Nat) : Prop :=
  ∀ k, lo ≤ k → k < hi →
    ((code[k]?.bind opens?).isSome → ∃ m < hi, Pairs code k m) ∧
    ((code[k]?.bind closes?).isSome → ∃ m ≥ lo, Pairs code m k)

/-- Code that is nested: blocks are closed in the reverse order of their starts, and branches stand
    directly in conditionals. -/
def Balanced (code : List Instr) : Prop :=
  ∃ nests, code = Nest.code nests

end Instr

open Instr

namespace Jumps

/-- What a table has for the branch at `i`: the first place after it, among the branches and ends
    of conditionals with as many blocks around them, and the end of the conditional that the branch
    is one of. -/
structure MatchesBranch (code : List Instr) (jumps : Jumps) (i : Nat) : Prop where
  lt_next : i < jumps.next i
  next_le_last : jumps.next i ≤ jumps.last i
  last_lt : jumps.last i < code.length
  within_next : code[jumps.next i]?.bind within? = some .cond
  level_next : level code (jumps.next i) = level code i
  first_next : ∀ k, i < k → k < jumps.next i → code[k]?.bind within? = some .cond →
    level code k ≠ level code i
  pairs_last : ∃ start ≤ i, level code start = level code i ∧
    code[start]?.bind opens? = some .cond ∧ Pairs code start (jumps.last i)
  closed_next : Closed code (i + 1) (jumps.next i)
  closed_last : Closed code (i + 1) (jumps.last i)

/-- The table has the places of the code that belong together: for every branch of a conditional,
    and for the two ends of every loop. For all else, the ends of clauses among it, there is no
    place to jump to. -/
structure Matching (code : List Instr) (jumps : Jumps) : Prop where
  branch : ∀ i instr, code[i]? = some instr → instr.startsBranch → MatchesBranch code jumps i
  loop : ∀ i j, Pairs code i j → code[i]?.bind opens? = some .loop →
    jumps.next i = j ∧ jumps.next j = i ∧ Closed code (i + 1) j
  loop_start : ∀ i, code[i]?.bind opens? = some .loop → ∃ j, Pairs code i j
  loop_end : ∀ j, code[j]?.bind closes? = some .loop → ∃ i, Pairs code i j
  next_at : ∀ i, jumps.next i ≠ 0 → BranchAt code i ∨ LoopEndAt code i
  last_at : ∀ i, jumps.last i ≠ 0 → BranchAt code i

end Jumps

/-! ## Depths -/

variable {code : List Instr} {i j lo hi : Nat}

theorem depth_succ {instr : Instr} (h : code[i]? = some instr) :
    depth code (i + 1) = depth code i + instr.rise := by
  rw [depth, depth, List.take_add_one, h]
  simp

theorem depth_zero (code : List Instr) : depth code 0 = 0 := rfl

theorem level_of_within {shape : BlockShape} (h : code[i]?.bind within? = some shape) :
    level code i = depth code i - 1 := by
  rw [level, h]
  rfl

theorem level_of_not_within (h : code[i]?.bind within? = none) : level code i = depth code i := by
  rw [level, h]
  rfl

theorem within?_of_closes? {instr : Instr} {shape : BlockShape} (h : instr.closes? = some shape) :
    instr.within? = some shape := by
  cases instr with
  | endIf | endLoop | endClause => exact h
  | _ => cases h

theorem rise_of_opens? {instr : Instr} {shape : BlockShape} (h : instr.opens? = some shape) :
    instr.rise = 1 := by
  rw [rise, h]
  rfl

theorem rise_of_closes? {instr : Instr} {shape : BlockShape} (h : instr.closes? = some shape) :
    instr.rise = -1 := by
  cases instr with
  | endIf | endLoop | endClause => rfl
  | _ => cases h

/-- Only one block is the innermost that is open. -/
theorem Instr.Directly.unique {start start' : Nat} (h : Directly code start i)
    (h' : Directly code start' i) : start = start' := by
  have hle := h.depth_eq
  have hle' := h'.depth_eq
  rcases Nat.lt_trichotomy start start' with hlt | heq | hlt
  · have := h.lt_depth start' hlt (Nat.le_of_lt h'.lt)
    omega
  · exact heq
  · have := h'.lt_depth start hlt (Nat.le_of_lt h.lt)
    omega

/-- After the end of a block, as many blocks are open as before its start. -/
theorem Instr.Pairs.depth_after (h : Pairs code i j) : depth code (j + 1) = depth code i := by
  obtain ⟨hdirect, shape, -, hclose⟩ := h
  obtain ⟨instr, hinstr, hclose⟩ := Option.bind_eq_some_iff.1 hclose
  rw [depth_succ hinstr, rise_of_closes? hclose, hdirect.depth_eq]
  omega

theorem lt_length_of_bind {f : Instr → Option BlockShape} {shape : BlockShape}
    (h : code[i]?.bind f = some shape) : i < code.length := by
  obtain ⟨instr, hinstr, -⟩ := Option.bind_eq_some_iff.1 h
  exact (List.getElem?_eq_some_iff.1 hinstr).1

theorem Instr.Pairs.lt_length (h : Pairs code i j) : j < code.length := by
  obtain ⟨_, _, _, hclose⟩ := h
  exact lt_length_of_bind hclose

/-- A block is closed at one place only. -/
theorem Instr.Pairs.unique {j' : Nat} (h : Pairs code i j) (h' : Pairs code i j') : j = j' := by
  have hafter := h.depth_after
  have hafter' := h'.depth_after
  rcases Nat.lt_trichotomy j j' with hlt | heq | hlt
  · have := h'.1.lt_depth (j + 1) (by have := h.1.lt; omega) hlt
    omega
  · exact heq
  · have := h.1.lt_depth (j' + 1) (by have := h'.1.lt; omega) hlt
    omega

/-! ## Stretches of nested code -/

/-- From `lo` to `hi` the code comes back to the depth that it starts from and never falls below,
    its instructions have at least `least` blocks around them, and its blocks are closed in it. -/
structure Stretch (code : List Instr) (least : Int) (lo hi : Nat) : Prop where
  le : lo ≤ hi
  depth_eq : depth code hi = depth code lo
  le_depth : ∀ k, lo ≤ k → k ≤ hi → depth code lo ≤ depth code k
  le_level : ∀ k, lo ≤ k → k < hi → least ≤ level code k
  closed : Closed code lo hi

theorem Instr.Closed.append {mid : Nat} (h : Closed code lo mid) (h' : Closed code mid hi)
    (hle : lo ≤ mid) (hle' : mid ≤ hi) : Closed code lo hi := by
  intro k hlo hhi
  by_cases hk : k < mid
  · obtain ⟨hopen, hclose⟩ := h k hlo hk
    refine ⟨fun ho => ?_, hclose⟩
    obtain ⟨m, hm, hpairs⟩ := hopen ho
    exact ⟨m, Nat.lt_of_lt_of_le hm hle', hpairs⟩
  · obtain ⟨hopen, hclose⟩ := h' k (Nat.not_lt.1 hk) hhi
    refine ⟨hopen, fun hc => ?_⟩
    obtain ⟨m, hm, hpairs⟩ := hclose hc
    exact ⟨m, Nat.le_trans hle hm, hpairs⟩

namespace Stretch

variable {least : Int}

theorem nil (code : List Instr) (least : Int) (lo : Nat) : Stretch code least lo lo where
  le := Nat.le_refl lo
  depth_eq := rfl
  le_depth _ h h' := Int.le_of_eq (congrArg (depth code) (Nat.le_antisymm h h'))
  le_level _ h h' := absurd h (Nat.not_le.2 h')
  closed _ h h' := absurd h (Nat.not_le.2 h')

theorem append {mid : Nat} (h : Stretch code least lo mid) (h' : Stretch code least mid hi) :
    Stretch code least lo hi where
  le := Nat.le_trans h.le h'.le
  depth_eq := h'.depth_eq.trans h.depth_eq
  le_depth k hlo hhi := by
    by_cases hk : k ≤ mid
    · exact h.le_depth k hlo hk
    · rw [← h.depth_eq]
      exact h'.le_depth k (by omega) hhi
  le_level k hlo hhi := by
    by_cases hk : k < mid
    · exact h.le_level k hlo hk
    · exact h'.le_level k (by omega) hhi
  closed := h.closed.append h'.closed h.le h'.le

theorem mono {least' : Int} (h : Stretch code least lo hi) (hle : least' ≤ least) :
    Stretch code least' lo hi :=
  { h with le_level := fun k hlo hhi => Int.le_trans hle (h.le_level k hlo hhi) }

/-- An instruction that neither opens nor closes a block. -/
theorem single {instr : Instr} (hinstr : code[lo]? = some instr) (hopen : instr.opens? = none)
    (hclose : instr.closes? = none) (hleast : least ≤ level code lo) :
    Stretch code least lo (lo + 1) := by
  have hdepth : depth code (lo + 1) = depth code lo := by
    rw [depth_succ hinstr, rise, hopen, hclose]
    exact Int.add_zero _
  refine ⟨Nat.le_succ lo, hdepth, fun k hlo hhi => ?_, fun k hlo hhi => ?_, fun k hlo hhi => ?_⟩
  · rcases Nat.lt_or_eq_of_le hhi with hk | rfl
    · exact Int.le_of_eq (congrArg (depth code) (Nat.le_antisymm hlo (Nat.le_of_lt_succ hk)))
    · exact Int.le_of_eq hdepth.symm
  · rwa [Nat.le_antisymm (Nat.le_of_lt_succ hhi) hlo]
  · rw [Nat.le_antisymm (Nat.le_of_lt_succ hhi) hlo, hinstr, Option.bind_some, Option.bind_some,
      hopen, hclose]
    exact ⟨nofun, nofun⟩

/-- What stands between the start and the end of a block makes the two belong together. -/
theorem pairs {opening closing : Instr} {shape : BlockShape} {last : Nat}
    (h : Stretch code least (lo + 1) last) (hstart : code[lo]? = some opening)
    (hopen : opening.opens? = some shape) (hend : code[last]? = some closing)
    (hclose : closing.closes? = some shape) : Pairs code lo last := by
  have hdepth : depth code (lo + 1) = depth code lo + 1 := by
    rw [depth_succ hstart, rise_of_opens? hopen]
  refine ⟨⟨h.le, h.depth_eq.trans hdepth, fun k hlo hhi => ?_⟩, shape, ?_, ?_⟩
  · have := h.le_depth k hlo hhi
    omega
  · rw [hstart]
    exact hopen
  · rw [hend]
    exact hclose

/-- A block around a stretch of code. -/
theorem enclose {opening closing : Instr} {shape : BlockShape} {last : Nat}
    (h : Stretch code (depth code lo) (lo + 1) last) (hstart : code[lo]? = some opening)
    (hopen : opening.opens? = some shape) (hwithin : opening.within? = none)
    (hend : code[last]? = some closing) (hclose : closing.closes? = some shape) :
    Stretch code (depth code lo) lo (last + 1) := by
  have hpairs := h.pairs hstart hopen hend hclose
  have hbefore : depth code last = depth code lo + 1 := hpairs.1.depth_eq
  have hafter : depth code (last + 1) = depth code lo := by
    rw [depth_succ hend, rise_of_closes? hclose, hbefore]
    omega
  have hlevel : level code lo = depth code lo :=
    level_of_not_within (by rw [hstart]; exact hwithin)
  have hlevel' : level code last = depth code last - 1 :=
    level_of_within (by rw [hend]; exact within?_of_closes? hclose)
  have hle := h.le
  refine ⟨by omega, hafter, fun k hlo hhi => ?_, fun k hlo hhi => ?_, fun k hlo hhi => ?_⟩
  · by_cases hk : lo < k ∧ k ≤ last
    · exact Int.le_of_lt (hpairs.1.lt_depth k hk.1 hk.2)
    · rcases (by omega : k = lo ∨ k = last + 1) with rfl | rfl
      · exact Int.le_refl _
      · exact Int.le_of_eq hafter.symm
  · by_cases hk : lo < k ∧ k < last
    · exact h.le_level k hk.1 hk.2
    · rcases (by omega : k = lo ∨ k = last) with rfl | rfl
      · exact Int.le_of_eq hlevel.symm
      · omega
  · -- The two ends belong to each other, and all else in between keeps its other end.
    by_cases hk : lo < k ∧ k < last
    · obtain ⟨hopens, hcloses⟩ := h.closed k hk.1 hk.2
      refine ⟨fun ho => ?_, fun hc => ?_⟩
      · obtain ⟨m, hm, hpairs⟩ := hopens ho
        exact ⟨m, Nat.lt_succ_of_lt hm, hpairs⟩
      · obtain ⟨m, hm, hpairs⟩ := hcloses hc
        exact ⟨m, Nat.le_of_lt hm, hpairs⟩
    · rcases (by omega : k = lo ∨ k = last) with rfl | rfl
      · refine ⟨fun _ => ⟨last, Nat.lt_succ_self last, hpairs⟩, fun hc => ?_⟩
        obtain ⟨shape', hc⟩ := Option.isSome_iff_exists.1 hc
        rw [hstart, Option.bind_some] at hc
        cases hwithin.symm.trans (within?_of_closes? hc)
      · refine ⟨fun ho => ?_, fun _ => ⟨lo, Nat.le_refl lo, hpairs⟩⟩
        obtain ⟨shape', ho⟩ := Option.isSome_iff_exists.1 ho
        rw [hend, Option.bind_some] at ho
        cases (rise_of_opens? ho).symm.trans (rise_of_closes? hclose)

end Stretch

mutual

theorem stretch_nest :
    (nest : Nest) → {pc : Nat} → CodeAt code pc (codeOf nest) →
      Stretch code (depth code pc) pc (pc + (codeOf nest).length)
  | .literal _, pc, h => by
    have hlevel : level code pc = depth code pc := level_of_not_within (by rw [h.head]; rfl)
    exact .single h.head rfl rfl (Int.le_of_eq hlevel.symm)
  | .bind _, pc, h => by
    have hlevel : level code pc = depth code pc := level_of_not_within (by rw [h.head]; rfl)
    exact .single h.head rfl rfl (Int.le_of_eq hlevel.symm)
  | .cond condition body arms, pc, h => by
    have hbody := stretch_nests body h.tail.left
    have harms := stretch_arms arms h.tail.right.left
    have hdepth : depth code (pc + 1) = depth code pc + 1 := depth_succ h.head
    rw [hbody.depth_eq, hdepth, Int.add_sub_cancel] at harms
    have hinner := (hbody.mono (by omega : depth code pc ≤ depth code (pc + 1))).append harms
    have hlength : pc + (codeOf (.cond condition body arms)).length =
        pc + 1 + (Nest.code body).length + (armCode arms).length + 1 := by
      rw [length_cond]
      omega
    rw [hlength]
    exact hinner.enclose h.head rfl rfl h.tail.right.right.head rfl
  | .loop header body, pc, h => by
    have hbody := stretch_nests body h.tail.left
    have hdepth : depth code (pc + 1) = depth code pc + 1 := depth_succ h.head
    have hlength : pc + (codeOf (.loop header body)).length =
        pc + 1 + (Nest.code body).length + 1 := by
      rw [length_loop]
      omega
    rw [hlength]
    exact (hbody.mono (by omega)).enclose h.head rfl rfl h.tail.right.head rfl
  | .clause kind body closing, pc, h => by
    have hbody := stretch_nests body h.tail.left
    have hdepth : depth code (pc + 1) = depth code pc + 1 := depth_succ h.head
    have hlength : pc + (codeOf (.clause kind body closing)).length =
        pc + 1 + (Nest.code body).length + 1 := by
      rw [length_clause]
      omega
    rw [hlength]
    exact (hbody.mono (by omega)).enclose h.head rfl rfl h.tail.right.head rfl

/-- Nested code has no fewer blocks around its instructions than are open before it. -/
theorem stretch_nests :
    (nests : List Nest) → {pc : Nat} → CodeAt code pc (Nest.code nests) →
      Stretch code (depth code pc) pc (pc + (Nest.code nests).length)
  | [], pc, _ => .nil code _ pc
  | nest :: nests, pc, h => by
    rw [Nest.code] at h
    have hnest := stretch_nest nest h.left
    have hnests := stretch_nests nests h.right
    rw [hnest.depth_eq] at hnests
    rw [length_code_cons, ← Nat.add_assoc]
    exact hnest.append hnests

/-- Further branches belong to a conditional that is open before them. -/
theorem stretch_arms :
    (arms : List Arm) → {pc : Nat} → CodeAt code pc (armCode arms) →
      Stretch code (depth code pc - 1) pc (pc + (armCode arms).length)
  | [], pc, _ => .nil code _ pc
  | .mk condition body :: arms, pc, h => by
    have hwithin : code[pc]?.bind within? = some .cond := by
      rw [h.head]
      cases condition <;> rfl
    have hlevel := level_of_within hwithin
    have hstart : Stretch code (depth code pc - 1) pc (pc + 1) := by
      cases condition with
      | none => exact .single h.head rfl rfl (Int.le_of_eq hlevel.symm)
      | some condition => exact .single h.head rfl rfl (Int.le_of_eq hlevel.symm)
    have hbody := stretch_nests body h.tail.left
    have harms := stretch_arms arms h.tail.right
    rw [hbody.depth_eq, hstart.depth_eq] at harms
    have hdepth := hstart.depth_eq
    have hlength : pc + (armCode (.mk condition body :: arms)).length =
        pc + 1 + (Nest.code body).length + (armCode arms).length := by
      rw [length_armCode_cons]
      omega
    rw [hlength]
    exact (hstart.append (hbody.mono (by omega))).append harms

end

/-! ## The table of nested code -/

variable {jumps : Jumps}

theorem within?_of_opens? {instr : Instr} {shape : BlockShape} (h : instr.opens? = some shape) :
    instr.within? = none := by
  cases instr with
  | beginIf | beginLoop | beginClause => rfl
  | _ => cases h

/-- After a branch comes another one, or the end of the conditional. -/
theorem within_arms {arms : List Arm} {pc : Nat} (h : CodeAt code pc (armCode arms ++ [.endIf])) :
    code[pc]?.bind within? = some .cond := by
  match arms, h with
  | [], h =>
    rw [h.head]
    rfl
  | .mk none _ :: _, h =>
    rw [h.head]
    rfl
  | .mk (some _) _ :: _, h =>
    rw [h.head]
    rfl

/-- The branch at `i` of the conditional from `start` to `last`, with its body up to `next` and the
    other branches after that. -/
theorem Jumps.MatchesBranch.of_stretch {start next last : Nat} (hnext : jumps.next i = next)
    (hlast : jumps.last i = last) (hpairs : Pairs code start last)
    (hopen : code[start]?.bind opens? = some .cond) (hstart : start ≤ i)
    (hlevel : level code i = depth code start)
    (hbody : Stretch code (depth code start + 1) (i + 1) next)
    (hrest : Stretch code (depth code start) next last)
    (hdepth : depth code next = depth code start + 1)
    (hwithin : code[next]?.bind within? = some .cond) : MatchesBranch code jumps i := by
  subst hnext hlast
  have hlevel' : level code start = level code i := by
    obtain ⟨instr, hinstr, hopen⟩ := Option.bind_eq_some_iff.1 hopen
    rw [hlevel, level_of_not_within (by rw [hinstr]; exact within?_of_opens? hopen)]
  exact {
    lt_next := hbody.le
    next_le_last := hrest.le
    last_lt := hpairs.lt_length
    within_next := hwithin
    level_next := by
      rw [level_of_within hwithin, hdepth, hlevel, Int.add_sub_cancel]
    first_next := fun k hlo hhi _ => by
      have := hbody.le_level k hlo hhi
      omega
    pairs_last := ⟨start, hstart, hlevel', hopen, hpairs⟩
    closed_next := hbody.closed
    closed_last := hbody.closed.append hrest.closed hbody.le hrest.le }

/-- The table is right about the instruction at a place, if that starts a branch or a loop. -/
structure SoundAt (code : List Instr) (jumps : Jumps) (i : Nat) : Prop where
  branch : ∀ instr, code[i]? = some instr → instr.startsBranch → jumps.MatchesBranch code i
  loop : code[i]?.bind opens? = some .loop →
    Pairs code i (jumps.next i) ∧ jumps.next (jumps.next i) = i ∧
      Closed code (i + 1) (jumps.next i)

/-- The table is not asked about an instruction that starts neither a branch nor a loop. -/
theorem SoundAt.other {instr : Instr} (h : code[i]? = some instr)
    (hbranch : instr.startsBranch = false) (hloop : instr.opens? ≠ some .loop) :
    SoundAt code jumps i where
  branch instr' h' hbranch' := by
    cases h.symm.trans h'
    cases hbranch.symm.trans hbranch'
  loop hopen := by
    rw [h] at hopen
    exact absurd hopen hloop

mutual

theorem sound_nest :
    (nest : Nest) → {pc : Nat} → CodeAt code pc (codeOf nest) → LinkedOf jumps pc nest →
      ∀ i, pc ≤ i → i < pc + (codeOf nest).length → SoundAt code jumps i
  | .literal _, pc, h, _, i, hlo, hhi => by
    cases Nat.le_antisymm hlo (Nat.le_of_lt_succ hhi)
    exact .other h.head rfl nofun
  | .bind _, pc, h, _, i, hlo, hhi => by
    cases Nat.le_antisymm hlo (Nat.le_of_lt_succ hhi)
    exact .other h.head rfl nofun
  | .cond condition body arms, pc, h, ⟨hnext, hlast, hlinked, hlinked'⟩, i, hlo, hhi => by
    rw [length_cond] at hhi
    have hbody := stretch_nests body h.tail.left
    have harms := stretch_arms arms h.tail.right.left
    have hdepth : depth code (pc + 1) = depth code pc + 1 := depth_succ h.head
    rw [hbody.depth_eq, hdepth, Int.add_sub_cancel] at harms
    have hopen : code[pc]?.bind opens? = some .cond := by
      rw [h.head]
      rfl
    have hpairs : Pairs code pc (pc + 1 + (Nest.code body).length + (armCode arms).length) :=
      ((hbody.mono (by omega : depth code pc ≤ _)).append harms).pairs h.head rfl
        h.tail.right.right.head rfl
    rcases (by omega : i = pc ∨ i = pc + 1 + (Nest.code body).length + (armCode arms).length ∨
      (pc + 1 ≤ i ∧ i < pc + 1 + (Nest.code body).length) ∨
      (pc + 1 + (Nest.code body).length ≤ i ∧
        i < pc + 1 + (Nest.code body).length + (armCode arms).length)) with rfl | rfl | hi | hi
    · refine ⟨fun _ _ _ => ?_, fun hloop => by cases hopen.symm.trans hloop⟩
      exact .of_stretch hnext hlast hpairs hopen (Nat.le_refl _)
        (level_of_not_within (by rw [h.head]; rfl)) (hdepth ▸ hbody) harms
        (hbody.depth_eq.trans hdepth) (within_arms h.tail.right)
    · exact .other h.tail.right.right.head rfl nofun
    · exact sound_nests body h.tail.left hlinked i hi.1 hi.2
    · exact sound_arms arms h.tail.right hlinked' rfl hpairs hopen
        (by omega) (hbody.depth_eq.trans hdepth) i hi.1 hi.2
  | .loop header body, pc, h, ⟨hnext, hback, hlinked⟩, i, hlo, hhi => by
    rw [length_loop] at hhi
    have hbody := stretch_nests body h.tail.left
    rcases (by omega : i = pc ∨ i = pc + 1 + (Nest.code body).length ∨
      (pc + 1 ≤ i ∧ i < pc + 1 + (Nest.code body).length)) with rfl | rfl | hi
    · refine ⟨fun instr hinstr hbranch => ?_, fun _ => ?_⟩
      · cases h.head.symm.trans hinstr
        cases hbranch
      · rw [hnext]
        exact ⟨hbody.pairs h.head rfl h.tail.right.head rfl, hback, hbody.closed⟩
    · exact .other h.tail.right.head rfl nofun
    · exact sound_nests body h.tail.left hlinked i hi.1 hi.2
  | .clause kind body closing, pc, h, ⟨_, hlinked⟩, i, hlo, hhi => by
    rw [length_clause] at hhi
    rcases (by omega : i = pc ∨ i = pc + 1 + (Nest.code body).length ∨
      (pc + 1 ≤ i ∧ i < pc + 1 + (Nest.code body).length)) with rfl | rfl | hi
    · exact .other h.head rfl nofun
    · exact .other h.tail.right.head rfl nofun
    · exact sound_nests body h.tail.left hlinked i hi.1 hi.2

/-- A table that is linked for nested code is right about every place of it. -/
theorem sound_nests :
    (nests : List Nest) → {pc : Nat} → CodeAt code pc (Nest.code nests) → Linked jumps pc nests →
      ∀ i, pc ≤ i → i < pc + (Nest.code nests).length → SoundAt code jumps i
  | [], _, _, _, _, hlo, hhi => absurd hlo (Nat.not_le.2 hhi)
  | nest :: nests, pc, h, ⟨hlinked, hlinked'⟩, i, hlo, hhi => by
    rw [Nest.code] at h
    rw [length_code_cons, ← Nat.add_assoc] at hhi
    by_cases hi : i < pc + (codeOf nest).length
    · exact sound_nest nest h.left hlinked i hlo hi
    · exact sound_nests nests h.right hlinked' i (Nat.not_lt.1 hi) hhi

/-- A table that is linked for the further branches of the conditional from `start` to `last` is
    right about them. -/
theorem sound_arms :
    (arms : List Arm) → {start pc last : Nat} → CodeAt code pc (armCode arms ++ [.endIf]) →
      LinkedArms jumps pc last arms → pc + (armCode arms).length = last → Pairs code start last →
      code[start]?.bind opens? = some .cond → start < pc → depth code pc = depth code start + 1 →
      ∀ i, pc ≤ i → i < last → SoundAt code jumps i
  | [], _, _, _, _, _, hlength, _, _, _, _, _, hlo, hhi => by
    rw [armCode, List.length_nil] at hlength
    omega
  | .mk condition body :: arms, start, pc, last, h, ⟨hnext, hlast, hlinked, hlinked'⟩, hlength,
      hpairs, hopen, hstart, hdepth, i, hlo, hhi => by
    have hwithin := within_arms h
    rw [length_armCode_cons] at hlength
    rw [armCode, List.cons_append, List.append_assoc] at h
    have hbranch : (Arm.start condition).opens? = none ∧ (Arm.start condition).rise = 0 := by
      cases condition with
      | none => exact ⟨rfl, rfl⟩
      | some condition => exact ⟨rfl, rfl⟩
    have hdepth' : depth code (pc + 1) = depth code start + 1 := by
      rw [depth_succ h.head, hbranch.2, hdepth, Int.add_zero]
    have hbody := stretch_nests body h.tail.left
    have harms := stretch_arms arms h.tail.right.left
    have hlength' : pc + 1 + (Nest.code body).length + (armCode arms).length = last := by omega
    rw [hbody.depth_eq, hdepth', Int.add_sub_cancel, hlength'] at harms
    rcases (by omega : i = pc ∨ (pc + 1 ≤ i ∧ i < pc + 1 + (Nest.code body).length) ∨
      (pc + 1 + (Nest.code body).length ≤ i ∧ i < last)) with rfl | hi | hi
    · refine ⟨fun _ _ _ => ?_, fun hloop => ?_⟩
      · exact .of_stretch hnext hlast hpairs hopen (Nat.le_of_lt hstart)
          (by rw [level_of_within hwithin, hdepth, Int.add_sub_cancel]) (hdepth' ▸ hbody) harms
          (hbody.depth_eq.trans hdepth') (within_arms h.tail.right)
      · rw [h.head, Option.bind_some, hbranch.1] at hloop
        cases hloop
    · exact sound_nests body h.tail.left hlinked i hi.1 hi.2
    · exact sound_arms arms h.tail.right hlinked' hlength' hpairs hopen (by omega)
        (hbody.depth_eq.trans hdepth') i hi.1 hi.2

end

/-! ## Where a scan has places -/

/-- A block that is open has places to jump to only for branches and for the ends of loops. -/
def Jumps.Unclosed.Placed (code : List Instr) : Unclosed → Prop
  | cond arm arms => ∀ i ∈ arm :: arms, BranchAt code i
  | loop head => LoopEndAt code head
  | clause _ => True

/-- A scan has places to jump to only for branches and for the ends of loops. -/
structure Jumps.Scan.Placed (code : List Instr) (s : Scan) : Prop where
  next_at : ∀ i, s.jumps.next i ≠ 0 → BranchAt code i ∨ LoopEndAt code i
  last_at : ∀ i, s.jumps.last i ≠ 0 → BranchAt code i
  unclosed : ∀ block ∈ s.unclosed, block.Placed code

namespace Jumps

theorem eq_or_of_next_setNext {pc target : Nat} (h : (jumps.setNext pc target).next i ≠ 0) :
    i = pc ∨ jumps.next i ≠ 0 := by
  rw [next_setNext] at h
  split at h
  · next hpc => exact .inl hpc.1.symm
  · exact .inr h

theorem mem_or_of_last_setLast {target : Nat} {pcs : List Nat}
    (h : (jumps.setLast target pcs).last i ≠ 0) : i ∈ pcs ∨ jumps.last i ≠ 0 := by
  rw [last_setLast] at h
  split at h
  · next hpcs => exact .inl hpcs.1
  · exact .inr h

namespace Scan.Placed

variable {unclosed : List Unclosed} {s s' : Scan}

theorem setNext {pc target : Nat} (h : Placed code ⟨jumps, unclosed⟩)
    (hpc : BranchAt code pc ∨ LoopEndAt code pc) :
    Placed code ⟨jumps.setNext pc target, unclosed⟩ where
  next_at i hi := by
    rcases eq_or_of_next_setNext hi with rfl | hi
    · exact hpc
    · exact h.next_at i hi
  last_at i hi := h.last_at i (by rwa [last_setNext] at hi)
  unclosed := h.unclosed

theorem setLast {target : Nat} {pcs : List Nat} (h : Placed code ⟨jumps, unclosed⟩)
    (hpcs : ∀ i ∈ pcs, BranchAt code i) : Placed code ⟨jumps.setLast target pcs, unclosed⟩ where
  next_at i hi := h.next_at i (by rwa [next_setLast] at hi)
  last_at i hi := (mem_or_of_last_setLast hi).elim (hpcs i) (h.last_at i)
  unclosed := h.unclosed

theorem push {block : Unclosed} (h : Placed code ⟨jumps, unclosed⟩) (hblock : block.Placed code) :
    Placed code ⟨jumps, block :: unclosed⟩ :=
  { h with unclosed := List.forall_mem_cons.2 ⟨hblock, h.unclosed⟩ }

theorem pop {block : Unclosed} (h : Placed code ⟨jumps, block :: unclosed⟩) :
    Placed code ⟨jumps, unclosed⟩ :=
  { h with unclosed := (List.forall_mem_cons.1 h.unclosed).2 }

theorem of_step {instr : Instr} (h : Placed code s) (hinstr : code[i]? = some instr)
    (hstep : s.step i instr = some s') : Placed code s' := by
  obtain ⟨jumps, unclosed⟩ := s
  cases instr with
  | literal | bind =>
    cases hstep
    exact h
  | beginIf =>
    cases hstep
    exact h.push (List.forall_mem_singleton.2 ⟨_, hinstr, rfl⟩)
  | beginLoop =>
    cases hstep
    exact h.push (.inl (by rw [hinstr]; rfl))
  | beginClause =>
    cases hstep
    exact h.push trivial
  | elseIf | otherwise =>
    match unclosed, hstep with
    | .cond arm arms :: outer, rfl =>
      have harms : ∀ i ∈ arm :: arms, BranchAt code i := h.unclosed _ List.mem_cons_self
      refine (h.pop.setNext (.inl (harms arm List.mem_cons_self))).push ?_
      exact List.forall_mem_cons.2 ⟨⟨_, hinstr, rfl⟩, harms⟩
  | endIf =>
    match unclosed, hstep with
    | .cond arm arms :: outer, rfl =>
      have harms : ∀ i ∈ arm :: arms, BranchAt code i := h.unclosed _ List.mem_cons_self
      exact (h.pop.setNext (.inl (harms arm List.mem_cons_self))).setLast harms
  | endLoop =>
    match unclosed, hstep with
    | .loop head :: outer, rfl =>
      have hhead : LoopEndAt code head := h.unclosed _ List.mem_cons_self
      exact (h.pop.setNext (.inr hhead)).setNext (.inr (.inr (by rw [hinstr]; rfl)))
  | endClause =>
    match unclosed, hstep with
    | .clause head :: outer, rfl =>
      exact ⟨fun i hi => h.next_at i (by rwa [next_setClose] at hi),
        fun i hi => h.last_at i (by rwa [last_setClose] at hi), h.pop.unclosed⟩

theorem of_run {instrs : List Instr} (h : Placed code s) (hcode : CodeAt code i instrs)
    (hrun : s.run i instrs = .ok s') : Placed code s' := by
  induction instrs generalizing s i with
  | nil =>
    cases hrun
    exact h
  | cons instr instrs ih =>
    rw [Scan.run] at hrun
    split at hrun
    · next hstep => exact ih (h.of_step hcode.head hstep) hcode.tail hrun
    · cases hrun

end Scan.Placed

/-- A jump table has places to jump to only for branches and for the ends of loops. -/
theorem placed_of_ofCode (h : ofCode code = .ok jumps) : Scan.Placed code ⟨jumps, []⟩ := by
  have hinit (i : Nat) : (code.map fun _ => ({} : Jump))[i]?.getD {} = {} := by
    rw [List.getElem?_map]
    cases code[i]? with
    | none => rfl
    | some instr => rfl
  have hplaced : Scan.Placed code { jumps := code.map fun _ => {} } := by
    refine ⟨fun i hi => absurd ?_ hi, fun i hi => absurd ?_ hi, fun _ hblock => nomatch hblock⟩
    · rw [next, hinit]
    · rw [last, hinit]
  rw [ofCode] at h
  cases hrun : Scan.run { jumps := code.map fun _ => {} } 0 code with
  | error pc =>
    rw [hrun] at h
    cases h
  | ok s =>
    obtain ⟨jumps', unclosed⟩ := s
    have hcode : CodeAt code 0 code := List.prefix_refl _
    have hend := hplaced.of_run hcode hrun
    rw [hrun] at h
    cases unclosed with
    | nil =>
      cases h
      exact hend
    | cons block outer => cases h

end Jumps

/-- In code with a jump table all blocks are closed. -/
theorem closed_of_ofCode (h : Jumps.ofCode code = .ok jumps) : Closed code 0 code.length := by
  obtain ⟨nests, rfl, -⟩ := exists_nests_of_ofCode h
  have hstretch := stretch_nests nests (List.prefix_refl _ : CodeAt (Nest.code nests) 0 _)
  rw [Nat.zero_add] at hstretch
  exact hstretch.closed

/-- A jump table is the matching of its code. -/
theorem matching_of_ofCode (h : Jumps.ofCode code = .ok jumps) : jumps.Matching code := by
  have hclosed := closed_of_ofCode h
  have hplaced := Jumps.placed_of_ofCode h
  obtain ⟨nests, rfl, hlinked⟩ := exists_nests_of_ofCode h
  have hsound := sound_nests nests (List.prefix_refl _ : CodeAt (Nest.code nests) 0 _) hlinked
  rw [Nat.zero_add] at hsound
  refine ⟨fun i instr hinstr => ?_, fun i j hpairs hopen => ?_, fun i hopen => ?_,
    fun j hclose => ?_, hplaced.next_at, hplaced.last_at⟩
  · have hi := (List.getElem?_eq_some_iff.1 hinstr).1
    exact (hsound i (Nat.zero_le i) hi).branch instr hinstr
  · have hi := lt_length_of_bind hopen
    obtain ⟨hpairs', hback, hbetween⟩ := (hsound i (Nat.zero_le i) hi).loop hopen
    cases hpairs'.unique hpairs
    exact ⟨rfl, hback, hbetween⟩
  · have hi := lt_length_of_bind hopen
    obtain ⟨j, -, hpairs⟩ := (hclosed i (Nat.zero_le i) hi).1 (by rw [hopen]; rfl)
    exact ⟨j, hpairs⟩
  · have hj := lt_length_of_bind hclose
    obtain ⟨i, -, hpairs⟩ := (hclosed j (Nat.zero_le j) hj).2 (by rw [hclose]; rfl)
    exact ⟨i, hpairs⟩

/-- Code has a jump table exactly if it is balanced. -/
theorem exists_ofCode_iff_balanced : (∃ jumps, Jumps.ofCode code = .ok jumps) ↔ Balanced code := by
  constructor
  · rintro ⟨jumps, h⟩
    obtain ⟨nests, hcode, -⟩ := exists_nests_of_ofCode h
    exact ⟨nests, hcode⟩
  · rintro ⟨nests, rfl⟩
    obtain ⟨jumps, h, -⟩ := ofCode_code nests
    exact ⟨jumps, h⟩

/-! ## The open blocks of a scan -/

/-- Where an open block starts. -/
def Jumps.Unclosed.start : Unclosed → Nat
  | cond arm arms => arms.getLast?.getD arm
  | loop head => head
  | clause head => head

/-- The open blocks of a scan, the innermost first, are those that are open before `i`. -/
def Tracks (code : List Instr) : Nat → List Jumps.Unclosed → Prop
  | i, [] => depth code i = 0 ∧ ∀ k ≤ i, 0 ≤ depth code k
  | i, block :: outer =>
    Directly code block.start i ∧ code[block.start]?.bind opens? = some block.shape ∧
      Tracks code block.start outer

namespace Tracks

variable {unclosed : List Jumps.Unclosed}

/-- The same blocks are open again at the same depth, if it was not lower in between. -/
theorem extend (h : Tracks code i unclosed) (hij : i ≤ j) (hdepth : depth code j = depth code i)
    (hbetween : ∀ k, i < k → k < j → depth code i ≤ depth code k) : Tracks code j unclosed := by
  have hle : ∀ k, i ≤ k → k ≤ j → depth code i ≤ depth code k := by
    intro k hik hkj
    rcases Nat.lt_or_eq_of_le hik with hlt | rfl
    · rcases Nat.lt_or_eq_of_le hkj with hlt' | rfl
      · exact hbetween k hlt hlt'
      · exact Int.le_of_eq hdepth.symm
    · exact Int.le_refl _
  cases unclosed with
  | nil =>
    refine ⟨hdepth.trans h.1, fun k hk => ?_⟩
    by_cases hki : k ≤ i
    · exact h.2 k hki
    · rw [← h.1]
      exact hle k (by omega) hk
  | cons block outer =>
    obtain ⟨hdirect, hopen, houter⟩ := h
    refine ⟨⟨Nat.lt_of_lt_of_le hdirect.lt hij, hdepth.trans hdirect.depth_eq, fun k hk hkj => ?_⟩,
      hopen, houter⟩
    by_cases hki : k ≤ i
    · exact hdirect.lt_depth k hk hki
    · have := hle k (by omega) hkj
      have := hdirect.depth_eq
      omega

/-- An instruction that neither opens nor closes a block. -/
theorem skip {instr : Instr} (h : Tracks code i unclosed) (hinstr : code[i]? = some instr)
    (hrise : instr.rise = 0) : Tracks code (i + 1) unclosed := by
  have hdepth : depth code (i + 1) = depth code i := by
    rw [depth_succ hinstr, hrise, Int.add_zero]
  exact h.extend (Nat.le_succ i) hdepth fun k hk hk' => by omega

theorem push {instr : Instr} {block : Jumps.Unclosed} (h : Tracks code i unclosed)
    (hinstr : code[i]? = some instr) (hstart : block.start = i)
    (hopen : instr.opens? = some block.shape) : Tracks code (i + 1) (block :: unclosed) := by
  have hdepth : depth code (i + 1) = depth code i + 1 := by
    rw [depth_succ hinstr, rise_of_opens? hopen]
  subst hstart
  refine ⟨⟨Nat.lt_succ_self _, hdepth, fun k hk hk' => ?_⟩, by rw [hinstr]; exact hopen, h⟩
  rw [Nat.le_antisymm hk' hk]
  omega

theorem pop {instr : Instr} {block : Jumps.Unclosed} (h : Tracks code i (block :: unclosed))
    (hinstr : code[i]? = some instr) {shape : BlockShape} (hclose : instr.closes? = some shape) :
    Tracks code (i + 1) unclosed := by
  obtain ⟨hdirect, -, houter⟩ := h
  have hdepth : depth code (i + 1) = depth code block.start := by
    rw [depth_succ hinstr, rise_of_closes? hclose, hdirect.depth_eq]
    omega
  refine houter.extend (Nat.le_succ_of_le (Nat.le_of_lt hdirect.lt)) hdepth fun k hk hk' => ?_
  exact Int.le_of_lt (hdirect.lt_depth k hk (Nat.le_of_lt_succ hk'))

/-- A step of a scan keeps track of the open blocks. -/
theorem of_step {s s' : Jumps.Scan} {instr : Instr} (h : Tracks code i s.unclosed)
    (hinstr : code[i]? = some instr) (hstep : s.step i instr = some s') :
    Tracks code (i + 1) s'.unclosed := by
  obtain ⟨jumps, unclosed⟩ := s
  cases instr with
  | literal | bind =>
    cases hstep
    exact h.skip hinstr rfl
  | beginIf | beginLoop | beginClause =>
    cases hstep
    exact h.push hinstr rfl rfl
  | elseIf | otherwise =>
    match unclosed, hstep with
    | .cond arm arms :: outer, rfl =>
      -- The conditional goes on from where it started.
      have hstart : (Jumps.Unclosed.cond i (arm :: arms)).start =
          (Jumps.Unclosed.cond arm arms).start := by
        rw [Jumps.Unclosed.start, List.getLast?_cons, Option.getD_some, Jumps.Unclosed.start]
      have hskip := h.skip hinstr rfl
      rw [Tracks] at hskip ⊢
      rwa [hstart]
  | endIf =>
    match unclosed, hstep with
    | .cond _ _ :: _, rfl => exact h.pop hinstr rfl
  | endLoop =>
    match unclosed, hstep with
    | .loop _ :: _, rfl => exact h.pop hinstr rfl
  | endClause =>
    match unclosed, hstep with
    | .clause _ :: _, rfl => exact h.pop hinstr rfl

/-- An instruction fits if the innermost open block has the shape that it asks for. -/
theorem fits_iff {instr : Instr} (h : Tracks code i unclosed) (hinstr : code[i]? = some instr) :
    Fits code i ↔ ∀ shape, instr.within? = some shape →
      (unclosed.map Jumps.Unclosed.shape).head? = some shape := by
  rw [Fits, hinstr]
  refine forall₂_congr fun shape hshape => ?_
  cases unclosed with
  | nil =>
    refine ⟨fun ⟨start, hdirect, _⟩ => ?_, nofun⟩
    have := hdirect.depth_eq
    have := h.1
    have := h.2 start (Nat.le_of_lt hdirect.lt)
    omega
  | cons block outer =>
    obtain ⟨hdirect, hopen, -⟩ := h
    constructor
    · rintro ⟨start, hdirect', hopen'⟩
      cases hdirect.unique hdirect'
      exact hopen.symm.trans hopen'
    · intro hhead
      exact ⟨block.start, hdirect, hopen.trans hhead⟩

end Tracks

/-- A scan goes on over an instruction if that fits. -/
theorem step_eq_none_iff {s : Jumps.Scan} {instr : Instr} (h : Tracks code i s.unclosed)
    (hinstr : code[i]? = some instr) : s.step i instr = none ↔ ¬ Fits code i := by
  rw [h.fits_iff hinstr]
  obtain ⟨jumps, unclosed⟩ := s
  cases instr with
  | literal | bind | beginIf | beginLoop | beginClause => simp [Jumps.Scan.step, within?, closes?]
  | elseIf | otherwise | endIf | endLoop | endClause =>
    cases unclosed with
    | nil => simp [Jumps.Scan.step, within?, closes?]
    | cons block outer =>
      cases block <;> simp [Jumps.Scan.step, within?, closes?, Jumps.Unclosed.shape]

/-- A scan stops at the first instruction that does not fit; if there is none, it keeps track of
    the open blocks up to the end. -/
theorem run_fits {instrs : List Instr} {s : Jumps.Scan} (hcode : CodeAt code i instrs)
    (hfits : ∀ k < i, Fits code k) (h : Tracks code i s.unclosed) :
    match s.run i instrs with
    | .error pc => pc < i + instrs.length ∧ (∀ k < pc, Fits code k) ∧ ¬ Fits code pc
    | .ok s' =>
      (∀ k < i + instrs.length, Fits code k) ∧ Tracks code (i + instrs.length) s'.unclosed := by
  induction instrs generalizing s i with
  | nil => exact ⟨hfits, h⟩
  | cons instr instrs ih =>
    rw [Jumps.Scan.run]
    cases hstep : s.step i instr with
    | none =>
      refine ⟨?_, hfits, (step_eq_none_iff h hcode.head).1 hstep⟩
      rw [List.length_cons]
      omega
    | some s' =>
      have hfits' : ∀ k < i + 1, Fits code k := by
        intro k hk
        rcases Nat.lt_or_eq_of_le (Nat.le_of_lt_succ hk) with hlt | rfl
        · exact hfits k hlt
        · refine Classical.byContradiction fun hmisfit => ?_
          cases ((step_eq_none_iff h hcode.head).2 hmisfit).symm.trans hstep
      have hrun := ih hcode.tail hfits' (h.of_step hcode.head hstep)
      rw [Nat.add_right_comm, Nat.add_assoc, ← List.length_cons] at hrun
      exact hrun

/-- The place of the first instruction that does not fit; if all fit and a block is left open, the
    end of the code. -/
def Misfits (code : List Instr) (pc : Nat) : Prop :=
  (∀ k < pc, Fits code k) ∧
    ((pc < code.length ∧ ¬ Fits code pc) ∨
      (pc = code.length ∧ ∃ k, (code[k]?.bind opens?).isSome ∧ ∀ m, ¬ Pairs code k m))

theorem Misfits.unique {pc pc' : Nat} (h : Misfits code pc) (h' : Misfits code pc') : pc = pc' := by
  obtain ⟨hfits, hmisfit⟩ := h
  obtain ⟨hfits', hmisfit'⟩ := h'
  rcases Nat.lt_trichotomy pc pc' with hlt | heq | hlt
  · rcases hmisfit with ⟨-, hmisfit⟩ | ⟨rfl, -⟩
    · exact absurd (hfits' pc hlt) hmisfit
    · omega
  · exact heq
  · rcases hmisfit' with ⟨-, hmisfit'⟩ | ⟨rfl, -⟩
    · exact absurd (hfits pc' hlt) hmisfit'
    · omega

/-- A scan leaves a block open that nothing closes. -/
theorem Tracks.not_pairs {block : Jumps.Unclosed} {outer : List Jumps.Unclosed}
    (h : Tracks code code.length (block :: outer)) (m : Nat) : ¬ Pairs code block.start m := by
  intro hpairs
  have hafter := hpairs.depth_after
  have hdeeper := h.1.lt_depth (m + 1) (Nat.lt_succ_of_lt hpairs.1.lt) hpairs.lt_length
  omega

/-- There is no jump table exactly if there is a first misfit. -/
theorem ofCode_eq_error_iff {pc : Nat} : Jumps.ofCode code = .error pc ↔ Misfits code pc := by
  have htracks : Tracks code 0 [] := ⟨depth_zero code, fun k hk => by
    obtain rfl := Nat.le_zero.1 hk
    exact Int.le_of_eq (depth_zero code).symm⟩
  have hcode : CodeAt code 0 code := List.prefix_refl _
  have hrun := @run_fits _ 0 _ { jumps := code.map fun _ => {} } hcode
    (fun k hk => absurd hk (Nat.not_lt_zero k)) htracks
  rw [Nat.zero_add] at hrun
  have hmisfits : ∀ {place}, Jumps.ofCode code = .error place → Misfits code place →
      (Jumps.ofCode code = .error pc ↔ Misfits code pc) := by
    intro place hplace hmisfits
    rw [hplace]
    exact ⟨fun h => by cases h; exact hmisfits, fun h => by rw [h.unique hmisfits]⟩
  cases hscan : Jumps.Scan.run { jumps := code.map fun _ => {} } 0 code with
  | error place =>
    rw [hscan] at hrun
    obtain ⟨hlt, hfits, hmisfit⟩ := hrun
    exact hmisfits (by rw [Jumps.ofCode, hscan]; rfl) ⟨hfits, .inl ⟨hlt, hmisfit⟩⟩
  | ok s =>
    obtain ⟨jumps, unclosed⟩ := s
    rw [hscan] at hrun
    obtain ⟨hfits, htracks⟩ := hrun
    cases unclosed with
    | cons block outer =>
      have hopen := htracks.2.1
      exact hmisfits (by rw [Jumps.ofCode, hscan]; rfl)
        ⟨hfits, .inr ⟨rfl, block.start, by rw [hopen]; rfl, htracks.not_pairs⟩⟩
    | nil =>
      have hok : Jumps.ofCode code = .ok jumps := by
        rw [Jumps.ofCode, hscan]
        rfl
      rw [hok]
      constructor
      · intro h
        cases h
      · rintro ⟨-, ⟨hlt, hmisfit⟩ | ⟨-, k, hopen, hpairs⟩⟩
        · exact absurd (hfits pc hlt) hmisfit
        · obtain ⟨shape, hshape⟩ := Option.isSome_iff_exists.1 hopen
          have hclosed := closed_of_ofCode hok k (Nat.zero_le k) (lt_length_of_bind hshape)
          obtain ⟨m, -, hpair⟩ := hclosed.1 hopen
          exact absurd hpair (hpairs m)

/-- The jump table of any instructions is their matching: a branch of a conditional is linked to
    the next branch or end with as many blocks around it, and to the end of its own conditional; the
    two ends of a loop are linked to each other; nothing else is linked; and in between all blocks
    are closed. There is a table exactly for balanced code. Otherwise the place of the first
    instruction without a block to belong to is given, or the end of the code if all have one and
    only a block is left open. -/
theorem ofCode_matching (code : List Instr) :
    (∀ jumps, Jumps.ofCode code = .ok jumps → jumps.Matching code) ∧
      ((∃ jumps, Jumps.ofCode code = .ok jumps) ↔ Balanced code) ∧
      ∀ pc, Jumps.ofCode code = .error pc ↔ Misfits code pc :=
  ⟨fun _ => matching_of_ofCode, exists_ofCode_iff_balanced, fun _ => ofCode_eq_error_iff⟩

/-- Two conditionals, one in a branch of the other, and a loop around them. The clause in another
    branch has no place to jump to at either end. -/
theorem ofCode_matching_nested :
    let code : List Instr := [.beginLoop "x in xs", .beginIf "a", .beginIf "b", .endIf,
      .elseIf "c", .beginClause .conditions, .endClause .conditions, .otherwise, .endIf, .endLoop]
    let jumps : Jumps := [⟨9, 0, 0⟩, ⟨4, 8, 0⟩, ⟨3, 3, 0⟩, ⟨0, 0, 0⟩, ⟨7, 8, 0⟩, ⟨0, 0, 6⟩,
      ⟨0, 0, 0⟩, ⟨8, 8, 0⟩, ⟨0, 0, 0⟩, ⟨0, 0, 0⟩]
    Jumps.ofCode code = .ok jumps ∧ jumps.Matching code ∧
      Misfits (code ++ [.beginIf "d", .endLoop]) 11 := by
  intro code jumps
  have hok : Jumps.ofCode code = .ok jumps := rfl
  refine ⟨hok, (ofCode_matching code).1 jumps hok, ?_⟩
  exact ((ofCode_matching (code ++ [.beginIf "d", .endLoop])).2.2 11).1 rfl

end QueryTemplate
