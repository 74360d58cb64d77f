import Mathlib.Algebra.GroupWithZero.Nat
import QueryTemplate.Program

/-!
# Estimates

The estimate of a program is made with arithmetic that stops at the largest word: the weight of a
loop within loops, the placeholders of a text times their weight, and the sum of what is counted so
far and what is added all stop there. Nothing is lost by that, and nothing gained. What is counted
exactly, and cut down to the largest word in the end, is the same.

* `Node.texts`: the texts of a tree, with the number of loops around each;
* `Capacity.exact`: the placeholders of texts, counted once for each iteration;
* `Capacity.cap_add_cap`, `Capacity.cap_mul`: a limit that is kept in between is kept in the end;
* `Capacity.ofNodes_eq_cap`: the estimate for nodes is the exact one, cut down;
* `Capacity.running_eq_cap`: so is a total that goes from text to text;
* `capacity_eq_min`: the estimate of a program.
-/

namespace QueryTemplate

namespace Node

mutual

/-- The texts at or below a node with `depth` loops around it, each with the number of loops around
    the text, in the order of the template. -/
def textsOf (depth : Nat) : Node → List (Fragment × Nat)
  | text fragment => [(fragment, depth)]
  | clause _ body => texts depth body
  | loop _ body => texts (depth + 1) body
  | cond branches none => branchTexts depth branches
  | cond branches (some body) => branchTexts depth branches ++ texts depth body

/-- The texts among nodes or below them, each with the number of loops around it. -/
def texts (depth : Nat) : List Node → List (Fragment × Nat)
  | [] => []
  | node :: nodes => textsOf depth node ++ texts depth nodes

/-- The texts below branches, each with the number of loops around it. -/
def branchTexts (depth : Nat) : List Branch → List (Fragment × Nat)
  | [] => []
  | .mk _ body :: branches => texts depth body ++ branchTexts depth branches

end

end Node

namespace Capacity

/-- A number cut down to the largest estimate. -/
def cap (n : Nat) : Nat :=
  min n limit

/-- The number of parameters for texts if each loop around them runs `multiplier` times. -/
def exact (multiplier : Nat) (texts : List (Fragment × Nat)) : Nat :=
  (texts.map fun text => text.1.binds.length * multiplier ^ text.2).sum

/-- How often a placeholder counts that has `depth` loops around it. -/
def weight (multiplier : Nat) : (depth : Nat) → Nat
  | 0 => 1
  | depth + 1 => mul (weight multiplier depth) multiplier

/-- A total with the placeholders of one more text. -/
def count (multiplier total : Nat) (text : Fragment × Nat) : Nat :=
  add total (mul text.1.binds.length (weight multiplier text.2))

/-- The estimate for texts, as a total that goes from text to text. -/
def running (multiplier : Nat) (texts : List (Fragment × Nat)) : Nat :=
  texts.foldl (count multiplier) 0

/-! ## Limits kept in between -/

theorem cap_add_cap (a b : Nat) : add (cap a) (cap b) = cap (a + b) := by
  simp only [add, cap]
  omega

/-- A product with a factor that is cut down: if it falls below the limit, the other factor is
    zero or nothing was cut. -/
theorem cap_mul (a b : Nat) : mul (cap a) b = cap (a * b) := by
  simp only [mul, cap]
  rcases Nat.le_total a limit with ha | ha
  · rw [Nat.min_eq_left ha]
  · rcases Nat.eq_zero_or_pos b with rfl | hb
    · simp
    · rw [Nat.min_eq_right ha, Nat.min_eq_right (Nat.le_mul_of_pos_right limit hb),
        Nat.min_eq_right (Nat.le_trans ha (Nat.le_mul_of_pos_right a hb))]

theorem mul_cap (a b : Nat) : mul a (cap b) = cap (a * b) := by
  rw [mul, Nat.mul_comm, ← mul, cap_mul, Nat.mul_comm]

theorem exact_append (multiplier : Nat) (texts more : List (Fragment × Nat)) :
    exact multiplier (texts ++ more) = exact multiplier texts + exact multiplier more := by
  simp [exact]

theorem exact_cons (multiplier : Nat) (text : Fragment × Nat) (texts : List (Fragment × Nat)) :
    exact multiplier (text :: texts) =
      text.1.binds.length * multiplier ^ text.2 + exact multiplier texts := by
  simp [exact]

/-! ## Estimates of trees -/

variable (multiplier : Nat)

mutual

theorem ofNode_eq_cap :
    (depth : Nat) → (node : Node) →
      ofNode multiplier (cap (multiplier ^ depth)) node =
        cap (exact multiplier (Node.textsOf depth node))
  | depth, .text fragment => by
    rw [ofNode, Node.textsOf, mul_cap, exact_cons]
    rfl
  | depth, .clause _ body => by
    rw [ofNode, Node.textsOf, ofNodes_eq_cap depth body]
  | depth, .loop _ body => by
    rw [ofNode, Node.textsOf, cap_mul, ← Nat.pow_succ, ofNodes_eq_cap (depth + 1) body]
  | depth, .cond branches none => by
    rw [ofNode, Node.textsOf, ofBranches_eq_cap depth branches]
  | depth, .cond branches (some body) => by
    rw [ofNode, Node.textsOf, ofBranches_eq_cap depth branches, ofNodes_eq_cap depth body,
      cap_add_cap, exact_append]

/-- The estimate for nodes with `depth` loops around them is the exact one, cut down. -/
theorem ofNodes_eq_cap :
    (depth : Nat) → (nodes : List Node) →
      ofNodes multiplier (cap (multiplier ^ depth)) nodes =
        cap (exact multiplier (Node.texts depth nodes))
  | _, [] => rfl
  | depth, node :: nodes => by
    rw [ofNodes, Node.texts, ofNode_eq_cap depth node, ofNodes_eq_cap depth nodes, cap_add_cap,
      exact_append]

theorem ofBranches_eq_cap :
    (depth : Nat) → (branches : List Branch) →
      ofBranches multiplier (cap (multiplier ^ depth)) branches =
        cap (exact multiplier (Node.branchTexts depth branches))
  | _, [] => rfl
  | depth, .mk _ body :: branches => by
    rw [ofBranches, Node.branchTexts, ofNodes_eq_cap depth body, ofBranches_eq_cap depth branches,
      cap_add_cap, exact_append]

end

/-! ## Running totals -/

theorem weight_eq_cap (depth : Nat) : weight multiplier depth = cap (multiplier ^ depth) := by
  induction depth with
  | zero => rfl
  | succ depth ih => rw [weight, ih, cap_mul, Nat.pow_succ]

theorem count_cap (start : Nat) (text : Fragment × Nat) :
    count multiplier (cap start) text =
      cap (start + text.1.binds.length * multiplier ^ text.2) := by
  rw [count, weight_eq_cap, mul_cap, cap_add_cap]

/-- A total that goes from text to text is the exact number, cut down, wherever it starts. -/
theorem foldl_count_cap (texts : List (Fragment × Nat)) (start : Nat) :
    texts.foldl (count multiplier) (cap start) = cap (start + exact multiplier texts) := by
  induction texts generalizing start with
  | nil => rfl
  | cons text texts ih => rw [List.foldl_cons, count_cap, ih, exact_cons, Nat.add_assoc]

theorem running_eq_cap (texts : List (Fragment × Nat)) :
    running multiplier texts = cap (exact multiplier texts) := by
  have hfold := foldl_count_cap multiplier texts 0
  rwa [Nat.zero_add] at hfold

end Capacity

/-- The estimate of the program of a tree is the number of its placeholders, each counted once for
    every run of the loops around it, cut down to the largest word. To stop at the largest word in
    each step, with the weights of nested loops, with the products and with a total that goes from
    text to text, comes to the same. -/
theorem capacity_eq_min (multiplier : Nat) (nodes : List Node) :
    let m := max multiplier 1
    let capacity := (Program.ofNodes multiplier nodes).capacity
    capacity = min (2 ^ 64 - 1)
        ((Node.texts 0 nodes).map fun text => text.1.binds.length * m ^ text.2).sum ∧
      capacity = Capacity.running m (Node.texts 0 nodes) := by
  intro m capacity
  have hcapacity : capacity = Capacity.cap (Capacity.exact m (Node.texts 0 nodes)) :=
    Capacity.ofNodes_eq_cap m 0 nodes
  exact ⟨hcapacity.trans (Nat.min_comm ..), hcapacity.trans (Capacity.running_eq_cap m _).symm⟩

/-- Two loops that are taken to run too often for a word. -/
example : (Program.ofNodes (2 ^ 40) [.loop "x in xs" [.loop "y in x"
    [.text ⟨"?", [.value "y"], 1⟩]], .text ⟨"?", [.table], 1⟩]).capacity = 2 ^ 64 - 1 := by
  decide

end QueryTemplate
