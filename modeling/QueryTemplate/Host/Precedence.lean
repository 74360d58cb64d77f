/-!
# Precedence

The operators of host expressions and how tightly they bind.

* `Precedence`: how tightly operators bind;
* `BinaryOp.all`: the binary operators.
-/

namespace QueryTemplate

/-- How tightly operators bind, from the loosest on. -/
inductive Precedence where
  /-- Closures, and words such as `return` with the value after them. -/
  | jump
  /-- Assignments. -/
  | assign
  /-- Ranges. -/
  | range
  /-- The operator `||`. -/
  | or
  /-- The operator `&&`. -/
  | and
  /-- Conditions with `let`. -/
  | matching
  /-- Comparisons. -/
  | compare
  /-- The operator `|`. -/
  | bitOr
  /-- The operator `^`. -/
  | bitXor
  /-- The operator `&` between operands. -/
  | bitAnd
  /-- Shifts. -/
  | shift
  /-- Sums and differences. -/
  | sum
  /-- Products, quotients and remainders. -/
  | product
  /-- Casts. -/
  | cast
  /-- Operators before their operand. -/
  | unary
  /-- Everything that has no operator at its ends. -/
  | atom
deriving DecidableEq

namespace Precedence

/-- The place of a precedence among all. -/
def rank : Precedence → Nat := Precedence.ctorIdx

instance : LT Precedence := ⟨fun p q => p.rank < q.rank⟩

instance : LE Precedence := ⟨fun p q => p.rank ≤ q.rank⟩

instance (p q : Precedence) : Decidable (p < q) :=
  inferInstanceAs (Decidable (p.rank < q.rank))

instance (p q : Precedence) : Decidable (p ≤ q) :=
  inferInstanceAs (Decidable (p.rank ≤ q.rank))

/-- The loosest precedence, which also stands for no operator at all. -/
def least : Precedence := jump

end Precedence

/-- A binary operator. -/
structure BinaryOp where
  /-- How it is written. -/
  text : String
  /-- How tightly it binds. -/
  precedence : Precedence
deriving DecidableEq

namespace BinaryOp

/-- The binary operators, those with more marks first. -/
def all : List BinaryOp :=
  [⟨"+=", .assign⟩, ⟨"-=", .assign⟩, ⟨"*=", .assign⟩, ⟨"/=", .assign⟩, ⟨"%=", .assign⟩,
    ⟨"^=", .assign⟩, ⟨"&=", .assign⟩, ⟨"|=", .assign⟩, ⟨"<<=", .assign⟩, ⟨">>=", .assign⟩,
    ⟨"&&", .and⟩, ⟨"||", .or⟩, ⟨"<<", .shift⟩, ⟨">>", .shift⟩, ⟨"==", .compare⟩,
    ⟨"<=", .compare⟩, ⟨"!=", .compare⟩, ⟨">=", .compare⟩, ⟨"+", .sum⟩, ⟨"-", .sum⟩,
    ⟨"*", .product⟩, ⟨"/", .product⟩, ⟨"%", .product⟩, ⟨"^", .bitXor⟩, ⟨"&", .bitAnd⟩,
    ⟨"|", .bitOr⟩, ⟨"<", .compare⟩, ⟨">", .compare⟩]

/-- Whether an expression may begin with the operator, too. -/
def begins (op : BinaryOp) : Bool :=
  ["-", "*", "&&", "||", "&", "|", "<<", "<"].contains op.text

/-- Whether generic arguments may begin with the operator, too. -/
def beginsGenerics (op : BinaryOp) : Bool :=
  ["<<", "<"].contains op.text

end BinaryOp

end QueryTemplate
