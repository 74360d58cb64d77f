import QueryTemplate.Host.CodeToken
import QueryTemplate.Host.Precedence

/-!
# Host expressions

Expressions of the host language, as far as their operators go: what stands between
brackets is kept as tokens.

* `HostExpr`: the expressions;
* `HostExpr.precedence`: the precedence of an expression's outermost operator.
-/

namespace QueryTemplate

/-- An expression. -/
inductive HostExpr where
  /-- An expression without operators, such as a literal, a path or a group. -/
  | closed (tokens : List CodeToken)
  /-- A call or an index: an expression and the group after it. -/
  | applied (base : HostExpr) (arguments : CodeToken)
  /-- A field, a call of a method, `?` or `await`: an expression and what follows it. -/
  | selected (base : HostExpr) (selector : List CodeToken)
  /-- An operator before its operand. -/
  | unary (operator : List CodeToken) (operand : HostExpr)
  /-- A binary operator between its operands. -/
  | binary (left : HostExpr) (operator : BinaryOp) (right : HostExpr)
  /-- An assignment. -/
  | assign (left right : HostExpr)
  /-- A cast; `bare` says that the type ends in a path without generic arguments. -/
  | cast (operand : HostExpr) (type : List CodeToken) (bare : Bool)
  /-- A range without ends. -/
  | range (dots : CodeToken)
  /-- A range without a start. -/
  | rangeTo (dots : CodeToken) (stop : HostExpr)
  /-- A range without an end. -/
  | rangeFrom (start : HostExpr) (dots : CodeToken)
  /-- A range with both ends. -/
  | rangeBetween (start : HostExpr) (dots : CodeToken) (stop : HostExpr)
  /-- A word such as `return` that no value follows. -/
  | jump (words : List CodeToken)
  /-- A word such as `return` with a value. -/
  | jumpWith (words : List CodeToken) (value : HostExpr)
  /-- A closure: what stands before its body, and the body. -/
  | closure (head : List CodeToken) (body : HostExpr)
  /-- A condition `let` with its pattern up to the equals sign, and the value. -/
  | matching (head : List CodeToken) (value : HostExpr)
  /-- An expression with attributes. -/
  | attributed (attributes : List CodeToken) (expr : HostExpr)

namespace HostExpr

/-- The expression with attributes, if there are any. -/
def withAttributes (attributes : List CodeToken) (e : HostExpr) : HostExpr :=
  if attributes.isEmpty then e else attributed attributes e

/-- Whether the expression is a range: it is no left operand. -/
def isRange : HostExpr → Bool
  | range _ | rangeTo _ _ | rangeFrom _ _ | rangeBetween _ _ _ => true
  | attributed _ e => e.isRange
  | _ => false

/-- Whether the expression is a comparison: it is no left operand of another one. -/
def isComparison : HostExpr → Bool
  | binary _ op _ => op.precedence = .compare
  | attributed _ e => e.isComparison
  | _ => false

/-- Whether the expression is a word such as `return` without a value. -/
def isJump : HostExpr → Bool
  | jump _ => true
  | attributed _ e => e.isJump
  | _ => false

/-- Whether the expression reaches as far to the right as it can. -/
def isOpenEnded : HostExpr → Bool
  | range _ | rangeTo _ _ | jump _ | jumpWith _ _ | closure _ _ | matching _ _ => true
  | attributed _ e => e.isOpenEnded
  | _ => false

/-- Whether the expression is a cast to a type that generic arguments could follow. -/
def isBareCast : HostExpr → Bool
  | cast _ _ bare => bare
  | attributed _ e => e.isBareCast
  | _ => false

/-- The precedence of the operator that an expression consists of. -/
def precedence : HostExpr → Precedence
  | closed _ | applied _ _ | selected _ _ | jump _ => .atom
  | unary _ _ => .unary
  | binary _ op _ => op.precedence
  | assign _ _ => .assign
  | cast _ _ _ => .cast
  | range _ | rangeTo _ _ | rangeFrom _ _ | rangeBetween _ _ _ => .range
  | jumpWith _ _ | closure _ _ => .jump
  | matching _ _ => .matching
  | attributed _ e => if e.isJump || e.precedence ≠ .atom then e.precedence else .unary

end HostExpr

end QueryTemplate
