import QueryTemplate.Host.Expr

/-!
# Writing host expressions

An expression is written with the brackets that it needs to be read again as the
same expression. The precedence of two operators does not always tell: a range, a
jump or a closure goes on as far as it can, and after a cast `<` would begin generic
arguments. So it is asked how a reader would go through an expression in its
surroundings, and whether the operators around it would be left where they are.

* `Surroundings`: what stands around an expression;
* `HostExpr.scanLeft`, `HostExpr.scanRight`: how an expression is read within its
  surroundings;
* `HostExpr.tokens`: an expression as tokens.
-/

namespace QueryTemplate

namespace HostExpr

/-! ### Surroundings -/

/-- What stands around an expression. -/
structure Surroundings where
  /-- The precedence of the operator before it. -/
  before : Precedence := .least
  /-- The precedence of the operator after it. -/
  after : Precedence := .least
  /-- Whether an expression may begin with what follows. -/
  followedByStart : Bool := false
  /-- Whether what follows may go on with an expression. -/
  followedByRest : Bool := false
  /-- Whether generic arguments may begin with what follows. -/
  followedByGenerics : Bool := false

namespace Surroundings

/-- The surroundings of a left operand. -/
def left (s : Surroundings) (after : Precedence) (start generics : Bool) : Surroundings :=
  { s with
    after := after
    followedByStart := start
    followedByRest := true
    followedByGenerics := generics }

/-- The surroundings of the left operand of a binary operator. -/
def leftOf (s : Surroundings) (op : BinaryOp) : Surroundings :=
  s.left op.precedence op.begins op.beginsGenerics

/-- The surroundings of a right operand. -/
def right (s : Surroundings) (before : Precedence) : Surroundings :=
  { s with before := before }

/-- The precedence of an expression in its surroundings. -/
def precedence (s : Surroundings) (e : HostExpr) : Precedence :=
  if s.followedByStart && e.isJump then .jump
  else if !s.followedByRest && e.isOpenEnded then .unary
  else if s.followedByGenerics && e.isBareCast then .least
  else e.precedence

end Surroundings

/-! ### Reading within surroundings -/

/-- What a reader does with the operator after an expression, once it is inside of it. -/
inductive Scan where
  /-- It cannot take the operator, and no expression around it can. -/
  | fail
  /-- It leaves the operator to an expression around it. -/
  | bailout
  /-- It takes the operator for a part of the expression. -/
  | consume
deriving DecidableEq

/-- Whether the operator before an expression leaves it whole. -/
def scanLeft (s : Surroundings) : HostExpr → Bool
  | assign _ _ => s.before ≤ .assign
  | binary _ op _ =>
    if op.precedence = .assign then s.before ≤ .assign else s.before < op.precedence
  | cast _ _ _ => s.before < .cast
  | rangeFrom _ _ | rangeBetween _ _ _ => s.before < .assign
  | attributed _ e => e.scanLeft s
  | _ => true

/-- The precedence of a right operand, given how it is scanned. -/
def rightPrecedence (scan : Surroundings → Precedence → Nat → Nat → Scan) (s : Surroundings)
    (e : HostExpr) : Precedence :=
  let default := s.precedence e
  let loose :=
    match s.before with
    | .assign | .matching | .unary => decide (default < s.before)
    | _ => decide (default ≤ s.before)
  let ends :=
    match s.after with
    | .range | .or | .and => true
    | _ => !s.followedByStart
  if loose && ends && scan s s.before 1 0 ≠ .consume && e.scanLeft s then .unary else default

/-- What the operator alone decides about what follows an operand of `precedence`. -/
def scanByPrecedence (s : Surroundings) (precedence : Precedence) : Scan :=
  let tighter :=
    match precedence with
    | .assign | .compare => decide (precedence ≤ s.after)
    | _ => decide (precedence < s.after)
  if tighter || s.after = .least then .consume else .bailout

/-- What becomes of the operator after an expression that is itself an operand of an
    operator of `precedence`. The offsets say how many operators further out have
    been found to fail or to leave the operator. -/
def scanRight (e : HostExpr) (s : Surroundings) (precedence : Precedence)
    (failOffset bailoutOffset : Nat) : Scan :=
  let byPrecedence := scanByPrecedence s precedence
  let shallow :=
    if s.after = .atom then
      decide (2 ≤ failOffset) && (byPrecedence = .consume || decide (1 ≤ bailoutOffset))
    else decide (1 ≤ bailoutOffset)
  let innerFail := if s.after = .atom then failOffset else 1
  let innerBailout := if byPrecedence = .consume then 1 else 0
  match e with
  | assign _ right =>
    if (if s.after = .atom then decide (2 ≤ failOffset) else decide (1 ≤ bailoutOffset)) then
      .consume
    else if right.scanRight (s.right .assign) .assign innerFail 1 ≠ .fail then .consume
    else if s.after = .atom then .fail
    else .bailout
  | binary _ op right =>
    let inner := s.right op.precedence
    if shallow then .consume
    else if op.precedence = .compare && s.after = .compare then .consume
    else
      match right.scanRight inner op.precedence innerFail innerBailout with
      | .bailout => byPrecedence
      | .consume => .consume
      | .fail =>
        if op.precedence ≠ .assign ∧
            rightPrecedence right.scanRight inner right ≤ op.precedence then byPrecedence
        else if s.after = .atom then .fail
        else .bailout
  | unary _ operand =>
    let inner := s.right .unary
    if shallow then .consume
    else
      match operand.scanRight inner precedence innerFail innerBailout with
      | .bailout => byPrecedence
      | .consume => .consume
      | .fail =>
        if rightPrecedence operand.scanRight inner operand < .unary then byPrecedence
        else if s.after = .atom then .fail
        else .bailout
  | range _ | rangeFrom _ _ => if s.followedByStart then .consume else .fail
  | rangeTo _ stop | rangeBetween _ _ stop =>
    let inner := s.right .range
    if 1 ≤ failOffset then .consume
    else
      let leaves := s.after = .assign || s.after = .range
      match stop.scanRight inner .range failOffset (if leaves then 0 else 1), leaves with
      | .fail, _ | .bailout, true =>
        if rightPrecedence stop.scanRight inner stop ≤ .range then .consume else .fail
      | _, _ => .consume
  | jump _ => if s.after = .assign && decide (.assign < precedence) then .fail else .consume
  | jumpWith _ value =>
    if 1 ≤ bailoutOffset then .consume
    else if value.scanRight (s.right .jump) .jump 1 1 = .fail then .bailout
    else .consume
  | closure _ _ => .consume
  | matching _ value =>
    let inner := s.right .matching
    let outside := decide (s.after < .matching)
    if 1 ≤ bailoutOffset then .consume
    else
      match value.scanRight inner .matching 1 (if outside then 0 else 1) with
      | .consume => .consume
      | scan =>
        if outside then .bailout
        else if rightPrecedence value.scanRight inner value < .matching then .consume
        else if scan = .fail then .bailout
        else .consume
  | attributed _ inner =>
    match inner with
    | assign _ _ | binary _ _ _ | range _ | rangeTo _ _ | rangeFrom _ _ | rangeBetween _ _ _ =>
      byPrecedence
    | inner => inner.scanRight s precedence failOffset bailoutOffset
  | closed _ | applied _ _ | selected _ _ | cast _ _ _ =>
    if precedence = .range && (s.after = .assign || s.after = .range) then .fail
    else if precedence = .matching && decide (s.after < .matching) then .fail
    else byPrecedence

/-- The precedence of a left operand in its surroundings. -/
def leftPrecedence (s : Surroundings) (e : HostExpr) : Precedence :=
  if (!s.followedByStart || s.after = .range) && e.scanRight s .least 0 0 = .bailout &&
      e.scanLeft s then .atom
  else s.precedence e

/-! ### Writing -/

/-- What is written in the given surroundings, or in brackets if these are needed. -/
def grouped (needed : Bool) (write : Surroundings → List CodeToken) (s : Surroundings) :
    List CodeToken :=
  if needed then [.parens (write {})] else write s

/-- An expression as tokens in its surroundings. -/
def write (s : Surroundings) : HostExpr → List CodeToken
  | closed tokens => tokens
  | applied base arguments =>
    let inner := s.left .atom true false
    grouped (base.leftPrecedence inner < .atom) (fun s => base.write s) inner ++ [arguments]
  | selected base selector =>
    let inner := s.left .atom false false
    grouped (base.leftPrecedence inner < .atom) (fun s => base.write s) inner ++ selector
  | unary operator operand =>
    let inner := s.right .unary
    operator ++
      grouped (operand.rightPrecedence operand.scanRight inner < .unary)
        (fun s => operand.write s) inner
  | binary left op right =>
    let leftward := s.leftOf op
    let rightward := s.right op.precedence
    let leftPrecedence := left.leftPrecedence leftward
    let leftNeeded :=
      match op.precedence with
      | .assign => decide (leftPrecedence ≤ .range)
      | .compare => decide (leftPrecedence ≤ .compare)
      | precedence => decide (leftPrecedence < precedence)
    let rightNeeded :=
      op.precedence ≠ .assign &&
        decide (right.rightPrecedence right.scanRight rightward ≤ op.precedence)
    grouped leftNeeded (fun s => left.write s) leftward ++ .word op.text ::
      grouped rightNeeded (fun s => right.write s) rightward
  | assign left right =>
    let leftward := s.left .assign false false
    grouped (left.leftPrecedence leftward ≤ .range) (fun s => left.write s) leftward ++
      .word "=" :: right.write (s.right .assign)
  | cast operand type _ =>
    let inner := s.left .cast false false
    grouped (operand.leftPrecedence inner < .cast) (fun s => operand.write s) inner ++
      .word "as" :: type
  | range dots => [dots]
  | rangeTo dots stop =>
    let rightward := s.right .range
    dots :: grouped (stop.rightPrecedence stop.scanRight rightward ≤ .range)
      (fun s => stop.write s) rightward
  | rangeFrom start dots =>
    let leftward := s.left .range true false
    grouped (start.leftPrecedence leftward ≤ .range) (fun s => start.write s) leftward ++ [dots]
  | rangeBetween start dots stop =>
    let leftward := s.left .range true false
    let rightward := s.right .range
    grouped (start.leftPrecedence leftward ≤ .range) (fun s => start.write s) leftward ++
      dots :: grouped (stop.rightPrecedence stop.scanRight rightward ≤ .range)
        (fun s => stop.write s) rightward
  | jump words => words
  | jumpWith words value => words ++ value.write (s.right .jump)
  | closure head body => head ++ body.write (s.right .jump)
  | matching head value =>
    let rightward := s.right .matching
    head ++ grouped (value.rightPrecedence value.scanRight rightward < .matching)
      (fun s => value.write s) rightward
  | attributed attributes e =>
    let operator :=
      match e with
      | assign _ _ | binary _ _ _ | cast _ _ _ | range _ | rangeTo _ _ | rangeFrom _ _
      | rangeBetween _ _ _ => true
      | _ => false
    attributes ++ grouped operator (fun s => e.write s) s

/-- An expression as tokens. -/
def tokens (e : HostExpr) : List CodeToken :=
  e.write {}

end HostExpr

end QueryTemplate
