import QueryTemplate.LoopHeader
import QueryTemplate.Render

/-!
# Bindings

Named values that a template is rendered with. Each loop being run has a scope of
its own for its index and item, in front of the scopes around it.

* `Bindings.lookup`: the value at a path, from the innermost scope that has its
  root;
* `Bindings.scope`: the bindings as a scope to render against;
* `Bindings.describe`: the bindings for inspection.
-/

namespace QueryTemplate

/-- A condition that is decided from the values at paths. -/
abbrev Predicate := (String → Option Value) → Bool

/-- The named things with `value` under `name`, in the place of what was there. -/
def putNamed {α : Type} (name : String) (value : α) (named : List (String × α)) :
    List (String × α) :=
  (name, value) :: named.filter (·.1 != name)

/-- A loop being run. -/
structure ActiveLoop where
  /-- Its header. -/
  header : LoopHeader
  /-- The items that it runs over. -/
  items : List Value

/-- Named values, conditions and loops being run. -/
structure Bindings where
  /-- The scopes with their named values, the innermost first. -/
  scopes : List (List (String × Value)) := []
  /-- The conditions that are decided by a predicate, under their texts. -/
  predicates : List (String × Predicate) := []
  /-- The loops being run, the innermost first. -/
  loops : List ActiveLoop := []

namespace Bindings

/-- Bindings with one scope and nothing in it. -/
def empty : Bindings :=
  { scopes := [[]] }

/-- The bindings with a value under a name in the outermost scope. -/
def insert (b : Bindings) (name : String) (value : Value) : Bindings :=
  { b with
    scopes := b.scopes.dropLast ++ [putNamed name value (b.scopes.getLast?.getD [])] }

/-- The bindings with a predicate for a condition. -/
def decideBy (b : Bindings) (condition : String) (predicate : Predicate) : Bindings :=
  { b with predicates := putNamed condition predicate b.predicates }

/-- The value of the innermost scope that has the name. -/
def root? (b : Bindings) (name : String) : Option Value :=
  b.scopes.findSome? (·.lookup name)

/-- The value at a path: a name and the names of nested fields, joined by dots. -/
def lookup (b : Bindings) (path : String) : Option Value :=
  match (Text.splitChar '.' (Text.trimmed path.toList)).map String.ofList with
  | [] => none
  | name :: fields => fields.foldl (fun value field => value.bind (·.field? field)) (b.root? name)

/-- The value at a path, which has to be there. -/
def require (b : Bindings) (path : String) : Except RenderError Value :=
  match b.lookup path with
  | some value => .ok value
  | none => .error (.unknownVariable (Text.trim path))

/-- Whether a condition holds: what its predicate says, or else whether the value
    at a path is truthy, or is not after `!`. -/
def condition (b : Bindings) (text : String) : Except RenderError Bool :=
  match b.predicates.lookup text with
  | some predicate => .ok (predicate b.lookup)
  | none =>
    let cs := Text.trimmed text.toList
    let (negated, path) :=
      match cs with
      | '!' :: rest => (true, Text.trimmed rest)
      | _ => (false, cs)
    if isPath path then (b.require (.ofList path)).map fun value => value.isTruthy != negated
    else .error (.unsupportedCondition (.ofList cs))

/-- The items that a loop runs over. -/
def items (b : Bindings) (path : String) : Except RenderError (List Value) := do
  match ← b.require path with
  | .list items => .ok items
  | .null => .ok []
  | _ => .error (.notIterable path)

/-- The bindings within a loop, and how often it runs. -/
def enterLoop (b : Bindings) (header : String) : Except RenderError (Nat × Bindings) :=
  match LoopHeader.read? header with
  | none => .error (.unsupportedLoopHeader header)
  | some parts => do
    let items ← b.items parts.path
    return (items.length, { b with scopes := [] :: b.scopes, loops := ⟨parts, items⟩ :: b.loops })

/-- The named values of an iteration of a loop. -/
def ActiveLoop.vars (active : ActiveLoop) (index : Nat) : List (String × Value) :=
  let vars := (active.header.index.map fun name => (name, Value.int (.ofNat index))).toList
  match active.header.item with
  | some name => putNamed name (active.items[index]?.getD .null) vars
  | none => vars

/-- The bindings in an iteration of the innermost loop. -/
def iteration (b : Bindings) (header : String) (index : Nat) : Except RenderError Bindings :=
  match b.loops, b.scopes with
  | active :: _, _ :: outer => .ok { b with scopes := ActiveLoop.vars active index :: outer }
  | _, _ => .error (.unsupportedLoopHeader header)

/-- The bindings after the innermost loop. -/
def exitLoop (b : Bindings) : Bindings :=
  match b.loops with
  | [] => b
  | _ :: outer => { b with loops := outer, scopes := b.scopes.tail }

/-- An answer that leaves the bindings as they are. -/
def answer {α : Type} (f : Bindings → Except RenderError α) : Rendering Bindings α := do
  match f (← get) with
  | .ok a => return a
  | .error e => throw e

/-- The bindings as a scope to render against. -/
def scope : Scope Bindings where
  condition text := answer (·.condition text)
  enterLoop header := do
    let (count, inner) ← answer (·.enterLoop header)
    set inner
    return count
  iteration header index := do
    set (← answer (·.iteration header index))
  exitLoop _ b := b.exitLoop
  value expr := answer (·.require expr)

/-- The named values of a scope. -/
def describeScope (vars : List (String × Value)) : String :=
  "\x7b" ++ ", ".intercalate (Value.describeFields vars) ++ "\x7d"

/-- The bindings for inspection: the scopes, from the outermost on, and the
    conditions that are decided by a predicate. -/
def describe (b : Bindings) : String :=
  "Bindings \x7b scopes: [" ++ ", ".intercalate (b.scopes.reverse.map describeScope) ++
    "], predicates: [" ++ ", ".intercalate (b.predicates.map fun p => Text.quoted p.1) ++
    "], .. \x7d"

end Bindings

end QueryTemplate
