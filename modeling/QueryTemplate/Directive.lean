import QueryTemplate.Clause

/-!
# Directives

The text between the braces of a directive opens a block, starts the next branch
of a conditional, or closes a block.

* `Directive`: the directives;
* `Directive.read?`: the directive that a text spells.
-/

namespace QueryTemplate

/-- A directive of a template. -/
inductive Directive where
  /-- Opens a clause. -/
  | clause (kind : ClauseKind)
  /-- Opens a loop. -/
  | loop (header : String)
  /-- Opens a conditional. -/
  | cond (condition : String)
  /-- Starts the next branch of a conditional. -/
  | elseCond (condition : String)
  /-- Starts the last branch of a conditional. -/
  | otherwise
  /-- Closes the innermost block. -/
  | close
deriving DecidableEq

namespace Directive

/-- What follows the keyword that the characters begin with, from the first
    character that is not blank; at least one blank has to come before it. -/
def afterKeyword? (keyword : String) (cs : List Char) : Option (List Char) :=
  match Text.stripStart keyword.toList cs with
  | some (c :: rest) => if Text.isBlank c then some (Text.dropBlanks rest) else none
  | _ => none

/-- The argument after a keyword; it is not empty. -/
def argument? (keyword : String) (cs : List Char) : Option String :=
  match (afterKeyword? keyword cs).map Text.dropBlanksEnd with
  | some (c :: arg) => some (.ofList (c :: arg))
  | _ => none

/-- The directive that opens with a keyword and has an argument. -/
def withArgument? (cs : List Char) : Option Directive :=
  match argument? "for" cs, argument? "if" cs, (afterKeyword? "else" cs).bind (argument? "if") with
  | some header, _, _ => some (loop header)
  | none, some condition, _ => some (cond condition)
  | none, none, some condition => some (elseCond condition)
  | none, none, none => none

/-- The directive that a text spells. -/
def read? (text : String) : Option Directive :=
  if text = "where" then some (clause .conditions)
  else if text = "set" then some (clause .assignments)
  else if text = "else" then some otherwise
  else if text = "end" then some close
  else withArgument? text.toList

end Directive

end QueryTemplate
