import QueryTemplate.Clause

/-!
# Syntax errors

What can be wrong with the directives of a template, where it is, and how it is
told.

* `SyntaxError.Cause`: the eight faults, each with a description and an advice;
* `SyntaxError`: a fault at a place of a template;
* `SyntaxError.message`: the fault in words.
-/

namespace QueryTemplate

/-- The kinds of blocks that a directive opens. -/
inductive BlockKind where
  /-- A clause. -/
  | clause (kind : ClauseKind)
  /-- A loop. -/
  | loop
  /-- A conditional. -/
  | cond
deriving DecidableEq

/-- The word that opens a block. -/
def BlockKind.keyword : BlockKind → String
  | clause kind => kind.keyword
  | loop => "for"
  | cond => "if"

/-- The faults of a template. -/
inductive SyntaxError.Cause where
  /-- A directive without its closing braces on the same line. -/
  | unterminatedDirective
  /-- A directive that is none of the known ones. -/
  | unknownDirective
  /-- An `else` whose innermost open block is no conditional. -/
  | elseWithoutIf
  /-- An `else if` whose innermost open block is no conditional. -/
  | elseIfWithoutIf
  /-- A second `else`. -/
  | duplicateElse
  /-- An `else if` after the `else`. -/
  | elseIfAfterElse
  /-- An `end` with no block open. -/
  | unmatchedEnd
  /-- A block still open at the end of the template. -/
  | unclosedBlock
deriving DecidableEq

namespace SyntaxError.Cause

/-- A fault in words. -/
def description : Cause → String
  | unterminatedDirective => "unterminated directive"
  | unknownDirective => "unknown directive"
  | elseWithoutIf => "`else` without an open `if` block"
  | elseIfWithoutIf => "`else if` without an open `if` block"
  | duplicateElse => "multiple `else` in the same `if` block"
  | elseIfAfterElse => "`else if` after `else`"
  | unmatchedEnd => "unmatched `end`"
  | unclosedBlock => "unclosed block at end of template"

/-- How a fault is mended. -/
def suggestion : Cause → String
  | unterminatedDirective => "close the directive with \x7d\x7d on the same line"
  | unknownDirective =>
    "use \x7b\x7bwhere\x7d\x7d, \x7b\x7bset\x7d\x7d, \x7b\x7bfor <expr>\x7d\x7d, " ++
      "\x7b\x7bif <cond>\x7d\x7d, \x7b\x7belse if <cond>\x7d\x7d, \x7b\x7belse\x7d\x7d or " ++
      "\x7b\x7bend\x7d\x7d"
  | elseWithoutIf | elseIfWithoutIf => "open the conditional with \x7b\x7bif <cond>\x7d\x7d first"
  | duplicateElse => "merge the bodies into a single \x7b\x7belse\x7d\x7d"
  | elseIfAfterElse => "move the \x7b\x7belse if\x7d\x7d branch before \x7b\x7belse\x7d\x7d"
  | unmatchedEnd => "remove the extra \x7b\x7bend\x7d\x7d"
  | unclosedBlock => "add \x7b\x7bend\x7d\x7d to close the block"

end SyntaxError.Cause

/-- A fault at a place of a template. -/
structure SyntaxError where
  /-- The fault. -/
  cause : SyntaxError.Cause
  /-- The line of the place, from one. -/
  line : Nat
  /-- The column of the place, in bytes from one. -/
  column : Nat
  /-- The text found there. -/
  found : Option String := none
  /-- The block that the fault is about. -/
  block : Option BlockKind := none
deriving DecidableEq

namespace SyntaxError

/-- A text between the braces of a directive. -/
def braced (text : String) : String :=
  "\x7b\x7b" ++ text ++ "\x7d\x7d"

/-- The fault in words, with what is known of it. -/
def message (e : SyntaxError) : String :=
  match e.cause, e.found, e.block with
  | .unclosedBlock, _, some block =>
    "unclosed `" ++ block.keyword ++ "` block at end of template"
  | .unknownDirective, some found, _ => "unknown directive " ++ braced found
  | .unterminatedDirective, _, _ => "missing \x7d\x7d"
  | cause, _, _ => cause.description

/-- The fault with its line. -/
def text (e : SyntaxError) : String :=
  "line " ++ toString e.line ++ ": " ++ e.message

end SyntaxError

end QueryTemplate
