import QueryTemplate.SyntaxError

/-!
# Tokens

A template is a sequence of literal texts and directives, line by line. A
directive stands between `{{` and `}}` on one line.

* `Token`: a literal text or a directive, with its place;
* `Token.ofLine`: the tokens of one line;
* `Token.ofTemplate`: the tokens of a template.
-/

namespace QueryTemplate

/-- The kinds of tokens. -/
inductive TokenKind where
  /-- Text outside of the braces. -/
  | literal
  /-- Text between the braces. -/
  | directive
deriving DecidableEq

/-- A token with its place. -/
structure Token where
  /-- Its kind. -/
  kind : TokenKind
  /-- Its text; that of a directive has no blanks at its ends. -/
  text : String
  /-- Its line, from one. -/
  line : Nat
  /-- Its column, in bytes from one. -/
  column : Nat
  /-- Whether it is the literal text that a line other than the first begins with. -/
  lineStart : Bool
deriving DecidableEq

namespace Token

/-- The number of bytes of the characters in UTF-8. -/
def byteLength (cs : List Char) : Nat :=
  cs.foldr (fun c n => c.utf8Size + n) 0

/-- What opens a directive. -/
def opening : List Char := ['\x7b', '\x7b']

/-- What closes a directive. -/
def closing : List Char := ['\x7d', '\x7d']

/-- The tokens of what is left of a line from the byte `pos` on. `first` says that
    no token of the line has been read yet. A literal text is left out where it is
    empty, except at the end of the line and at the start of a line other than the
    first. -/
def ofLine (line pos : Nat) (first : Bool) (cs : List Char) : Except SyntaxError (List Token) :=
  let lineStart := first && 1 < line
  match h : Text.splitOnce opening cs with
  | none => .ok [⟨.literal, .ofList cs, line, pos + 1, lineStart⟩]
  | some (before, rest) =>
    let start := pos + byteLength before
    let literal : List Token :=
      if before.isEmpty && !lineStart then []
      else [⟨.literal, .ofList before, line, pos + 1, lineStart⟩]
    match h' : Text.splitOnce closing rest with
    | none =>
      .error
        { cause := .unterminatedDirective
          line := line
          column := start + 1
          found := some (.ofList (Text.trimmed (opening ++ rest))) }
    | some (inside, after) =>
      have : after.length < cs.length := by
        have h₁ := Text.length_of_splitOnce h
        have h₂ := Text.length_of_splitOnce h'
        simp only [opening, closing, List.length_cons, List.length_nil] at h₁ h₂
        omega
      let directive : Token := ⟨.directive, .ofList (Text.trimmed inside), line, start + 1, false⟩
      (ofLine line (start + byteLength inside + 4) false after).map fun tokens =>
        literal ++ directive :: tokens
termination_by cs.length

/-- A line without one carriage return at its end. -/
def dropReturn (cs : List Char) : List Char :=
  (Text.stripEnd ['\r'] cs).getD cs

/-- The tokens of lines, the first of which has the number `line`. -/
def ofLines (line : Nat) : List (List Char) → Except SyntaxError (List Token)
  | [] => .ok []
  | cs :: rest => do
    let tokens ← ofLine line 0 true (dropReturn cs)
    let more ← ofLines (line + 1) rest
    return tokens ++ more

/-- The tokens of a template. -/
def ofTemplate (template : String) : Except SyntaxError (List Token) :=
  ofLines 1 (Text.splitChar '\n' template.toList)

end Token

end QueryTemplate
