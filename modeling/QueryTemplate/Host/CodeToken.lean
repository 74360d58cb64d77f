/-!
# Tokens of code

Code as a sequence of words, operators and groups in brackets, and the one way in
which it is written: a blank between any two tokens, none inside round and square
brackets, and one on either side inside of braces.

* `CodeToken`: the tokens;
* `CodeToken.textOf`: tokens as text.
-/

namespace QueryTemplate

/-- The brackets around a group. -/
inductive Delimiter where
  /-- Round brackets. -/
  | paren
  /-- Square brackets. -/
  | bracket
  /-- Braces. -/
  | brace
deriving DecidableEq

/-- A token of code. -/
inductive CodeToken where
  /-- A name, a literal or an operator. -/
  | word (text : String)
  /-- Tokens in brackets. -/
  | group (delimiter : Delimiter) (body : List CodeToken)

namespace CodeToken

mutual

/-- Decides whether two tokens are the same. -/
def decEq : (token token' : CodeToken) → Decidable (token = token')
  | word text, word text' => decidable_of_iff (text = text') (by rw [word.injEq])
  | word _, group _ _ => isFalse nofun
  | group _ _, word _ => isFalse nofun
  | group delimiter body, group delimiter' body' =>
    have := decEqList body body'
    decidable_of_iff (delimiter = delimiter' ∧ body = body') (by rw [group.injEq])

/-- Decides whether two lists of tokens are the same. -/
def decEqList : (tokens tokens' : List CodeToken) → Decidable (tokens = tokens')
  | [], [] => isTrue rfl
  | [], _ :: _ => isFalse nofun
  | _ :: _, [] => isFalse nofun
  | token :: tokens, token' :: tokens' =>
    have := decEq token token'
    have := decEqList tokens tokens'
    decidable_of_iff (token = token' ∧ tokens = tokens') (by rw [List.cons.injEq])

end

instance : DecidableEq CodeToken := decEq

/-- Tokens in round brackets. -/
def parens (body : List CodeToken) : CodeToken :=
  group .paren body

/-- Tokens in square brackets. -/
def brackets (body : List CodeToken) : CodeToken :=
  group .bracket body

/-- Tokens in braces. -/
def braces (body : List CodeToken) : CodeToken :=
  group .brace body

mutual

/-- A token as text. -/
def text : CodeToken → String
  | word s => s
  | group .paren body => "(" ++ textOf body ++ ")"
  | group .bracket body => "[" ++ textOf body ++ "]"
  | group .brace [] => "\x7b \x7d"
  | group .brace (token :: body) => "\x7b " ++ textOf (token :: body) ++ " \x7d"

/-- Tokens as text. -/
def textOf : List CodeToken → String
  | [] => ""
  | [token] => token.text
  | token :: tokens => token.text ++ " " ++ textOf tokens

end

end CodeToken

end QueryTemplate
