import QueryTemplate.Text.Blank
import QueryTemplate.Text.CharClass
import QueryTemplate.Text.Split

/-!
# Loop headers

The headers of loops that bindings understand: `item in path`, `item := range path`
and `index, item := range path`, where a name may be `_` and a path may have
ampersands in front.

* `isIdent`, `isPath`: identifiers, and identifiers joined by dots;
* `LoopHeader.read?`: the parts of a header.
-/

namespace QueryTemplate

/-- Whether the characters are an identifier. -/
def isIdent : List Char → Bool
  | [] => false
  | c :: cs => Text.isAsciiIdentStart c && cs.all Text.isAsciiIdentPart

/-- Whether the characters are identifiers joined by dots. -/
def isPath (cs : List Char) : Bool :=
  (Text.splitChar '.' cs).all isIdent

/-- The parts of a loop header. -/
structure LoopHeader where
  /-- The name of the index, if it is bound. -/
  index : Option String
  /-- The name of the item, if it is bound. -/
  item : Option String
  /-- The path of the list. -/
  path : String
deriving DecidableEq

namespace LoopHeader

/-- The name to bind: none if it is `_` or no identifier. -/
def name? (cs : List Char) : Option String :=
  if cs ≠ ['_'] && isIdent cs then some (.ofList cs) else none

/-- The header that binds an index and an item of the list at a path. -/
def make? (index : Option String) (item path : List Char) : Option LoopHeader :=
  let path := (Text.trimmed path).dropWhile (· == '&')
  if isPath path && isIdent item then
    some { index := index, item := name? item, path := .ofList path }
  else none

/-- The parts of the header `names := range path`. -/
def range? (names range : List Char) : Option LoopHeader := do
  let path ← Text.stripStart "range ".toList (Text.trimmed range)
  match (Text.splitChar ',' names).map Text.trimmed with
  | [item] => make? none item path
  | [index, item] => make? (name? index) item path
  | _ => none

/-- The parts of a loop header. -/
def read? (header : String) : Option LoopHeader :=
  let cs := Text.trimmed header.toList
  match Text.splitOnce ":=".toList cs with
  | some (names, range) => range? names range
  | none => do
    let (item, path) ← Text.splitOnce " in ".toList cs
    make? none (Text.trimmed item) path

end LoopHeader

end QueryTemplate
