/-!
# Cutting texts

How a list of characters is cut at a separator, or freed of a known start or end.

* `splitOnce`: what stands before and after the first place where a separator
  occurs;
* `splitChar`: the pieces between all occurrences of a character;
* `lines`: the lines of a text, without their ends.
-/

namespace QueryTemplate.Text

/-- What follows `start` in the characters, if they begin with it. -/
def stripStart : (start cs : List Char) → Option (List Char)
  | [], cs => some cs
  | _ :: _, [] => none
  | s :: start, c :: cs => if s = c then stripStart start cs else none

/-- What comes before `stop` in the characters, if they end with it. -/
def stripEnd (stop cs : List Char) : Option (List Char) :=
  (stripStart stop.reverse cs.reverse).map List.reverse

/-- What stands before and after the first occurrence of `sep`. -/
def splitOnce (sep : List Char) : List Char → Option (List Char × List Char)
  | [] => if sep.isEmpty then some ([], []) else none
  | c :: cs =>
    match stripStart sep (c :: cs) with
    | some rest => some ([], rest)
    | none => (splitOnce sep cs).map fun (before, rest) => (c :: before, rest)

/-- Whether `sub` occurs in the characters. -/
def occurs (sub cs : List Char) : Bool :=
  (splitOnce sub cs).isSome

/-- The pieces between the occurrences of `sep`: one more than there are of them. -/
def splitChar (sep : Char) : List Char → List (List Char)
  | [] => [[]]
  | c :: cs =>
    if c = sep then [] :: splitChar sep cs
    else
      match splitChar sep cs with
      | [] => [[c]]
      | piece :: pieces => (c :: piece) :: pieces

/-- The lines of a text: the pieces between line feeds, without an empty last one. -/
def lines (cs : List Char) : List (List Char) :=
  let pieces := splitChar '\n' cs
  if pieces.getLast? = some [] then pieces.dropLast else pieces

/-- The characters without the ones equal to `c` at their end. -/
def dropEnd (c : Char) (cs : List Char) : List Char :=
  (cs.reverse.dropWhile (· == c)).reverse

/-- Stripping a nonempty start leaves fewer characters. -/
theorem length_of_stripStart {start cs rest : List Char} (h : stripStart start cs = some rest) :
    rest.length + start.length = cs.length := by
  induction start generalizing cs with
  | nil => simp_all [stripStart]
  | cons s start ih =>
    cases cs with
    | nil => simp [stripStart] at h
    | cons c cs =>
      simp only [stripStart] at h
      split at h
      · have := ih h
        simp only [List.length_cons]
        omega
      · simp at h

/-- A text cut at a separator loses the length of the separator. -/
theorem length_of_splitOnce {sep cs before rest : List Char}
    (h : splitOnce sep cs = some (before, rest)) :
    before.length + sep.length + rest.length = cs.length := by
  induction cs generalizing before with
  | nil =>
    simp only [splitOnce] at h
    split at h
    · simp_all
    · simp at h
  | cons c cs ih =>
    simp only [splitOnce] at h
    split at h
    · next hs =>
      have := length_of_stripStart hs
      simp only [Option.some.injEq, Prod.mk.injEq] at h
      obtain ⟨rfl, rfl⟩ := h
      simp only [List.length_nil, List.length_cons] at this ⊢
      omega
    · obtain ⟨⟨before', rest'⟩, hcs, heq⟩ := Option.map_eq_some_iff.1 h
      simp only [Prod.mk.injEq] at heq
      obtain ⟨rfl, rfl⟩ := heq
      have := ih hcs
      simp only [List.length_cons]
      omega

end QueryTemplate.Text
