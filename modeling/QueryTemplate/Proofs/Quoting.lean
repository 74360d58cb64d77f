import QueryTemplate.Target.GoSource

/-!
# String literals read back

An interpreted string literal of Go stands for the bytes that its elements stand for: a character
for its bytes in UTF-8, and an escape sequence for a character or for a single byte. An element is
known by its first two characters, and has as many as its form says, so that a literal can be cut
into its elements in one way only.

A text that is written as a literal is written character by character, each as one element, which
stands for the bytes of this character. So what is read from a literal is the text it was written
for.

* `GoLiteral.Element`: the elements of a literal, with their spelling and their bytes;
* `GoLiteral.elements?`: the elements that characters are cut into;
* `GoLiteral.decode`: the bytes that the characters of a literal stand for;
* `GoLiteral.elements?_escaped`: what is written for a text is cut into the elements of its
  characters;
* `goQuoted_decode`: a text written as a literal is read back.
-/

namespace QueryTemplate

namespace GoLiteral

/-- The value of a hexadecimal digit, in either case. -/
def hexValue? (c : Char) : Option Nat :=
  if '0' ≤ c ∧ c ≤ '9' then some (c.toNat - '0'.toNat)
  else if 'a' ≤ c ∧ c ≤ 'f' then some (c.toNat - 'a'.toNat + 10)
  else if 'A' ≤ c ∧ c ≤ 'F' then some (c.toNat - 'A'.toNat + 10)
  else none

/-- The number that hexadecimal digits make up. -/
def hexNumber? (digits : List Char) : Option Nat :=
  digits.foldlM (fun n c => (hexValue? c).map (16 * n + ·)) 0

/-- An element between the quotes of a literal. -/
inductive Element where
  /-- A character that stands for itself. -/
  | char (c : Char)
  /-- A backslash with a character that names another one. -/
  | named (c : Char)
  /-- A byte with its two digits. -/
  | byte (high low : Char)
  /-- A character with the four digits of its number. -/
  | point (first second third fourth : Char)

namespace Element

/-- The characters of an element. -/
def spelling : Element → List Char
  | char c => [c]
  | named c => ['\\', c]
  | byte high low => ['\\', 'x', high, low]
  | point first second third fourth => ['\\', 'u', first, second, third, fourth]

/-- The bytes that an element stands for, if it is one of a literal. -/
def bytes? : Element → Option (List UInt8)
  | char c => if c = '"' ∨ c = '\\' ∨ c = '\n' then none else some (String.utf8EncodeChar c)
  | named '"' => some (String.utf8EncodeChar '"')
  | named '\\' => some (String.utf8EncodeChar '\\')
  | named 'n' => some (String.utf8EncodeChar '\n')
  | named 'r' => some (String.utf8EncodeChar '\r')
  | named 't' => some (String.utf8EncodeChar '\t')
  | named _ => none
  | byte high low => (hexNumber? [high, low]).map fun n => [UInt8.ofNat n]
  | point first second third fourth => do
    let n ← hexNumber? [first, second, third, fourth]
    if n.isValidChar then some (String.utf8EncodeChar (Char.ofNat n)) else none

end Element

/-- The elements that characters are cut into: none if they end within one. -/
def elements? : List Char → Option (List Element)
  | [] => some []
  | '\\' :: 'x' :: high :: low :: cs => (elements? cs).map (.byte high low :: ·)
  | '\\' :: 'u' :: first :: second :: third :: fourth :: cs =>
    (elements? cs).map (.point first second third fourth :: ·)
  | '\\' :: c :: cs => if c = 'x' ∨ c = 'u' then none else (elements? cs).map (.named c :: ·)
  | c :: cs => if c = '\\' then none else (elements? cs).map (.char c :: ·)

/-- The bytes that the characters between the quotes of a literal stand for. -/
def decode (cs : List Char) : Option ByteArray := do
  let elements ← elements? cs
  let bytes ← elements.mapM Element.bytes?
  return bytes.flatten.toByteArray

/-! ## Digits -/

theorem hexValue?_digitChar : ∀ n < 16, hexValue? n.digitChar = some n := by
  decide

theorem hexNumber?_pair {n : Nat} (h : n < 256) :
    hexNumber? [(n / 16).digitChar, (n % 16).digitChar] = some n := by
  have hhigh := hexValue?_digitChar (n / 16) (by omega)
  have hlow := hexValue?_digitChar (n % 16) (by omega)
  simp [hexNumber?, hhigh, hlow, Nat.div_add_mod]

theorem hexPadded_two {n : Nat} (h : n < 256) :
    hexPadded 2 n = [(n / 16).digitChar, (n % 16).digitChar] := by
  rw [hexPadded, Text.hexDigits]
  by_cases hn : n < 16
  · rw [Nat.toDigits_of_lt_base hn, Nat.div_eq_of_lt hn, Nat.mod_eq_of_lt hn]
    rfl
  · rw [Nat.toDigits_of_base_le (by decide) (by omega), Nat.toDigits_of_lt_base (by omega)]
    rfl

theorem hexPadded_four {n : Nat} (h : 16 ≤ n) (h' : n < 256) :
    hexPadded 4 n = ['0', '0', (n / 16).digitChar, (n % 16).digitChar] := by
  rw [hexPadded, Text.hexDigits, Nat.toDigits_of_base_le (by decide) h,
    Nat.toDigits_of_lt_base (by omega)]
  rfl

/-! ## The elements of characters -/

namespace Element

/-- The element that a character is written as. -/
def ofChar (c : Char) : Element :=
  match c with
  | '"' => named '"'
  | '\\' => named '\\'
  | '\n' => named 'n'
  | '\r' => named 'r'
  | '\t' => named 't'
  | c =>
    if !Text.isControl c then char c
    else if c.toNat < 0x80 then byte (c.toNat / 16).digitChar (c.toNat % 16).digitChar
    else point '0' '0' (c.toNat / 16).digitChar (c.toNat % 16).digitChar

theorem lt_of_isControl {c : Char} (h : Text.isControl c) : c.toNat < 256 := by
  simp only [Text.isControl, Bool.or_eq_true, Bool.and_eq_true, decide_eq_true_eq] at h
  omega

theorem spelling_ofChar (c : Char) : (ofChar c).spelling = goEscaped c := by
  fun_cases ofChar c with
  | case1 | case2 | case3 | case4 | case5 => rfl
  | case6 c hquote hback hline hreturn htab hcontrol => simp [goEscaped, spelling, hcontrol]
  | case7 c hquote hback hline hreturn htab hcontrol hlt =>
    simp [goEscaped, spelling, hcontrol, hlt, hexPadded_two (show c.toNat < 256 by omega)]
  | case8 c hquote hback hline hreturn htab hcontrol hge =>
    have hlt := lt_of_isControl (c := c) (by simpa using hcontrol)
    simp [goEscaped, spelling, hcontrol, hge, hexPadded_four (show 16 ≤ c.toNat by omega) hlt]

/-- The element of a character stands for the bytes of the character. -/
theorem bytes?_ofChar (c : Char) : (ofChar c).bytes? = some (String.utf8EncodeChar c) := by
  fun_cases ofChar c with
  | case1 | case2 | case3 | case4 | case5 => rfl
  | case6 c hquote hback hline => exact if_neg (by simpa using ⟨hquote, hback, hline⟩)
  | case7 c hquote hback hline hreturn htab hcontrol hlt =>
    have hsize : c.utf8Size = 1 :=
      Char.utf8Size_eq_one_iff.2 (UInt32.le_iff_toNat_le.2 (Nat.le_of_lt_succ hlt))
    rw [bytes?, hexNumber?_pair (by omega), String.utf8EncodeChar_eq_singleton hsize]
    rfl
  | case8 c hquote hback hline hreturn htab hcontrol hge =>
    have hlt := lt_of_isControl (c := c) (by simpa using hcontrol)
    have hnumber : hexNumber? ['0', '0', (c.toNat / 16).digitChar, (c.toNat % 16).digitChar] =
        some c.toNat := hexNumber?_pair hlt
    simp [bytes?, hnumber, Char.ofNat_toNat, show c.toNat.isValidChar from c.valid]

end Element

theorem elements?_cons {c : Char} (h : c ≠ '\\') (cs : List Char) :
    elements? (c :: cs) = (elements? cs).map (.char c :: ·) := by
  rw [elements?.eq_def]
  split <;> simp_all

/-- What is written for a character is read as its element, whatever comes after it. -/
theorem elements?_append (c : Char) (cs : List Char) :
    elements? ((Element.ofChar c).spelling ++ cs) =
      (elements? cs).map (Element.ofChar c :: ·) := by
  fun_cases Element.ofChar c with
  | case1 | case2 | case3 | case4 | case5 => simp [Element.spelling, elements?]
  | case6 c hquote hback => exact elements?_cons hback cs
  | case7 | case8 => rfl

/-- What is written for a text is cut into the elements of its characters. -/
theorem elements?_escaped (cs : List Char) :
    elements? (cs.flatMap goEscaped) = some (cs.map Element.ofChar) := by
  induction cs with
  | nil => rfl
  | cons c cs ih =>
    rw [List.flatMap_cons, ← Element.spelling_ofChar, elements?_append, ih]
    rfl

/-- What is written for a text stands for the bytes of the text. -/
theorem decode_escaped (s : String) :
    decode (s.toList.flatMap goEscaped) = some s.toByteArray := by
  have hbytes (cs : List Char) : (cs.map Element.ofChar).mapM Element.bytes? =
      some (cs.map String.utf8EncodeChar) := by
    induction cs with
    | nil => rfl
    | cons c cs ih =>
      rw [List.map_cons, List.mapM_cons, Element.bytes?_ofChar, ih]
      rfl
  rw [decode, elements?_escaped]
  simp [hbytes, ← String.utf8Encode_toList, List.utf8Encode, List.flatMap_def]

theorem not_isControl_digitChar : ∀ n < 16, ¬ Text.isControl n.digitChar := by
  decide

/-- What is written for a character has no control character. -/
theorem not_isControl_of_mem (c : Char) :
    ∀ d ∈ (Element.ofChar c).spelling, ¬ Text.isControl d := by
  have hdigit := not_isControl_digitChar
  fun_cases Element.ofChar c with
  | case1 | case2 | case3 | case4 | case5 =>
    exact List.forall_mem_cons.2 ⟨by decide, List.forall_mem_singleton.2 (by decide)⟩
  | case6 c hquote hback hline hreturn htab hcontrol => simpa [Element.spelling] using hcontrol
  | case7 c hquote hback hline hreturn htab hcontrol hlt =>
    simp only [Element.spelling, List.forall_mem_cons]
    exact ⟨by decide, by decide, hdigit _ (by omega), hdigit _ (by omega), nofun⟩
  | case8 c hquote hback hline hreturn htab hcontrol hge =>
    have hlt := Element.lt_of_isControl (c := c) (by simpa using hcontrol)
    simp only [Element.spelling, List.forall_mem_cons]
    exact ⟨by decide, by decide, by decide, by decide, hdigit _ (by omega), hdigit _ (by omega),
      nofun⟩

end GoLiteral

open GoLiteral

/-- A text as a string literal stands between two quotes. There are no control characters between
    them, and no quotes or backslashes outside of escape sequences; what is there stands for the
    bytes of the text. So no other text has the same literal. -/
theorem goQuoted_decode (s : String) :
    ∃ interior elements, (goQuoted s).toList = '"' :: (interior ++ ['"']) ∧
      (∀ c ∈ interior, ¬ Text.isControl c) ∧
      elements? interior = some elements ∧ interior = elements.flatMap Element.spelling ∧
      (∀ c, .char c ∈ elements → c ≠ '"' ∧ c ≠ '\\') ∧
      decode interior = some s.toByteArray ∧ ∀ t, goQuoted t = goQuoted s → t = s := by
  have hliteral (t : String) :
      (goQuoted t).toList = '"' :: (t.toList.flatMap goEscaped ++ ['"']) := String.toList_ofList
  refine ⟨s.toList.flatMap goEscaped, s.toList.map Element.ofChar, hliteral s, ?_,
    elements?_escaped _, ?_, ?_, decode_escaped s, ?_⟩
  · intro d hd
    obtain ⟨c, -, hc⟩ := List.mem_flatMap.1 hd
    rw [← Element.spelling_ofChar] at hc
    exact not_isControl_of_mem c d hc
  · simp only [List.flatMap_map, Element.spelling_ofChar]
  · intro c hc
    obtain ⟨d, -, hd⟩ := List.mem_map.1 hc
    -- A quote or a backslash by itself would stand for nothing.
    have hbytes := Element.bytes?_ofChar d
    rw [hd, Element.bytes?] at hbytes
    split at hbytes
    · cases hbytes
    · next hplain => exact ⟨fun h => hplain (.inl h), fun h => hplain (.inr (.inl h))⟩
  · intro t ht
    have hinterior : t.toList.flatMap goEscaped = s.toList.flatMap goEscaped := by
      have hlist := congrArg String.toList ht
      rw [hliteral, hliteral] at hlist
      exact List.append_cancel_right (List.cons.inj hlist).2
    have hbytes := decode_escaped t
    rw [hinterior, decode_escaped s] at hbytes
    exact String.toByteArray_inj.1 (Option.some.inj hbytes).symm

/-- A digit that comes after an escape sequence is not taken for one of its digits. -/
example : goQuoted "\x010\u0085a\"" = "\"\\x010\\u0085a\\\"\"" := by
  decide +kernel

end QueryTemplate
