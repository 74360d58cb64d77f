import QueryTemplate.Proofs.BindOrder
import QueryTemplate.Proofs.Joining
import QueryTemplate.Proofs.Writing

/-!
# Escaped texts

A query may have any text of one line as its SQL, also one with at signs, with identifiers after
them and with backslashes before them. In the template, a backslash is put before each at sign.
Where there are backslashes already, the last one belongs to the at sign: this is so where
placeholders are looked for, and again where escapes are taken off.

* `escape`: a text with a backslash before each at sign;
* `Piece.scan_escaped`: its pieces are the characters of the text, with escapes for at signs;
* `Token.ofTemplate_escape`: it is one literal;
* `render_escape`: it is rendered as the text.
-/

namespace QueryTemplate

open Text

/-- Characters with a backslash before each at sign. -/
def escaped (cs : List Char) : List Char :=
  cs.flatMap fun c => if c = '@' then ['\\', '@'] else [c]

/-- A text with a backslash before each at sign. -/
def escape (text : String) : String :=
  .ofList (escaped text.toList)

variable {c : Char} {cs : List Char}

/-! ## Escaped characters -/

theorem escaped_at (cs : List Char) : escaped ('@' :: cs) = '\\' :: '@' :: escaped cs := rfl

theorem escaped_cons (h : c ≠ '@') (cs : List Char) : escaped (c :: cs) = c :: escaped cs := by
  rw [escaped, List.flatMap_cons, if_neg h]
  rfl

theorem escaped_eq_nil_iff : escaped cs = [] ↔ cs = [] := by
  cases cs with
  | nil => simp [escaped]
  | cons c cs =>
    by_cases h : c = '@'
    · simp [h, escaped_at]
    · simp [escaped_cons h]

/-- Escaped characters begin as the characters do, or with a backslash. -/
theorem head?_escaped (h : (escaped cs).head? = some c) (hc : c ≠ '\\') :
    c ≠ '@' ∧ cs.head? = some c := by
  cases cs with
  | nil => cases h
  | cons d cs =>
    by_cases hd : d = '@'
    · rw [hd, escaped_at] at h
      exact absurd (Option.some.inj h).symm hc
    · rw [escaped_cons hd] at h
      obtain rfl := Option.some.inj h
      exact ⟨hd, rfl⟩

theorem getLast?_escaped (cs : List Char) : (escaped cs).getLast? = cs.getLast? := by
  rcases List.eq_nil_or_concat cs with rfl | ⟨front, c, rfl⟩
  · rfl
  · rw [List.concat_eq_append, List.getLast?_concat, escaped, List.flatMap_append,
      List.flatMap_singleton, List.getLast?_append]
    split
    · next h =>
      rw [h]
      rfl
    · rfl

theorem mem_of_mem_escaped (h : c ∈ escaped cs) : c ∈ cs ∨ c = '\\' := by
  obtain ⟨d, hd, hc⟩ := List.mem_flatMap.1 h
  split at hc
  · next hat =>
    rcases List.mem_cons.1 hc with rfl | hc
    · exact .inr rfl
    · rw [List.mem_singleton.1 hc, ← hat]
      exact .inl hd
  · exact .inl (List.mem_singleton.1 hc ▸ hd)

/-- A character that occurs twice in a row did so before, unless it is one of an escape. -/
theorem infix_of_infix_escaped {a : Char} (hat : a ≠ '@') (hback : a ≠ '\\')
    (h : [a, a] <:+: escaped cs) : [a, a] <:+: cs := by
  induction cs with
  | nil => exact h
  | cons c cs ih =>
    by_cases hc : c = '@'
    · rw [hc, escaped_at] at h
      rcases List.infix_cons_iff.1 h with hstart | h
      · exact absurd (List.cons_prefix_cons.1 hstart).1 hback
      rcases List.infix_cons_iff.1 h with hstart | h
      · exact absurd (List.cons_prefix_cons.1 hstart).1 hat
      exact List.infix_cons_iff.2 (.inr (ih h))
    · rw [escaped_cons hc] at h
      rcases List.infix_cons_iff.1 h with hstart | h
      · obtain ⟨rfl, rest, hrest⟩ := List.cons_prefix_cons.1 hstart
        have hhead : cs.head? = some a := (head?_escaped (by rw [← hrest]; rfl) hback).2
        obtain ⟨rest, rfl⟩ := List.head?_eq_some_iff.1 hhead
        exact ⟨[], rest, rfl⟩
      · exact List.infix_cons_iff.2 (.inr (ih h))

/-! ## Pieces -/

namespace Piece

/-- The piece that an escaped character is read as. -/
def ofChar (c : Char) : Piece :=
  if c = '@' then escape else char c

@[simp]
theorem symbol_ofChar (c : Char) : (ofChar c).symbol = c := by
  rw [ofChar]
  split
  · next h => exact h.symm
  · rfl

@[simp]
theorem bind?_ofChar (c : Char) : (ofChar c).bind? = none := by
  rw [ofChar]
  split <;> rfl

/-- In escaped characters there are escapes at the at signs, and nowhere else. -/
theorem scan_escaped (cs : List Char) : scan (escaped cs) = cs.map ofChar := by
  induction cs with
  | nil => exact scan.eq_1
  | cons c cs ih =>
    rw [List.map_cons, ← ih, ofChar]
    split
    · next h =>
      rw [h, escaped_at]
      exact scan.eq_2 _
    · next h =>
      rw [escaped_cons h]
      refine scan_of_none (fun _ hhead => (head?_escaped hhead (by decide)).1 rfl) ?_
      exact Bind.read?.eq_3 _ (fun _ hcs => h (List.cons.inj hcs).1)
        (fun _ hcs => h (List.cons.inj hcs).1)

end Piece

theorem binds_extract_escape (text : String) : (extract (escape text)).binds = [] := by
  rw [extract, escape, String.toList_ofList, Piece.scan_escaped]
  simp

theorem unescape_extract_escape (text : String) :
    unescape (extract (escape text)).sql = text := by
  have hsymbols : Piece.symbol ∘ Piece.ofChar = id := funext Piece.symbol_ofChar
  rw [unescape_extract, escape, String.toList_ofList, Piece.scan_escaped, List.map_map, hsymbols,
    List.map_id, String.ofList_toList]

/-! ## Templates -/

section Templates

variable {text : String} (hnewline : '\n' ∉ text.toList)
  (hopening : ¬ Token.opening <:+: text.toList) (hreturn : text.toList.getLast? ≠ some '\r')

include hnewline hopening hreturn

theorem Token.ofTemplate_escape :
    ofTemplate (escape text) = .ok [⟨.literal, escape text, 1, 1, false⟩] := by
  have hnewline' : '\n' ∉ escaped text.toList := fun hmem =>
    (mem_of_mem_escaped hmem).elim hnewline (by decide)
  have hreturn' : (escaped text.toList).getLast? ≠ some '\r' := by rwa [getLast?_escaped]
  have hcut : splitOnce opening (escaped text.toList) = none :=
    (splitOnce_eq_none_iff (List.cons_ne_nil _ _)).2 fun hocc =>
      hopening (infix_of_infix_escaped (by decide) (by decide) hocc)
  rw [escape, ofTemplate_eq_ofLine hnewline' hreturn', ofLine_of_none hcut]
  rfl

/-- The tree of an escaped text is a text, or empty, and adds the text to a query. -/
theorem Node.ofTemplate_escape :
    ∃ nodes, ofTemplate (escape text) = .ok nodes ∧ Proper nodes ∧ binds nodes = [] ∧
      ∀ {σ : Type} (scope : Scope σ), eval scope nodes {} = pure { sql := text, params := [] } := by
  have htree := Node.ofTemplate_eq (Token.ofTemplate_escape hnewline hopening hreturn)
  by_cases hempty : text = ""
  · subst hempty
    exact ⟨[], htree, trivial, rfl, fun _ => rfl⟩
  · have hne : ¬ (escape text).isEmpty := by
      rw [String.isEmpty_iff, escape, ← String.toList_inj, String.toList_ofList,
        String.toList_empty, escaped_eq_nil_iff, String.toList_eq_nil_iff]
      exact hempty
    have hnodes : ofTemplate (escape text) = .ok [.text
        { sql := (extract (escape text)).sql, binds := [], line := 1 }] := by
      rw [htree, ofTokens, Builder.addAll_cons_of_add (Builder.add_literal {} rfl),
        Phrase.addLiteral_of_inner rfl, if_neg hne, ← binds_extract_escape text]
      rfl
    refine ⟨_, hnodes, ⟨trivial, trivial⟩, rfl, fun scope => ?_⟩
    rw [eval_singleton, evalOf_text, unescape_extract_escape]
    rfl

end Templates

/-- A text of one line, without opening braces, can be the SQL of a query: with a backslash before
    each at sign it is a template without placeholders, which is rendered as the text against any
    scope, without a call and without parameters. -/
theorem render_escape {text : String} (hnewline : '\n' ∉ text.toList)
    (hopening : ¬ Token.opening <:+: text.toList) (hreturn : text.toList.getLast? ≠ some '\r')
    (settings : Settings) :
    ∃ t, Template.compile (escape text) settings = .ok t ∧
      Node.binds t.nodes = [] ∧ t.program.binds = [] ∧
      ∀ {σ : Type} (scope : Scope σ) (s : σ),
        t.render scope s = .ok { sql := text, params := [] } s ∧
        t.render scope.recorded (s, []) = .ok { sql := text, params := [] } (s, []) := by
  obtain ⟨nodes, hnodes, hproper, hbinds, heval⟩ :=
    Node.ofTemplate_escape hnewline hopening hreturn
  have hrender {σ : Type} (scope : Scope σ) :
      (Program.ofNodes settings.loopMultiplier nodes).render scope =
        pure { sql := text, params := [] } :=
    (render_ofNodes settings.loopMultiplier hproper).trans (heval scope)
  refine ⟨⟨escape text, nodes, Program.ofNodes settings.loopMultiplier nodes, settings⟩, ?_, hbinds,
    (Program.binds_ofNodes _ nodes).trans hbinds, fun scope s => ?_⟩
  · rw [Template.compile, hnodes]
    rfl
  · rw [Template.render, hrender, Template.render, hrender]
    exact ⟨rfl, rfl⟩

/-- Backslashes before at signs, sigils in a row, an identifier, and braces apart. -/
theorem render_escape_mixed :
    let text := "\\@@table \\\\@a.b @ \x7b \x7b\r\x7d\x7d @"
    '\n' ∉ text.toList ∧ ¬ Token.opening <:+: text.toList ∧
      text.toList.getLast? ≠ some '\r' ∧
      escape text = "\\\\@\\@table \\\\\\@a.b \\@ \x7b \x7b\r\x7d\x7d \\@" ∧
      ∃ t, Template.compile (escape text) = .ok t ∧
        ∀ {σ : Type} (scope : Scope σ) (s : σ),
          t.render scope s = .ok { sql := text, params := [] } s := by
  intro text
  have hnewline : '\n' ∉ text.toList := by decide
  have hopening : ¬ Token.opening <:+: text.toList := by decide
  have hreturn : text.toList.getLast? ≠ some '\r' := by decide
  obtain ⟨t, ht, -, -, hrender⟩ := render_escape hnewline hopening hreturn {}
  exact ⟨hnewline, hopening, hreturn, by decide, t, ht, fun scope s => (hrender scope s).1⟩

end QueryTemplate
