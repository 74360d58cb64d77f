import QueryTemplate.Proofs.Phrases
import QueryTemplate.Proofs.Spelling

/-!
# The grammar of blocks

The directives of a template are the words of a grammar. A body is a sequence of
blocks, and a block is

* `where` or `set`, a body and `end`;
* `for` with a header, a body and `end`;
* `if` with a condition, a body, any number of `else if` with a condition and a
  body, possibly `else` and a body, and `end`.

While a word is read, some blocks are open: they have begun, and the directives
after their beginning do not end them.

* `Word`: the words of the grammar, and of its parts;
* `Viable`: directives that more directives can complete to a word;
* `Opens`: directives leave blocks open; they are viable then (`Opens.viable`);
* `phrases_of_word`: tokens whose directives are a word can be read as phrases.
-/

namespace QueryTemplate

/-- The token is a directive, and spells the given one. -/
def Token.Spells (token : Token) (d : Directive) : Prop :=
  token.kind = .directive ∧ Directive.Spelled token.text.toList d

theorem Token.symbol?_eq_directive_iff {token : Token} {d : Directive} :
    token.symbol? = some (.directive d) ↔ token.Spells d := by
  rw [Token.symbol?, Token.Spells]
  cases token.kind with
  | literal => simp
  | directive => simp [Directive.read?_eq_some_iff]

/-- The directives among tokens. -/
def Token.directives (tokens : List Token) : List Token :=
  tokens.filter (·.kind = .directive)

theorem Token.directives_cons_literal {token : Token} {tokens : List Token}
    (h : token.kind = .literal) : directives (token :: tokens) = directives tokens :=
  List.filter_cons_of_neg (by simp [h])

theorem Token.directives_cons_directive {token : Token} {tokens : List Token}
    (h : token.kind = .directive) : directives (token :: tokens) = token :: directives tokens :=
  List.filter_cons_of_pos (by simp [h])

/-! ## Words -/

/-- The parts of the grammar. -/
inductive Part where
  /-- A sequence of blocks. -/
  | body
  /-- One block. -/
  | block
  /-- A conditional from the end of its first body on. -/
  | arms

/-- The tokens are a word of a part of the grammar. -/
inductive Word : Part → List Token → Prop
  | empty : Word .body []
  | append {ts us : List Token} : Word .block ts → Word .body us → Word .body (ts ++ us)
  | clause {t u : Token} {ts : List Token} {kind : ClauseKind} :
      t.Spells (.clause kind) → Word .body ts → u.Spells .close → Word .block (t :: (ts ++ [u]))
  | loop {t u : Token} {ts : List Token} {header : String} :
      t.Spells (.loop header) → Word .body ts → u.Spells .close → Word .block (t :: (ts ++ [u]))
  | cond {t : Token} {ts us : List Token} {condition : String} :
      t.Spells (.cond condition) → Word .body ts → Word .arms us → Word .block (t :: (ts ++ us))
  | elseCond {t : Token} {ts us : List Token} {condition : String} :
      t.Spells (.elseCond condition) → Word .body ts → Word .arms us → Word .arms (t :: (ts ++ us))
  | otherwise {t u : Token} {ts : List Token} :
      t.Spells .otherwise → Word .body ts → u.Spells .close → Word .arms (t :: (ts ++ [u]))
  | close {u : Token} : u.Spells .close → Word .arms [u]

/-- More tokens can complete the tokens to a word. -/
def Viable (tokens : List Token) : Prop :=
  ∃ more, Word .body (tokens ++ more)

namespace Word

variable {ts us : List Token}

theorem single (h : Word .block ts) : Word .body ts :=
  ts.append_nil ▸ h.append .empty

theorem concat (h : Word .body ts) (h' : Word .body us) : Word .body (ts ++ us) := by
  generalize hpart : Part.body = part at h
  induction h with
  | empty => exact h'
  | append hblock _ _ ih => exact (List.append_assoc ..) ▸ hblock.append (ih rfl)
  | _ => cases hpart

theorem viable (h : Word .body ts) : Viable ts :=
  ⟨[], by rwa [List.append_nil]⟩

end Word

theorem Viable.mono {ts us : List Token} (h : Viable us) (hts : ts <+: us) : Viable ts := by
  obtain ⟨more, hmore⟩ := h
  obtain ⟨rest, rfl⟩ := hts
  exact ⟨rest ++ more, by rwa [← List.append_assoc]⟩

/-! ## Open blocks -/

/-- How far a block that is open has been read. -/
inductive Level where
  /-- Within a clause. -/
  | clause (kind : ClauseKind)
  /-- Within a loop. -/
  | loop
  /-- Within a branch with a condition. -/
  | cond
  /-- Within the branch without a condition. -/
  | otherwise
deriving DecidableEq

/-- The kind of block that is open. -/
def Level.kind : Level → BlockKind
  | clause kind => .clause kind
  | loop => .loop
  | cond | otherwise => .cond

/-- A block that is open, and the token that opened it. -/
structure Opener where
  /-- The token. -/
  token : Token
  /-- How far the block has been read. -/
  level : Level

/-- How far a block has been read by the directive that opens it. -/
def Directive.level? : Directive → Option Level
  | clause kind => some (.clause kind)
  | loop _ => some .loop
  | cond _ => some .cond
  | _ => none

/-- The tokens leave blocks open; the innermost is listed first. -/
inductive Opens : List Token → List Opener → Prop
  | word {ts : List Token} : Word .body ts → Opens ts []
  | block {ts us : List Token} {t : Token} {d : Directive} {level : Level} {outer : List Opener} :
      Opens ts outer → t.Spells d → d.level? = some level → Word .body us →
      Opens (ts ++ t :: us) (⟨t, level⟩ :: outer)
  | elseCond {ts us : List Token} {t opening : Token} {condition : String} {outer : List Opener} :
      Opens ts (⟨opening, .cond⟩ :: outer) → t.Spells (.elseCond condition) → Word .body us →
      Opens (ts ++ t :: us) (⟨opening, .cond⟩ :: outer)
  | otherwise {ts us : List Token} {t opening : Token} {outer : List Opener} :
      Opens ts (⟨opening, .cond⟩ :: outer) → t.Spells .otherwise → Word .body us →
      Opens (ts ++ t :: us) (⟨opening, .otherwise⟩ :: outer)

/-- The tokens complete a block that has been read so far. -/
def Level.Ending : Level → List Token → Prop
  | cond, us => Word .arms us
  | _, us => ∃ u : Token, u.Spells .close ∧ us = [u]

theorem Level.ending_close (level : Level) {u : Token} (h : u.Spells .close) :
    level.Ending [u] := by
  cases level with
  | cond => exact .close h
  | _ => exact ⟨u, h, rfl⟩

namespace Opens

variable {ts us : List Token} {openers outer : List Opener}

theorem word_of_nil (h : Opens ts []) : Word .body ts := by
  cases h with
  | word h => exact h

/-- Complete blocks leave open what was open before. -/
theorem append (h : Opens ts openers) (h' : Word .body us) : Opens (ts ++ us) openers := by
  cases h with
  | word h => exact .word (h.concat h')
  | block h ht hlevel hus =>
    rw [List.append_assoc, List.cons_append]
    exact .block h ht hlevel (hus.concat h')
  | elseCond h ht hus =>
    rw [List.append_assoc, List.cons_append]
    exact .elseCond h ht (hus.concat h')
  | otherwise h ht hus =>
    rw [List.append_assoc, List.cons_append]
    exact .otherwise h ht (hus.concat h')

/-- The innermost open block begins somewhere, and what completes it makes it a block. -/
theorem innermost {opener : Opener} (h : Opens ts (opener :: outer)) :
    ∃ before begun, ts = before ++ begun ∧ Opens before outer ∧
      ∀ us, opener.level.Ending us → Word .block (begun ++ us) := by
  generalize hopeners : opener :: outer = openers at h
  induction h generalizing opener outer with
  | word => cases hopeners
  | @block ts more t d level outer' h ht hlevel hmore _ =>
    obtain ⟨rfl, rfl⟩ := List.cons.inj hopeners
    refine ⟨ts, t :: more, rfl, h, fun us hus => ?_⟩
    cases d with
    | clause kind =>
      obtain rfl := Option.some.inj hlevel
      obtain ⟨u, hu, rfl⟩ := hus
      exact .clause ht hmore hu
    | loop header =>
      obtain rfl := Option.some.inj hlevel
      obtain ⟨u, hu, rfl⟩ := hus
      exact .loop ht hmore hu
    | cond condition =>
      obtain rfl := Option.some.inj hlevel
      exact .cond ht hmore hus
    | _ => cases hlevel
  | @elseCond ts more t opening condition outer' _ ht hmore ih =>
    -- What completes the conditional from here on completes it from before the branch.
    obtain ⟨rfl, rfl⟩ := List.cons.inj hopeners
    obtain ⟨before, begun, rfl, hbefore, hbegun⟩ := ih rfl
    refine ⟨before, begun ++ t :: more, by rw [List.append_assoc], hbefore, fun us hus => ?_⟩
    rw [List.append_assoc]
    exact hbegun _ (.elseCond ht hmore hus)
  | @otherwise ts more t opening outer' _ ht hmore ih =>
    obtain ⟨rfl, rfl⟩ := List.cons.inj hopeners
    obtain ⟨before, begun, rfl, hbefore, hbegun⟩ := ih rfl
    refine ⟨before, begun ++ t :: more, by rw [List.append_assoc], hbefore, fun us hus => ?_⟩
    obtain ⟨u, hu, rfl⟩ := hus
    rw [List.append_assoc]
    exact hbegun _ (.otherwise ht hmore hu)

/-- An `end` closes the innermost open block. -/
theorem close {opener : Opener} {u : Token} (h : Opens ts (opener :: outer))
    (hu : u.Spells .close) : Opens (ts ++ [u]) outer := by
  obtain ⟨before, begun, rfl, hbefore, hbegun⟩ := h.innermost
  rw [List.append_assoc]
  exact hbefore.append (hbegun [u] (opener.level.ending_close hu)).single

/-- Tokens that leave blocks open are viable: enough `end`s complete them. -/
theorem viable (h : Opens ts openers) : Viable ts := by
  induction openers generalizing ts with
  | nil => exact h.word_of_nil.viable
  | cons opener outer ih =>
    let u : Token := ⟨.directive, "end", 1, 1, false⟩
    exact (ih (h.close (u := u) ⟨rfl, .close⟩)).mono (List.prefix_append ..)

/-- The outermost open block begins after complete blocks. -/
theorem outermost {opener : Opener} (h : Opens ts (openers ++ [opener])) :
    ∃ before after, ts = before ++ opener.token :: after ∧ Word .body before := by
  generalize hopeners : openers ++ [opener] = all at h
  induction h generalizing openers opener with
  | word => simp at hopeners
  | @block ts more t d level outer h _ _ _ ih =>
    cases openers with
    | nil =>
      obtain ⟨rfl, rfl⟩ := List.cons.inj hopeners
      exact ⟨ts, more, rfl, h.word_of_nil⟩
    | cons _ openers =>
      obtain ⟨before, after, rfl, hbefore⟩ := ih (List.cons.inj hopeners).2
      exact ⟨before, after ++ t :: more, by rw [List.append_assoc, List.cons_append], hbefore⟩
  | @elseCond ts more t _ _ _ _ _ _ ih =>
    obtain ⟨before, after, rfl, hbefore⟩ := ih hopeners
    exact ⟨before, after ++ t :: more, by rw [List.append_assoc, List.cons_append], hbefore⟩
  | @otherwise ts more t opening outer _ _ _ ih =>
    -- The conditional was open before its last branch, opened by the same token.
    have hbegun : ∃ before after, ts = before ++ opener.token :: after ∧ Word .body before := by
      cases openers with
      | nil =>
        obtain ⟨rfl, rfl⟩ := List.cons.inj hopeners
        have hbegun : ∃ before after, ts = before ++ (Opener.mk opening .cond).token :: after ∧
            Word .body before := ih (List.nil_append _)
        exact hbegun
      | cons _ openers =>
        obtain ⟨_, rfl⟩ := List.cons.inj hopeners
        exact ih (List.cons_append ..)
    obtain ⟨before, after, rfl, hbefore⟩ := hbegun
    exact ⟨before, after ++ t :: more, by rw [List.append_assoc, List.cons_append], hbefore⟩

end Opens

/-! ## Words with literals between them -/

namespace Phrase

theorem symbols_append (phrases more : List Phrase) :
    symbols (phrases ++ more) = symbols phrases ++ symbols more := by
  induction phrases with
  | nil => rfl
  | cons phrase phrases ih => rw [List.cons_append, symbols, symbols, ih, List.append_assoc]

/-- The symbols that end a conditional after its first body. -/
def endSymbols (branches : List PhraseBranch) : Option (List Phrase) → List Symbol
  | none => branchSymbols branches ++ [.directive .close]
  | some last =>
    branchSymbols branches ++ .directive .otherwise :: (symbols last ++ [.directive .close])

theorem symbolsOf_cond (condition : String) (body : List Phrase) (branches : List PhraseBranch)
    (otherwise : Option (List Phrase)) :
    symbolsOf (.cond condition body branches otherwise) =
      .directive (.cond condition) :: (symbols body ++ endSymbols branches otherwise) := by
  cases otherwise <;> rfl

theorem endSymbols_cons (condition : String) (body : List Phrase) (branches : List PhraseBranch)
    (otherwise : Option (List Phrase)) :
    endSymbols (.mk condition body :: branches) otherwise =
      .directive (.elseCond condition) :: (symbols body ++ endSymbols branches otherwise) := by
  cases otherwise with
  | none => rw [endSymbols, endSymbols, branchSymbols, List.cons_append, List.append_assoc]
  | some last => rw [endSymbols, endSymbols, branchSymbols, List.cons_append, List.append_assoc]

end Phrase

open Phrase

/-- The tokens can be read as a part of the grammar with literals before, within and
    after it. -/
def Part.Read : Part → List Token → Prop
  | arms, tokens => ∃ before branches otherwise after,
    Token.Reads tokens (symbols before ++ (endSymbols branches otherwise ++ symbols after))
  | _, tokens => ∃ phrases, Token.Reads tokens (symbols phrases)

namespace Token

theorem Reads.concat {tokens more : List Token} {symbols symbols' : List Symbol}
    (h : Token.Reads tokens symbols) (h' : Token.Reads more symbols') :
    Token.Reads (tokens ++ more) (symbols ++ symbols') := by
  rw [Token.Reads, List.map_append, List.map_append, h, h']

theorem Reads.push {token : Token} {tokens : List Token} {symbol : Symbol} {symbols : List Symbol}
    (h : token.symbol? = some symbol) (h' : Token.Reads tokens symbols) :
    Token.Reads (token :: tokens) (symbol :: symbols) := by
  rw [Token.Reads, List.map_cons, List.map_cons, h, h']

theorem reads_literals {tokens : List Token} (h : directives tokens = []) :
    Token.Reads tokens (symbols (tokens.map Phrase.literal)) := by
  induction tokens with
  | nil => rfl
  | cons token tokens ih =>
    rw [directives, List.filter_eq_nil_iff] at h ih
    have hkind : token.kind = .literal := by
      have := h token List.mem_cons_self
      cases hkind : token.kind with
      | literal => rfl
      | directive => simp [hkind] at this
    exact .push (symbol?_eq_literal_iff.2 ⟨hkind, rfl⟩)
      (ih fun t ht => h t (List.mem_cons_of_mem _ ht))

/-- The first directive among tokens comes after literals. -/
theorem directives_eq_cons {tokens more : List Token} {token : Token}
    (h : directives tokens = token :: more) :
    ∃ before after, tokens = before ++ token :: after ∧ directives before = [] ∧
      directives after = more := by
  obtain ⟨before, after, rfl, hbefore, _, hafter⟩ := List.filter_eq_cons_iff.1 h
  exact ⟨before, after, rfl, List.filter_eq_nil_iff.2 hbefore, hafter⟩

theorem directives_eq_append {tokens left right : List Token}
    (h : directives tokens = left ++ right) :
    ∃ before after, tokens = before ++ after ∧ directives before = left ∧
      directives after = right :=
  List.filter_eq_append_iff.1 h

end Token

open Token

/-- An `end` with literals around it. -/
theorem read_close {tokens : List Token} {u : Token} (h : Token.directives tokens = [u])
    (hu : u.Spells .close) :
    ∃ before after, Token.Reads tokens (symbols before ++ .directive .close :: symbols after) := by
  obtain ⟨before, after, rfl, hbefore, hafter⟩ := directives_eq_cons h
  exact ⟨_, _, (reads_literals hbefore).concat
    (.push (symbol?_eq_directive_iff.2 hu) (reads_literals hafter))⟩

/-- A block with literals around it, from what comes after the token that opens it. -/
theorem read_block {tokens ts : List Token} {t : Token} {d : Directive}
    (h : Token.directives tokens = t :: ts) (ht : t.Spells d)
    (hrest : ∀ rest, Token.directives rest = ts → ∃ phrase inside after,
      symbolsOf phrase = .directive d :: inside ∧ Token.Reads rest (inside ++ symbols after)) :
    ∃ phrases, Token.Reads tokens (symbols phrases) := by
  obtain ⟨before, rest, rfl, hbefore, hts⟩ := directives_eq_cons h
  obtain ⟨phrase, inside, after, hphrase, hinside⟩ := hrest rest hts
  refine ⟨before.map .literal ++ phrase :: after, ?_⟩
  rw [symbols_append, symbols, hphrase, List.cons_append]
  exact (reads_literals hbefore).concat (.push (symbol?_eq_directive_iff.2 ht) hinside)

/-- A body up to an `end`, with literals after that. -/
theorem read_body_close {rest ts : List Token} {u : Token}
    (ih : ∀ {tokens}, Token.directives tokens = ts → Part.body.Read tokens)
    (h : Token.directives rest = ts ++ [u]) (hu : u.Spells .close) :
    ∃ body after, Token.Reads rest ((symbols body ++ [.directive .close]) ++ symbols after) := by
  obtain ⟨left, right, rfl, hleft, hright⟩ := directives_eq_append h
  obtain ⟨phrases, hphrases⟩ := ih hleft
  obtain ⟨before, after, hclose⟩ := read_close hright hu
  refine ⟨phrases ++ before, after, ?_⟩
  rw [symbols_append, List.append_assoc, List.append_assoc]
  exact hphrases.concat hclose

/-- A body up to the end of a conditional, with literals after that. -/
theorem read_body_arms {rest ts us : List Token}
    (ihbody : ∀ {tokens}, Token.directives tokens = ts → Part.body.Read tokens)
    (iharms : ∀ {tokens}, Token.directives tokens = us → Part.arms.Read tokens)
    (h : Token.directives rest = ts ++ us) :
    ∃ body branches otherwise after,
      Token.Reads rest ((symbols body ++ endSymbols branches otherwise) ++ symbols after) := by
  obtain ⟨left, right, rfl, hleft, hright⟩ := directives_eq_append h
  obtain ⟨phrases, hphrases⟩ := ihbody hleft
  obtain ⟨before, branches, otherwise, after, harms⟩ := iharms hright
  refine ⟨phrases ++ before, branches, otherwise, after, ?_⟩
  rw [symbols_append, List.append_assoc, List.append_assoc]
  exact hphrases.concat harms

/-- Tokens whose directives are a word of the grammar can be read as phrases. -/
theorem phrases_of_word {part : Part} {ts : List Token} (h : Word part ts) :
    ∀ {tokens}, Token.directives tokens = ts → part.Read tokens := by
  induction h with
  | empty => exact fun htokens => ⟨_, reads_literals htokens⟩
  | append _ _ ihblock ihbody =>
    intro tokens htokens
    obtain ⟨left, right, rfl, hleft, hright⟩ := directives_eq_append htokens
    obtain ⟨phrases, hphrases⟩ := ihblock hleft
    obtain ⟨more, hmore⟩ := ihbody hright
    exact ⟨phrases ++ more, symbols_append phrases more ▸ hphrases.concat hmore⟩
  | @clause t u ts kind ht _ hu ih =>
    intro tokens htokens
    refine read_block htokens ht fun rest hrest => ?_
    obtain ⟨body, after, hread⟩ := read_body_close ih hrest hu
    exact ⟨.clause kind body, _, after, rfl, hread⟩
  | @loop t u ts header ht _ hu ih =>
    intro tokens htokens
    refine read_block htokens ht fun rest hrest => ?_
    obtain ⟨body, after, hread⟩ := read_body_close ih hrest hu
    exact ⟨.loop header body, _, after, rfl, hread⟩
  | @cond t ts us condition ht _ _ ihbody iharms =>
    intro tokens htokens
    refine read_block htokens ht fun rest hrest => ?_
    obtain ⟨body, branches, otherwise, after, hread⟩ := read_body_arms ihbody iharms hrest
    exact ⟨.cond condition body branches otherwise, _, after, symbolsOf_cond .., hread⟩
  | @elseCond t ts us condition ht _ _ ihbody iharms =>
    -- The literals before the branch belong to the body before it.
    intro tokens htokens
    obtain ⟨before, rest, rfl, hbefore, hrest⟩ := directives_eq_cons htokens
    obtain ⟨body, branches, otherwise, after, hread⟩ := read_body_arms ihbody iharms hrest
    refine ⟨before.map .literal, .mk condition body :: branches, otherwise, after, ?_⟩
    rw [endSymbols_cons, List.cons_append]
    exact (reads_literals hbefore).concat (.push (symbol?_eq_directive_iff.2 ht) hread)
  | @otherwise t u ts ht _ hu ih =>
    intro tokens htokens
    obtain ⟨before, rest, rfl, hbefore, hrest⟩ := directives_eq_cons htokens
    obtain ⟨body, after, hread⟩ := read_body_close ih hrest hu
    exact ⟨before.map .literal, [], some body, after,
      (reads_literals hbefore).concat (.push (symbol?_eq_directive_iff.2 ht) hread)⟩
  | close hu =>
    intro tokens htokens
    obtain ⟨before, after, hread⟩ := read_close htokens hu
    exact ⟨before, [], none, after, hread⟩

end QueryTemplate
