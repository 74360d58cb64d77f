import QueryTemplate.Tree.Builder

/-!
# Phrases

The tokens of a template are nested as its tree is, only that texts are not joined
yet: a phrase is a literal token, or a block of phrases between its directives.
The tree that is built from the tokens follows the phrases, body by body: a block
gives a node of its own, and a literal joins a text that comes right before it.

* `Phrase`: literals and blocks, and `Phrase.symbols` their flat writing;
* `Phrase.nodes`: the tree of phrases;
* `addAll_phrases`: reading the tokens of phrases builds their tree;
* `Node.directives`: the directives that a tree is written with, which are those of
  the phrases that it is made from (`directives_nodes`).
-/

namespace QueryTemplate

mutual

/-- A literal or a block of a template. -/
inductive Phrase where
  /-- A literal text. -/
  | literal (token : Token)
  /-- A clause. -/
  | clause (kind : ClauseKind) (body : List Phrase)
  /-- A loop. -/
  | loop (header : String) (body : List Phrase)
  /-- A conditional: its first branch, the other branches with a condition, and the
      branch without one. -/
  | cond (condition : String) (body : List Phrase) (branches : List PhraseBranch)
    (otherwise : Option (List Phrase))

/-- A branch of a conditional after the first. -/
inductive PhraseBranch where
  /-- The branch with its condition. -/
  | mk (condition : String) (body : List Phrase)

end

/-- What a token stands for. -/
inductive Symbol where
  /-- A literal text. -/
  | literal (token : Token)
  /-- A directive. -/
  | directive (directive : Directive)

/-- What a token stands for, if it is not a directive that cannot be read. -/
def Token.symbol? (token : Token) : Option Symbol :=
  match token.kind with
  | .literal => some (.literal token)
  | .directive => (Directive.read? token.text).map .directive

theorem Token.symbol?_eq_literal_iff {token token' : Token} :
    token.symbol? = some (.literal token') ↔ token.kind = .literal ∧ token = token' := by
  rw [Token.symbol?]
  cases token.kind with
  | literal => simp
  | directive => simp

namespace Symbol

/-- The directives among symbols. -/
def directives : List Symbol → List Directive
  | [] => []
  | literal _ :: symbols => directives symbols
  | directive d :: symbols => d :: directives symbols

theorem directives_append (symbols more : List Symbol) :
    directives (symbols ++ more) = directives symbols ++ directives more := by
  induction symbols with
  | nil => rfl
  | cons symbol symbols ih =>
    cases symbol with
    | literal token => exact ih
    | directive d => exact congrArg (d :: ·) ih

end Symbol

namespace Phrase

mutual

/-- The symbols of a phrase. -/
def symbolsOf : Phrase → List Symbol
  | literal token => [.literal token]
  | clause kind body => .directive (.clause kind) :: (symbols body ++ [.directive .close])
  | loop header body => .directive (.loop header) :: (symbols body ++ [.directive .close])
  | cond condition body branches none =>
    .directive (.cond condition) ::
      (symbols body ++ (branchSymbols branches ++ [.directive .close]))
  | cond condition body branches (some last) =>
    .directive (.cond condition) ::
      (symbols body ++ (branchSymbols branches ++
        .directive .otherwise :: (symbols last ++ [.directive .close])))

/-- The symbols of phrases. -/
def symbols : List Phrase → List Symbol
  | [] => []
  | phrase :: phrases => symbolsOf phrase ++ symbols phrases

/-- The symbols of branches after the first. -/
def branchSymbols : List PhraseBranch → List Symbol
  | [] => []
  | .mk condition body :: branches =>
    .directive (.elseCond condition) :: (symbols body ++ branchSymbols branches)

end

/-- The nodes with a literal added, if it adds any text. -/
def addLiteral (nodes : List Node) (token : Token) : List Node :=
  let text := Builder.addedText nodes token
  if text.isEmpty then nodes else Builder.addText nodes text token.line

mutual

/-- The nodes with a phrase added. -/
def addTo : List Node → Phrase → List Node
  | nodes, literal token => addLiteral nodes token
  | nodes, clause kind body => nodes ++ [.clause kind (addAllTo [] body)]
  | nodes, loop header body => nodes ++ [.loop header (addAllTo [] body)]
  | nodes, cond condition body branches none =>
    nodes ++ [.cond (.mk condition (addAllTo [] body) :: branchNodes branches) none]
  | nodes, cond condition body branches (some last) =>
    nodes ++ [.cond (.mk condition (addAllTo [] body) :: branchNodes branches)
      (some (addAllTo [] last))]

/-- The nodes with phrases added, one after the other. -/
def addAllTo : List Node → List Phrase → List Node
  | nodes, [] => nodes
  | nodes, phrase :: phrases => addAllTo (addTo nodes phrase) phrases

/-- The branches of a tree for those of phrases. -/
def branchNodes : List PhraseBranch → List Branch
  | [] => []
  | .mk condition body :: branches => .mk condition (addAllTo [] body) :: branchNodes branches

end

/-- The tree of phrases. -/
def nodes (phrases : List Phrase) : List Node :=
  addAllTo [] phrases

end Phrase

/-! ## Builders -/

theorem OpenBlock.body_withBody (block : OpenBlock) (nodes : List Node) :
    (block.withBody nodes).body = nodes := by
  cases block <;> rfl

theorem OpenBlock.withBody_withBody (block : OpenBlock) (nodes nodes' : List Node) :
    (block.withBody nodes).withBody nodes' = block.withBody nodes' := by
  cases block <;> rfl

theorem OpenBlock.withBody_body (block : OpenBlock) : block.withBody block.body = block := by
  cases block <;> rfl

namespace Builder

theorem body_withBody (b : Builder) (nodes : List Node) : (b.withBody nodes).body = nodes := by
  obtain ⟨root, frames⟩ := b
  cases frames with
  | nil => rfl
  | cons frame frames => exact frame.block.body_withBody nodes

theorem withBody_withBody (b : Builder) (nodes nodes' : List Node) :
    (b.withBody nodes).withBody nodes' = b.withBody nodes' := by
  obtain ⟨root, frames⟩ := b
  cases frames with
  | nil => rfl
  | cons frame frames =>
    simp only [withBody, OpenBlock.withBody_withBody]

theorem withBody_body (b : Builder) : b.withBody b.body = b := by
  obtain ⟨root, frames⟩ := b
  cases frames with
  | nil => rfl
  | cons frame frames =>
    simp only [withBody, body, OpenBlock.withBody_body]

/-- A text that is added joins a text at the end, and is a node of its own otherwise. -/
theorem addText_cases (nodes : List Node) (text : String) (line : Nat) :
    (∃ front fragment, nodes = front ++ [.text fragment] ∧
      addText nodes text line = front ++ [.text { fragment with
        sql := fragment.sql ++ (extract text).sql
        binds := fragment.binds ++ (extract text).binds }]) ∨
    ((∀ front fragment, nodes ≠ front ++ [.text fragment]) ∧
      addText nodes text line =
        nodes ++ [.text
          { sql := (extract text).sql, binds := (extract text).binds, line := line }]) := by
  rw [addText]
  split
  · next fragment hlast =>
    obtain ⟨front, rfl⟩ := List.getLast?_eq_some_iff.1 hlast
    exact .inl ⟨front, fragment, rfl, by rw [List.dropLast_concat]⟩
  · next hlast =>
    refine .inr ⟨fun front fragment hnodes => hlast fragment ?_, rfl⟩
    rw [hnodes, List.getLast?_concat]

theorem addLiteral_eq (b : Builder) (token : Token) :
    b.addLiteral token = b.withBody (Phrase.addLiteral b.body token) := by
  simp only [addLiteral, Phrase.addLiteral]
  split
  · rw [withBody_body]
  · rfl

theorem addAll_append (b : Builder) (tokens more : List Token) :
    b.addAll (tokens ++ more) = (do (← b.addAll tokens).addAll more) := by
  induction tokens generalizing b with
  | nil => rfl
  | cons token tokens ih =>
    rw [List.cons_append, addAll, addAll]
    cases hb : b.add token with
    | error e => rfl
    | ok b' => exact ih b'

theorem addAll_cons_of_add {b b' : Builder} {token : Token} (h : b.add token = .ok b')
    (more : List Token) : b.addAll (token :: more) = b'.addAll more := by
  rw [addAll, h]
  rfl

theorem addAll_append_of_addAll {b b' : Builder} {tokens : List Token}
    (h : b.addAll tokens = .ok b') (more : List Token) :
    b.addAll (tokens ++ more) = b'.addAll more := by
  rw [addAll_append, h]
  rfl

end Builder

/-! ## Reading phrases -/

/-- The tokens stand for the symbols, one for one. -/
def Token.Reads (tokens : List Token) (symbols : List Symbol) : Prop :=
  tokens.map Token.symbol? = symbols.map some

namespace Token.Reads

variable {tokens : List Token} {symbol : Symbol} {symbols more : List Symbol}

theorem cons (h : Token.Reads tokens (symbol :: symbols)) :
    ∃ token rest, tokens = token :: rest ∧ token.symbol? = some symbol ∧
      Token.Reads rest symbols :=
  List.map_eq_cons_iff.1 h

theorem append (h : Token.Reads tokens (symbols ++ more)) :
    ∃ left right, tokens = left ++ right ∧ Token.Reads left symbols ∧ Token.Reads right more := by
  rw [Token.Reads, List.map_append] at h
  exact List.map_eq_append_iff.1 h

theorem nil (h : Token.Reads tokens []) : tokens = [] :=
  List.map_eq_nil_iff.1 h

end Token.Reads

namespace Builder

theorem add_literal (b : Builder) {token : Token} (h : token.kind = .literal) :
    b.add token = .ok (b.withBody (Phrase.addLiteral b.body token)) := by
  simp only [add, h, addLiteral_eq]

theorem add_directive (b : Builder) {token : Token} {directive : Directive}
    (h : token.symbol? = some (.directive directive)) :
    b.add token = b.addDirective token directive := by
  rw [Token.symbol?] at h
  rw [add]
  cases hkind : token.kind with
  | literal => simp [hkind] at h
  | directive =>
    rw [hkind] at h
    obtain ⟨d, hd, hsymbol⟩ := Option.map_eq_some_iff.1 h
    obtain rfl := Symbol.directive.inj hsymbol
    simp only [hd]

/-- A token that is added is a literal, or a directive that can be read. -/
theorem cases_add {b b' : Builder} {token : Token} (h : b.add token = .ok b') :
    (token.kind = .literal ∧ b' = b.withBody (Phrase.addLiteral b.body token)) ∨
      ∃ d, token.symbol? = some (.directive d) ∧ b.addDirective token d = .ok b' := by
  cases hkind : token.kind with
  | literal => exact .inl ⟨rfl, (Except.ok.inj ((b.add_literal hkind).symm.trans h)).symm⟩
  | directive =>
    simp only [add, hkind] at h
    split at h
    · next d hread => exact .inr ⟨d, by simp [Token.symbol?, hkind, hread], h⟩
    · cases h

/-- Reading the end of a block adds its node to the body around it. -/
theorem addAll_close (b : Builder) (block : OpenBlock) (line column : Nat) {tokens : List Token}
    (h : Token.Reads tokens [.directive .close]) :
    addAll { b with frames := { block := block, line := line, column := column } :: b.frames }
        tokens = .ok (b.withBody (b.body ++ [block.close])) := by
  obtain ⟨token, rest, rfl, htoken, hrest⟩ := h.cons
  rw [hrest.nil, addAll_cons_of_add (add_directive _ htoken)]
  rfl

end Builder

namespace Phrase

open Builder

mutual

theorem addAll_phrase :
    (phrase : Phrase) → (b : Builder) → (tokens : List Token) →
      Token.Reads tokens (symbolsOf phrase) →
      b.addAll tokens = .ok (b.withBody (addTo b.body phrase))
  | .literal token, b, tokens, h => by
    obtain ⟨token', rest, rfl, htoken, hrest⟩ := h.cons
    obtain ⟨hkind, rfl⟩ := Token.symbol?_eq_literal_iff.1 htoken
    rw [hrest.nil, addAll_cons_of_add (add_literal b hkind)]
    rfl
  | .clause kind body, b, tokens, h => by
    obtain ⟨token, rest, rfl, htoken, hrest⟩ := h.cons
    obtain ⟨inside, last, rfl, hinside, hlast⟩ := hrest.append
    rw [addAll_cons_of_add (add_directive b htoken),
      addAll_append_of_addAll (addAll_phrases body _ inside hinside)]
    exact addAll_close b (.clause kind (addAllTo [] body)) token.line token.column hlast
  | .loop header body, b, tokens, h => by
    obtain ⟨token, rest, rfl, htoken, hrest⟩ := h.cons
    obtain ⟨inside, last, rfl, hinside, hlast⟩ := hrest.append
    rw [addAll_cons_of_add (add_directive b htoken),
      addAll_append_of_addAll (addAll_phrases body _ inside hinside)]
    exact addAll_close b (.loop header (addAllTo [] body)) token.line token.column hlast
  | .cond condition body branches none, b, tokens, h => by
    obtain ⟨token, rest, rfl, htoken, hrest⟩ := h.cons
    obtain ⟨inside, rest, rfl, hinside, hrest⟩ := hrest.append
    obtain ⟨arms, last, rfl, harms, hlast⟩ := hrest.append
    obtain ⟨before, condition', nodes, hread, hbranches⟩ :=
      addAll_branches branches b token.line token.column [] condition (addAllTo [] body) arms harms
    rw [addAll_cons_of_add (add_directive b htoken),
      addAll_append_of_addAll (addAll_phrases body _ inside hinside)]
    refine (addAll_append_of_addAll hread last).trans ?_
    rw [addAll_close b _ token.line token.column hlast, OpenBlock.close, hbranches]
    rfl
  | .cond condition body branches (some other), b, tokens, h => by
    obtain ⟨token, rest, rfl, htoken, hrest⟩ := h.cons
    obtain ⟨inside, rest, rfl, hinside, hrest⟩ := hrest.append
    obtain ⟨arms, rest, rfl, harms, hrest⟩ := hrest.append
    obtain ⟨start, rest, rfl, hstart, hrest⟩ := hrest.cons
    obtain ⟨within, last, rfl, hwithin, hlast⟩ := hrest.append
    obtain ⟨before, condition', nodes, hread, hbranches⟩ :=
      addAll_branches branches b token.line token.column [] condition (addAllTo [] body) arms harms
    rw [addAll_cons_of_add (add_directive b htoken),
      addAll_append_of_addAll (addAll_phrases body _ inside hinside)]
    refine (addAll_append_of_addAll hread _).trans ?_
    rw [addAll_cons_of_add (add_directive _ hstart),
      addAll_append_of_addAll (addAll_phrases other _ within hwithin)]
    refine (addAll_close b (.otherwise _ (addAllTo [] other)) token.line token.column
      hlast).trans ?_
    rw [OpenBlock.close, hbranches]
    rfl

/-- Reading the tokens of phrases adds their nodes to the body that is read. -/
theorem addAll_phrases :
    (phrases : List Phrase) → (b : Builder) → (tokens : List Token) →
      Token.Reads tokens (symbols phrases) →
      b.addAll tokens = .ok (b.withBody (addAllTo b.body phrases))
  | [], b, tokens, h => by
    rw [h.nil, addAllTo, withBody_body]
    rfl
  | phrase :: phrases, b, tokens, h => by
    obtain ⟨left, right, rfl, hleft, hright⟩ := h.append
    rw [addAll_append_of_addAll (addAll_phrase phrase b left hleft),
      addAll_phrases phrases _ right hright, withBody_withBody, body_withBody, addAllTo]

/-- Reading the branches of a conditional after the one that is open. Each closes the
    branch that is open and is open itself then. -/
theorem addAll_branches :
    (branches : List PhraseBranch) → (b : Builder) → (line column : Nat) →
      (before : List Branch) → (condition : String) → (nodes : List Node) →
      (tokens : List Token) → Token.Reads tokens (branchSymbols branches) →
      ∃ before' condition' nodes',
        addAll { b with frames := ⟨.cond before condition nodes, line, column⟩ :: b.frames }
          tokens = .ok { b with frames :=
            ⟨.cond before' condition' nodes', line, column⟩ :: b.frames } ∧
        before' ++ [.mk condition' nodes'] = before ++ .mk condition nodes :: branchNodes branches
  | [], b, line, column, before, condition, nodes, tokens, h => by
    rw [h.nil]
    exact ⟨before, condition, nodes, rfl, rfl⟩
  | .mk next body :: branches, b, line, column, before, condition, nodes, tokens, h => by
    obtain ⟨token, rest, rfl, htoken, hrest⟩ := h.cons
    obtain ⟨inside, arms, rfl, hinside, harms⟩ := hrest.append
    obtain ⟨before', condition', nodes', hread, hbranches⟩ :=
      addAll_branches branches b line column (before ++ [.mk condition nodes]) next
        (addAllTo [] body) arms harms
    refine ⟨before', condition', nodes', ?_, ?_⟩
    · rw [addAll_cons_of_add (add_directive _ htoken),
        addAll_append_of_addAll (addAll_phrases body _ inside hinside)]
      exact hread
    · rw [hbranches, branchNodes, List.append_assoc]
      rfl

end

end Phrase

/-! ## Directives of trees -/

namespace Node

mutual

/-- The directives that a node is written with. -/
def directivesOf : Node → List Directive
  | text _ => []
  | clause kind body => .clause kind :: (directives body ++ [.close])
  | loop header body => .loop header :: (directives body ++ [.close])
  | cond branches none => branchDirectives true branches ++ [.close]
  | cond branches (some body) =>
    branchDirectives true branches ++ .otherwise :: (directives body ++ [.close])

/-- The directives that nodes are written with. -/
def directives : List Node → List Directive
  | [] => []
  | node :: nodes => directivesOf node ++ directives nodes

/-- The directives that the branches of a conditional are written with; `first`
    says that none comes before them. -/
def branchDirectives (first : Bool) : List Branch → List Directive
  | [] => []
  | .mk condition body :: branches =>
    (if first then .cond condition else .elseCond condition) ::
      (directives body ++ branchDirectives false branches)

end

theorem directives_append (nodes more : List Node) :
    directives (nodes ++ more) = directives nodes ++ directives more := by
  induction nodes with
  | nil => rfl
  | cons node nodes ih => rw [List.cons_append, directives, directives, ih, List.append_assoc]

theorem directives_singleton (node : Node) : directives [node] = directivesOf node := by
  rw [directives, directives, List.append_nil]

theorem directives_concat_text (nodes : List Node) (fragment : Fragment) :
    directives (nodes ++ [.text fragment]) = directives nodes := by
  rw [directives_append, directives_singleton, directivesOf, List.append_nil]

/-- A text that is added brings no directive. -/
theorem directives_addText (nodes : List Node) (text : String) (line : Nat) :
    directives (Builder.addText nodes text line) = directives nodes := by
  rcases Builder.addText_cases nodes text line with ⟨front, fragment, hnodes, hadd⟩ | ⟨_, hadd⟩
  · rw [hadd, hnodes, directives_concat_text, directives_concat_text]
  · rw [hadd, directives_concat_text]

end Node

namespace Phrase

open Node

mutual

theorem directives_addTo :
    (nodes : List Node) → (phrase : Phrase) →
      Node.directives (addTo nodes phrase) =
        Node.directives nodes ++ Symbol.directives (symbolsOf phrase)
  | nodes, .literal token => by
    rw [addTo, addLiteral]
    split
    · exact (List.append_nil _).symm
    · rw [directives_addText]
      exact (List.append_nil _).symm
  | nodes, .clause kind body => by
    rw [addTo, directives_append, directives_singleton, directivesOf, directives_addAllTo [] body,
      symbolsOf, Symbol.directives, Symbol.directives_append]
    rfl
  | nodes, .loop header body => by
    rw [addTo, directives_append, directives_singleton, directivesOf, directives_addAllTo [] body,
      symbolsOf, Symbol.directives, Symbol.directives_append]
    rfl
  | nodes, .cond condition body branches none => by
    rw [addTo, directives_append, directives_singleton, directivesOf, branchDirectives,
      directives_addAllTo [] body, branchDirectives_branchNodes branches, symbolsOf,
      Symbol.directives, Symbol.directives_append, Symbol.directives_append, if_pos rfl,
      List.cons_append, List.append_assoc]
    rfl
  | nodes, .cond condition body branches (some last) => by
    rw [addTo, directives_append, directives_singleton, directivesOf, branchDirectives,
      directives_addAllTo [] body, directives_addAllTo [] last,
      branchDirectives_branchNodes branches, symbolsOf, Symbol.directives,
      Symbol.directives_append, Symbol.directives_append, Symbol.directives,
      Symbol.directives_append, if_pos rfl, List.cons_append, List.append_assoc]
    rfl

theorem directives_addAllTo :
    (nodes : List Node) → (phrases : List Phrase) →
      Node.directives (addAllTo nodes phrases) =
        Node.directives nodes ++ Symbol.directives (symbols phrases)
  | nodes, [] => (List.append_nil _).symm
  | nodes, phrase :: phrases => by
    rw [addAllTo, directives_addAllTo (addTo nodes phrase) phrases, directives_addTo nodes phrase,
      symbols, Symbol.directives_append, List.append_assoc]

theorem branchDirectives_branchNodes :
    (branches : List PhraseBranch) →
      branchDirectives false (branchNodes branches) =
        Symbol.directives (branchSymbols branches)
  | [] => rfl
  | .mk condition body :: branches => by
    rw [branchNodes, branchDirectives, directives_addAllTo [] body,
      branchDirectives_branchNodes branches, branchSymbols, Symbol.directives,
      Symbol.directives_append]
    rfl

end

/-- The tree of phrases is written with the directives of the phrases. -/
theorem directives_nodes (phrases : List Phrase) :
    Node.directives (nodes phrases) = Symbol.directives (symbols phrases) :=
  directives_addAllTo [] phrases

end Phrase

end QueryTemplate
