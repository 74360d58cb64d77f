import QueryTemplate.Proofs.Evaluation
import QueryTemplate.Proofs.Items
import QueryTemplate.Proofs.Literals
import QueryTemplate.Proofs.Parsing
import QueryTemplate.Template

/-!
# Writing queries item by item

A query can be written item by item from the phrases of a template: a placeholder is
written as a marker, which carries the value that is bound at that very moment, and a
clause is finished on its items. Rendering keeps SQL and parameters apart, extracts
placeholders from joined texts and binds them text by text; it comes to the same.

* `Phrase.write`: the items of phrases;
* `eval_addAllTo`: evaluating the tree of phrases gives the query read off their items;
* `render_of_reads`: so does rendering a template.
-/

namespace QueryTemplate

variable {σ : Type}

/-! ## Writing items -/

/-- Writes the pieces of a literal, of which `index` placeholders are written already. -/
def Piece.write (scope : Scope σ) (token : Token) :
    (index : Nat) → List Piece → List (Item Value) → Rendering σ (List (Item Value))
  | _, [], items => pure items
  | index, char c :: pieces, items => write scope token index pieces (items ++ [.char c])
  | index, escape :: pieces, items => write scope token index pieces (items ++ [.char '@'])
  | index, bind b :: pieces, items => do
    let value ← scope.param b
    write scope token (index + 1) pieces (items ++ [.marker ⟨token, index⟩ b value])

namespace Phrase

/-- Whether the text of a body ends in a blank after a phrase, from whether it does
    before. -/
def endsBlank (blank : Bool) : Phrase → Bool
  | literal token => Piece.endsBlank blank (token.pieces blank)
  | _ => false

mutual

/-- Writes a phrase after the items so far; `blank` says whether the text of the body
    ends in a blank. -/
def writeOf (scope : Scope σ) :
    Phrase → (blank : Bool) → List (Item Value) → Rendering σ (List (Item Value))
  | literal token, blank, items => Piece.write scope token 0 (token.pieces blank) items
  | clause kind body, _, items => do
    let inside ← write scope body false []
    return Item.addClause items kind inside
  | loop header body, _, items => do
    let count ← scope.enterLoop header
    let items ← (List.range count).foldlM (fun items i => do
      scope.iteration header i
      write scope body false items) items
    modify (scope.exitLoop header)
    return items
  | cond condition body branches none, _, items => do
    if ← scope.condition condition then write scope body false items
    else writeBranches scope branches items (pure items)
  | cond condition body branches (some last), _, items => do
    if ← scope.condition condition then write scope body false items
    else writeBranches scope branches items (write scope last false items)

/-- Writes phrases after the items so far. -/
def write (scope : Scope σ) :
    List Phrase → (blank : Bool) → List (Item Value) → Rendering σ (List (Item Value))
  | [], _, items => pure items
  | phrase :: phrases, blank, items => do
    let items ← writeOf scope phrase blank items
    write scope phrases (phrase.endsBlank blank) items

/-- Writes the first of the branches whose condition holds; if there is none, the
    outcome is `otherwise`. -/
def writeBranches (scope : Scope σ) :
    List PhraseBranch → List (Item Value) → Rendering σ (List (Item Value)) →
      Rendering σ (List (Item Value))
  | [], _, otherwise => otherwise
  | .mk condition body :: branches, items, otherwise => do
    if ← scope.condition condition then write scope body false items
    else writeBranches scope branches items otherwise

end

end Phrase

/-! ## Evaluating texts -/

namespace Node

variable {scope : Scope σ}

theorem eval_append (nodes more : List Node) (out : Query Value) :
    eval scope (nodes ++ more) out = eval scope nodes out >>= eval scope more := by
  induction nodes generalizing out with
  | nil => rw [List.nil_append, eval, pure_bind]
  | cons node nodes ih =>
    rw [List.cons_append, eval, eval, bind_assoc]
    simp only [ih]

theorem eval_singleton (node : Node) (out : Query Value) :
    eval scope [node] out = evalOf scope node out := by
  rw [eval]
  simp only [eval, bind_pure]

/-- Two texts that make no escape together are evaluated one after the other. -/
theorem evalOf_text_append {sql sql' : String}
    (h : unescape (sql ++ sql') = unescape sql ++ unescape sql') (binds binds' : List Bind)
    (line line' : Nat) (out : Query Value) :
    evalOf scope (.text ⟨sql ++ sql', binds ++ binds', line⟩) out =
      evalOf scope (.text ⟨sql, binds, line⟩) out >>=
        evalOf scope (.text ⟨sql', binds', line'⟩) := by
  simp only [evalOf_text, h, List.mapM_append, bind_assoc, pure_bind, String.append_assoc,
    List.append_assoc]

theorem eval_concat_text_append {sql sql' : String}
    (h : unescape (sql ++ sql') = unescape sql ++ unescape sql') (front : List Node)
    (binds binds' : List Bind) (line line' : Nat) (out : Query Value) :
    eval scope (front ++ [.text ⟨sql ++ sql', binds ++ binds', line⟩]) out =
      eval scope (front ++ [.text ⟨sql, binds, line⟩] ++ [.text ⟨sql', binds', line'⟩]) out := by
  rw [List.append_assoc, eval_append, eval_append]
  refine bind_congr fun out => ?_
  rw [eval_singleton, List.singleton_append, eval, evalOf_text_append h binds binds' line line']
  simp only [eval_singleton]

end Node

/-- Writing pieces item by item gives their SQL, and the values of their placeholders
    bound one after the other. -/
theorem eval_pieces {scope : Scope σ} (token : Token) (index : Nat) (pieces : List Piece)
    (items : List (Item Value)) :
    (do
      let values ← (pieces.filterMap Piece.bind?).mapM scope.param
      return {
        sql := (Item.query items).sql ++ .ofList (pieces.map Piece.symbol)
        params := (Item.query items).params ++ values }) =
      Item.query <$> Piece.write scope token index pieces items := by
  induction pieces generalizing index items with
  | nil => simp [Piece.write]
  | cons piece pieces ih =>
    cases piece with
    | char c =>
      rw [Piece.write, ← ih, Item.sql_concat, Item.params_concat_char]
      rfl
    | escape =>
      rw [Piece.write, ← ih, Item.sql_concat, Item.params_concat_char]
      rfl
    | bind b =>
      -- The value goes to the parameters before those of the pieces that follow.
      rw [Piece.write, map_bind]
      simp only [← ih, Item.sql_concat, Item.params_concat_marker, List.append_assoc]
      have hbinds : (Piece.bind b :: pieces).filterMap Piece.bind? =
          b :: pieces.filterMap Piece.bind? := rfl
      rw [hbinds, List.mapM_cons, bind_assoc]
      simp only [bind_assoc, pure_bind]
      rfl

/-- Evaluating the text of a literal writes its pieces. -/
theorem evalOf_extract {scope : Scope σ} (token : Token) (blank : Bool) (line : Nat)
    (items : List (Item Value)) :
    Node.evalOf scope
        (.text ⟨(extract (token.joined blank)).sql, (extract (token.joined blank)).binds, line⟩)
        (Item.query items) =
      Item.query <$> Piece.write scope token 0 (token.pieces blank) items := by
  rw [Node.evalOf_text, unescape_extract, ← eval_pieces]
  rfl

/-! ## Evaluating phrases -/

section Phrases

open Phrase

variable {scope : Scope σ} {acc : List Node} {start : Query Value}
  {written : Rendering σ (List (Item Value))}

theorem eval_concat {node : Node} {next : List (Item Value) → Rendering σ (List (Item Value))}
    (h : Node.eval scope acc start = Item.query <$> written)
    (hnode : ∀ items, Node.evalOf scope node (Item.query items) = Item.query <$> next items) :
    Node.eval scope (acc ++ [node]) start = Item.query <$> (written >>= next) := by
  rw [Node.eval_append, h, map_bind, bind_map_left]
  refine bind_congr fun items => ?_
  rw [Node.eval_singleton, hnode]

/-- The body ends in a text only if the literal begins a line. -/
def Fits (acc : List Node) (token : Token) : Prop :=
  ∀ front fragment, acc = front ++ [.text fragment] → token.lineStart

theorem pieces_eq_nil {token : Token} {blank : Bool} (h : (token.joined blank).isEmpty) :
    token.pieces blank = [] := by
  rw [Token.pieces, Piece.scan_eq_nil_iff, String.isEmpty_iff.1 h]
  rfl

/-- Evaluating a body with a literal added writes its pieces. -/
theorem eval_addLiteral {token : Token} (hfits : Fits acc token)
    (h : Node.eval scope acc start = Item.query <$> written) :
    Node.eval scope (addLiteral acc token) start =
      Item.query <$>
        (written >>= Piece.write scope token 0 (token.pieces (Builder.endsBlank acc))) := by
  rw [addLiteral, addedText_eq]
  split
  · next hempty =>
    have hwrite : Piece.write scope token 0 [] = pure := rfl
    rw [pieces_eq_nil hempty, hwrite, bind_pure, h]
  · rcases Builder.addText_cases acc (token.joined (Builder.endsBlank acc)) token.line with
      ⟨front, fragment, rfl, hadd⟩ | ⟨_, hadd⟩
    · -- The literal joins a text. It begins a line then, and makes no escape with it.
      rw [hadd, endsBlank_concat_text] at *
      have hescape := unescape_append_joined fragment.sql (hfits front fragment rfl)
      rw [Node.eval_concat_text_append hescape front _ _ _ token.line]
      exact eval_concat h fun items => evalOf_extract token _ _ items
    · rw [hadd]
      exact eval_concat h fun items => evalOf_extract token _ _ items

theorem endsBlank_addLiteral (acc : List Node) (token : Token) :
    Builder.endsBlank (addLiteral acc token) =
      Piece.endsBlank (Builder.endsBlank acc) (token.pieces (Builder.endsBlank acc)) := by
  rw [addLiteral, addedText_eq]
  split
  · next hempty =>
    rw [pieces_eq_nil hempty]
    rfl
  · next hempty =>
    have hne : (token.joined (Builder.endsBlank acc)).toList ≠ [] := by
      simpa [String.isEmpty_iff] using hempty
    rcases Builder.addText_cases acc (token.joined (Builder.endsBlank acc)) token.line with
      ⟨front, fragment, hacc, hadd⟩ | ⟨hacc, hadd⟩
    · rw [hadd, endsBlank_concat_text, extract, endsBlank_sql_scan fragment.sql hne, Token.pieces]
      rw [hacc, endsBlank_concat_text]
    · have hsql := endsBlank_sql_scan "" hne
      rw [String.empty_append] at hsql
      rw [hadd, endsBlank_concat_text, extract, hsql, Token.pieces,
        endsBlank_of_ne_concat_text hacc]
      rfl

/-- A block does not end in a text. -/
theorem addTo_ne_concat_text {phrase : Phrase} (h : ∀ token, phrase ≠ .literal token)
    (front : List Node) (fragment : Fragment) : addTo acc phrase ≠ front ++ [.text fragment] := by
  match phrase, h with
  | .literal token, h => exact absurd rfl (h token)
  | .clause _ _, _ | .loop _ _, _ | .cond _ _ _ none, _ | .cond _ _ _ (some _), _ =>
    rw [addTo]
    exact fun heq => nomatch List.append_inj_right' heq rfl

theorem endsBlank_addTo (acc : List Node) (phrase : Phrase) :
    Builder.endsBlank (addTo acc phrase) = phrase.endsBlank (Builder.endsBlank acc) := by
  match phrase with
  | .literal token =>
    rw [addTo]
    exact endsBlank_addLiteral acc token
  | .clause _ _ | .loop _ _ | .cond _ _ _ none | .cond _ _ _ (some _) =>
    exact endsBlank_of_ne_concat_text (addTo_ne_concat_text (by simp))

theorem fits_nil (token : Token) : Fits [] token :=
  fun _ _ h => by simp at h

/-- The next literal fits after a phrase: either a block comes before it, or it begins
    a line. -/
theorem fits_addTo {phrase : Phrase} {token : Token} {rest : List Phrase}
    (h : (symbols (phrase :: .literal token :: rest)).IsChain Symbol.Seam) :
    Fits (addTo acc phrase) token := by
  match phrase, h with
  | .literal before, h => exact fun _ _ _ => (List.isChain_cons_cons.1 h).1
  | .clause _ _, _ | .loop _ _, _ | .cond _ _ _ none, _ | .cond _ _ _ (some _), _ =>
    intro front fragment hacc
    exact absurd hacc (addTo_ne_concat_text (by simp) front fragment)

/-- The body of a block starts without nodes, so that every literal fits there. -/
theorem eval_body {phrases : List Phrase}
    (h : ∀ start written, (∀ token rest, phrases = .literal token :: rest → Fits [] token) →
      Node.eval scope [] start = Item.query <$> written →
      Node.eval scope (addAllTo [] phrases) start =
        Item.query <$> (written >>= write scope phrases (Builder.endsBlank [])))
    (items : List (Item Value)) :
    Node.eval scope (addAllTo [] phrases) (Item.query items) =
      Item.query <$> write scope phrases false items := by
  have hitems := h (Item.query items) (pure items) (fun token _ _ => fits_nil token)
    (map_pure ..).symm
  rwa [pure_bind] at hitems

theorem ite_query (taken : Rendering σ Bool) (x y : Rendering σ (List (Item Value))) :
    (do if ← taken then Item.query <$> x else Item.query <$> y) =
      Item.query <$> (do if ← taken then x else y) := by
  rw [map_bind]
  refine bind_congr fun b => ?_
  cases b with
  | true => rfl
  | false => rfl

theorem foldlM_query (header : String) {body : Query Value → Rendering σ (Query Value)}
    {next : List (Item Value) → Rendering σ (List (Item Value))}
    (h : ∀ items, body (Item.query items) = Item.query <$> next items)
    (l : List Nat) (items : List (Item Value)) :
    l.foldlM (fun out i => do
        scope.iteration header i
        body out) (Item.query items) =
      Item.query <$> l.foldlM (fun items i => do
        scope.iteration header i
        next items) items := by
  induction l generalizing items with
  | nil => exact (map_pure ..).symm
  | cons i l ih =>
    rw [List.foldlM_cons, List.foldlM_cons, h, bind_assoc, bind_assoc, map_bind]
    simp only [bind_map_left, map_bind, ih]

mutual

theorem eval_addTo :
    (phrase : Phrase) → (acc : List Node) → (start : Query Value) →
      (written : Rendering σ (List (Item Value))) → (symbolsOf phrase).IsChain Symbol.Seam →
      (∀ token, phrase = .literal token → Fits acc token) →
      Node.eval scope acc start = Item.query <$> written →
      Node.eval scope (addTo acc phrase) start =
        Item.query <$> (written >>= writeOf scope phrase (Builder.endsBlank acc))
  | .literal token, acc, start, written, _, hfits, h => by
    rw [addTo]
    exact eval_addLiteral (hfits token rfl) h
  | .clause kind body, acc, start, written, hchain, _, h => by
    -- The clause is written apart, from no items on.
    have hinside := (List.isChain_append.1 (List.isChain_cons.1 hchain).2).1
    have hbody := eval_body fun start written => eval_addAllTo body [] start written hinside
    rw [addTo]
    refine eval_concat h fun items => ?_
    have hempty : ({} : Query Value) = Item.query [] := rfl
    rw [Node.evalOf, writeOf, hempty, hbody, map_bind, bind_map_left]
    simp only [← Item.query_addClause, map_pure]
  | .loop header body, acc, start, written, hchain, _, h => by
    have hinside := (List.isChain_append.1 (List.isChain_cons.1 hchain).2).1
    have hbody := eval_body fun start written => eval_addAllTo body [] start written hinside
    rw [addTo]
    refine eval_concat h fun items => ?_
    rw [Node.evalOf, writeOf]
    simp only [foldlM_query header hbody, map_bind, bind_map_left, map_pure]
  | .cond condition body branches none, acc, start, written, hchain, _, h => by
    have hchains := List.isChain_append.1 (List.isChain_cons.1 hchain).2
    have hbody := eval_body fun start written => eval_addAllTo body [] start written hchains.1
    have hbranches := evalBranches_branchNodes branches (List.isChain_append.1 hchains.2.1).1
    rw [addTo]
    refine eval_concat h fun items => ?_
    rw [Node.evalOf, Node.evalBranches, writeOf, hbody, ← map_pure, hbranches]
    exact ite_query ..
  | .cond condition body branches (some last), acc, start, written, hchain, _, h => by
    have hchains := List.isChain_append.1 (List.isChain_cons.1 hchain).2
    have hbody := eval_body fun start written => eval_addAllTo body [] start written hchains.1
    have hbranches := evalBranches_branchNodes branches (List.isChain_append.1 hchains.2.1).1
    have hrest := (List.isChain_cons.1 (List.isChain_append.1 hchains.2.1).2.1).2
    have hlast := eval_body fun start written =>
      eval_addAllTo last [] start written (List.isChain_append.1 hrest).1
    rw [addTo]
    refine eval_concat h fun items => ?_
    rw [Node.evalOf, Node.evalBranches, writeOf, hbody, hlast, hbranches]
    exact ite_query ..

theorem eval_addAllTo :
    (phrases : List Phrase) → (acc : List Node) → (start : Query Value) →
      (written : Rendering σ (List (Item Value))) → (symbols phrases).IsChain Symbol.Seam →
      (∀ token rest, phrases = .literal token :: rest → Fits acc token) →
      Node.eval scope acc start = Item.query <$> written →
      Node.eval scope (addAllTo acc phrases) start =
        Item.query <$> (written >>= write scope phrases (Builder.endsBlank acc))
  | [], acc, start, written, _, _, h => by
    have hwrite : write scope [] (Builder.endsBlank acc) = pure := rfl
    rw [addAllTo, hwrite, bind_pure, h]
  | phrase :: phrases, acc, start, written, hchain, hfits, h => by
    have hchains := List.isChain_append.1 hchain
    have hphrase := eval_addTo phrase acc start written hchains.1
      (fun token htoken => hfits token phrases (htoken ▸ rfl)) h
    rw [addAllTo, eval_addAllTo phrases (addTo acc phrase) start _ hchains.2.1 ?_ hphrase,
      endsBlank_addTo, bind_assoc]
    · rfl
    · rintro token rest rfl
      exact fits_addTo hchain

theorem evalBranches_branchNodes :
    (branches : List PhraseBranch) → (branchSymbols branches).IsChain Symbol.Seam →
      (items : List (Item Value)) → (otherwise : Rendering σ (List (Item Value))) →
      Node.evalBranches scope (branchNodes branches) (Item.query items) (Item.query <$> otherwise) =
        Item.query <$> writeBranches scope branches items otherwise
  | [], _, _, _ => rfl
  | .mk condition body :: branches, hchain, items, otherwise => by
    have hchains := List.isChain_append.1 (List.isChain_cons.1 hchain).2
    have hbody := eval_body fun start written => eval_addAllTo body [] start written hchains.1
    rw [branchNodes, Node.evalBranches, writeBranches, hbody,
      evalBranches_branchNodes branches hchains.2.1]
    exact ite_query ..

end

end Phrases

/-! ## Rendering templates -/

namespace Node

theorem proper_append {nodes more : List Node} (h : Proper nodes) (h' : Proper more) :
    Proper (nodes ++ more) := by
  induction nodes with
  | nil => exact h'
  | cons node nodes ih => exact ⟨h.1, ih h.2⟩

theorem proper_left {nodes more : List Node} (h : Proper (nodes ++ more)) : Proper nodes := by
  induction nodes with
  | nil => trivial
  | cons node nodes ih => exact ⟨h.1, ih h.2⟩

end Node

namespace Phrase

open Node

theorem proper_addLiteral {acc : List Node} (h : Proper acc) (token : Token) :
    Proper (addLiteral acc token) := by
  rw [addLiteral]
  split
  · exact h
  · rcases Builder.addText_cases acc (Builder.addedText acc token) token.line with
      ⟨front, fragment, rfl, hadd⟩ | ⟨_, hadd⟩
    · rw [hadd]
      exact proper_append (proper_left h) ⟨trivial, trivial⟩
    · rw [hadd]
      exact proper_append h ⟨trivial, trivial⟩

mutual

theorem proper_addTo :
    (phrase : Phrase) → (acc : List Node) → Proper acc → Proper (addTo acc phrase)
  | .literal token, _, h => by
    rw [addTo]
    exact proper_addLiteral h token
  | .clause kind body, _, h => by
    rw [addTo]
    exact proper_append h ⟨proper_addAllTo body [] trivial, trivial⟩
  | .loop header body, _, h => by
    rw [addTo]
    exact proper_append h ⟨proper_addAllTo body [] trivial, trivial⟩
  | .cond condition body branches none, _, h => by
    rw [addTo]
    exact proper_append h ⟨⟨List.cons_ne_nil _ _, proper_addAllTo body [] trivial,
      properBranches_branchNodes branches⟩, trivial⟩
  | .cond condition body branches (some last), _, h => by
    rw [addTo]
    exact proper_append h ⟨⟨List.cons_ne_nil _ _, ⟨proper_addAllTo body [] trivial,
      properBranches_branchNodes branches⟩, proper_addAllTo last [] trivial⟩, trivial⟩

/-- Every conditional of a tree of phrases has a branch. -/
theorem proper_addAllTo :
    (phrases : List Phrase) → (acc : List Node) → Proper acc → Proper (addAllTo acc phrases)
  | [], _, h => by rwa [addAllTo]
  | phrase :: phrases, acc, h => by
    rw [addAllTo]
    exact proper_addAllTo phrases _ (proper_addTo phrase acc h)

theorem properBranches_branchNodes :
    (branches : List PhraseBranch) → ProperBranches (branchNodes branches)
  | [] => trivial
  | .mk _ body :: branches =>
    ⟨proper_addAllTo body [] trivial, properBranches_branchNodes branches⟩

end

/-- The items of phrases. -/
def items (scope : Scope σ) (phrases : List Phrase) : Rendering σ (List (Item Value)) :=
  write scope phrases false []

end Phrase

/-- The tokens of a template that can be compiled are read as phrases. -/
theorem exists_reads_of_compile {source : String} {settings : Settings} {t : Template}
    (h : Template.compile source settings = .ok t) :
    ∃ tokens phrases, Token.ofTemplate source = .ok tokens ∧
      Token.Reads tokens (Phrase.symbols phrases) := by
  obtain ⟨nodes, hnodes, _⟩ := Except.exists_of_bind h
  obtain ⟨tokens, phrases, htokens, hreads, _⟩ := exists_of_ofTemplate hnodes
  exact ⟨tokens, phrases, htokens, hreads⟩

/-- A template is rendered to what is read off the items of the phrases that its tokens are
    read as. -/
theorem render_of_reads {source : String} {settings : Settings} {t : Template}
    {tokens : List Token} {phrases : List Phrase} (h : Template.compile source settings = .ok t)
    (htokens : Token.ofTemplate source = .ok tokens)
    (hreads : Token.Reads tokens (Phrase.symbols phrases)) (scope : Scope σ) :
    t.render scope = Item.query <$> Phrase.items scope phrases := by
  obtain ⟨nodes, hnodes, h⟩ := Except.exists_of_bind h
  obtain rfl := Except.ok.inj h
  have hok : Node.ofTemplate source = .ok (Phrase.nodes phrases) :=
    ofTemplate_of_addAll htokens (Phrase.addAll_phrases phrases {} tokens hreads)
  obtain rfl := Except.ok.inj (hok.symm.trans hnodes)
  have hchain := hreads.chain (Token.chain_ofTemplate htokens)
  refine (render_ofNodes _ (Phrase.proper_addAllTo phrases [] trivial)).trans ?_
  exact eval_body (fun start written => eval_addAllTo phrases [] start written hchain) []

theorem render_eq_items {source : String} {settings : Settings} {t : Template}
    (h : Template.compile source settings = .ok t) :
    ∃ tokens phrases, Token.ofTemplate source = .ok tokens ∧
      Token.Reads tokens (Phrase.symbols phrases) ∧
      ∀ {σ : Type} (scope : Scope σ),
        t.render scope = Item.query <$> Phrase.items scope phrases := by
  obtain ⟨tokens, phrases, htokens, hreads⟩ := exists_reads_of_compile h
  exact ⟨tokens, phrases, htokens, hreads, render_of_reads h htokens hreads⟩

end QueryTemplate
