import QueryTemplate.Proofs.Writing

/-!
# Relating renderings

Two scopes may answer alike, in one sense or another. A correspondence says when
computations over the states of two scopes are alike, and is kept by putting
computations together. If it holds between what two scopes answer, it holds between
what is written with them, as nothing else has an effect: the items are the same up
to the values, which are only carried along.

* `Correspondence`: a relation of computations, kept by sequencing;
* `Correspondence.Scopes`: scopes whose answers correspond;
* `Item.From`: an item comes from the literals of a template;
* `Correspondence.Scopes.write`: the items written with corresponding scopes
  correspond, and come from the literals that they are written for.
-/

namespace QueryTemplate

variable {σ τ β : Type}

namespace Rendering

variable {α α' : Type} {x : Rendering σ α} {f : α → Rendering σ α'} {s s' : σ}

theorem bind_ok {a : α} (h : x s = .ok a s') : (x >>= f) s = f a s' := by
  change EStateM.bind x f s = _
  rw [EStateM.bind, h]

theorem bind_error {e : RenderError} (h : x s = .error e s') : (x >>= f) s = .error e s' := by
  change EStateM.bind x f s = _
  rw [EStateM.bind, h]

theorem map_ok {g : α → α'} {a : α} (h : x s = .ok a s') : (g <$> x) s = .ok (g a) s' := by
  rw [map_eq_pure_bind, bind_ok h]
  rfl

theorem exists_of_map {g : α → α'} {b : α'} (h : (g <$> x) s = .ok b s') :
    ∃ a, x s = .ok a s' ∧ b = g a := by
  rw [map_eq_pure_bind] at h
  cases hx : x s with
  | error e s'' => cases (bind_error hx).symm.trans h
  | ok a s'' =>
    cases (bind_ok hx).symm.trans h
    exact ⟨a, rfl, rfl⟩

end Rendering

open Rendering

/-- A relation between computations over two states, kept by putting them together. -/
structure Correspondence (σ τ : Type) where
  /-- The computations correspond, and their results are related. -/
  rel : {α β : Type} → (α → β → Prop) → Rendering σ α → Rendering τ β → Prop
  /-- Results without an effect correspond. -/
  pure {α β : Type} {R : α → β → Prop} {a : α} {b : β} : R a b → rel R (pure a) (pure b)
  /-- Corresponding computations one after the other correspond. -/
  bind {α β α' β' : Type} {R : α → β → Prop} {S : α' → β' → Prop} {x : Rendering σ α}
    {y : Rendering τ β} {f : α → Rendering σ α'} {g : β → Rendering τ β'} :
    rel R x y → (∀ a b, R a b → rel S (f a) (g b)) → rel S (x >>= f) (y >>= g)

/-- An item comes from the tokens: a marker from a placeholder of a literal among them,
    and a `?` that is no marker from the text of one. -/
def Item.From {α : Type} (tokens : List Token) : Item α → Prop
  | char c => c = '?' → ∃ token ∈ tokens, token.kind = .literal ∧ '?' ∈ token.text.toList
  | marker origin bind _ => origin.token ∈ tokens ∧ origin.token.kind = .literal ∧
    (extract origin.token.text).binds[origin.index]? = some bind

/-- Tokens stand for literal symbols that they are. -/
theorem Token.Reads.mem_of_literal {tokens : List Token} {symbols : List Symbol} {token : Token}
    (h : Token.Reads tokens symbols) (hmem : .literal token ∈ symbols) :
    token ∈ tokens ∧ token.kind = .literal := by
  have hsome : some (.literal token) ∈ tokens.map Token.symbol? := by
    rw [h]
    exact List.mem_map.2 ⟨_, hmem, rfl⟩
  obtain ⟨token', htoken', hsymbol⟩ := List.mem_map.1 hsome
  obtain ⟨hkind, rfl⟩ := Token.symbol?_eq_literal_iff.1 hsymbol
  exact ⟨htoken', hkind⟩

/-- The items are the same up to what `f` forgets of their values, and come from the
    tokens. -/
def Item.Alike (tokens : List Token) (f : Value → β) (items items' : List (Item Value)) : Prop :=
  items.map (Item.map f) = items'.map (Item.map f) ∧ ∀ item ∈ items, item.From tokens

namespace Item.Alike

variable {tokens : List Token} {f : Value → β} {items items' : List (Item Value)}

theorem nil : Alike tokens f [] [] :=
  ⟨rfl, by simp⟩

theorem concat {item item' : Item Value} (h : Alike tokens f items items')
    (hitem : item.map f = item'.map f) (hfrom : item.From tokens) :
    Alike tokens f (items ++ [item]) (items' ++ [item']) := by
  refine ⟨?_, ?_⟩
  · rw [List.map_append, List.map_append, h.1]
    exact congrArg (_ ++ [·]) hitem
  · intro item₁ hmem
    rcases List.mem_append.1 hmem with hmem | hmem
    · exact h.2 item₁ hmem
    · rwa [List.mem_singleton.1 hmem]

theorem addClause {inside inside' : List (Item Value)} (h : Alike tokens f items items')
    (kind : ClauseKind) (hinside : Alike tokens f inside inside') :
    Alike tokens f (Item.addClause items kind inside) (Item.addClause items' kind inside') := by
  refine ⟨?_, ?_⟩
  · rw [← addClause_map, ← addClause_map, h.1, hinside.1]
  · intro item hitem
    rcases mem_addClause hitem with hitem | hitem | ⟨c, hc, rfl⟩
    · exact h.2 item hitem
    · exact hinside.2 item hitem
    · exact fun hq => absurd hq hc

end Item.Alike

namespace Correspondence

variable (L : Correspondence σ τ) {scope : Scope σ} {scope' : Scope τ} {tokens : List Token}
  {f : Value → β}

theorem mono {α α' : Type} {R S : α → α' → Prop} {x : Rendering σ α} {y : Rendering τ α'}
    (h : L.rel R x y) (hRS : ∀ a b, R a b → S a b) : L.rel S x y := by
  have hbind := L.bind h fun a b hab => L.pure (hRS a b hab)
  rwa [bind_pure, bind_pure] at hbind

theorem ite {α α' : Type} {R : α → α' → Prop} {taken taken' : Bool} (htaken : taken = taken')
    {x y : Rendering σ α} {x' y' : Rendering τ α'} (hx : L.rel R x x') (hy : L.rel R y y') :
    L.rel R (if taken then x else y) (if taken' then x' else y') := by
  obtain rfl := htaken
  cases taken with
  | true => exact hx
  | false => exact hy

/-- The answers of the scopes correspond; values may differ in what `f` forgets. -/
structure Scopes (f : Value → β) (scope : Scope σ) (scope' : Scope τ) : Prop where
  condition (condition : String) : L.rel Eq (scope.condition condition) (scope'.condition condition)
  enterLoop (header : String) : L.rel Eq (scope.enterLoop header) (scope'.enterLoop header)
  iteration (header : String) (i : Nat) :
    L.rel (fun _ _ => True) (scope.iteration header i) (scope'.iteration header i)
  exitLoop (header : String) :
    L.rel (fun _ _ => True) (modify (scope.exitLoop header)) (modify (scope'.exitLoop header))
  value (expr : String) :
    L.rel (fun v v' => f v = f v' ∧ f v.toRaw = f v'.toRaw) (scope.value expr) (scope'.value expr)

variable {L}

namespace Scopes

theorem param (h : L.Scopes f scope scope') (b : Bind) :
    L.rel (fun v v' => f v = f v') (scope.param b) (scope'.param b) := by
  cases b with
  | table => exact L.pure rfl
  | raw expr => exact L.bind (h.value expr) fun v v' hv => L.pure hv.2
  | value expr => exact L.mono (h.value expr) fun v v' hv => hv.1

/-- Writing the pieces of a literal: the placeholders from `index` on. -/
theorem writePieces (h : L.Scopes f scope scope') {token : Token} (htoken : token ∈ tokens)
    (hkind : token.kind = .literal) {pieces : List Piece} {index : Nat}
    {items items' : List (Item Value)}
    (hbinds : (extract token.text).binds.drop index = pieces.filterMap Piece.bind?)
    (hchars : .char '?' ∈ pieces → '?' ∈ token.text.toList)
    (hitems : Item.Alike tokens f items items') :
    L.rel (Item.Alike tokens f) (Piece.write scope token index pieces items)
      (Piece.write scope' token index pieces items') := by
  induction pieces generalizing index items items' with
  | nil => exact L.pure hitems
  | cons piece pieces ih =>
    have hrest (hmem : .char '?' ∈ pieces) : '?' ∈ token.text.toList :=
      hchars (List.mem_cons_of_mem _ hmem)
    cases piece with
    | char c =>
      refine ih hbinds hrest (hitems.concat rfl ?_)
      rintro rfl
      exact ⟨token, htoken, hkind, hchars List.mem_cons_self⟩
    | escape => exact ih hbinds hrest (hitems.concat rfl nofun)
    | bind b =>
      -- The placeholder is the one with the number `index` in the literal.
      have hbinds' : (extract token.text).binds.drop index =
          b :: pieces.filterMap Piece.bind? := hbinds
      have hb : (extract token.text).binds[index]? = some b := by
        rw [← List.head?_drop, hbinds']
        rfl
      have hnext : (extract token.text).binds.drop (index + 1) = pieces.filterMap Piece.bind? := by
        rw [← List.tail_drop, hbinds']
        rfl
      refine L.bind (h.param b) fun v v' hv => ih hnext hrest (hitems.concat ?_ ⟨htoken, hkind, hb⟩)
      exact congrArg (Item.marker _ b) hv

theorem foldlM (h : L.Scopes f scope scope')
    {body : List (Item Value) → Rendering σ (List (Item Value))}
    {body' : List (Item Value) → Rendering τ (List (Item Value))} (header : String)
    (hbody : ∀ items items', Item.Alike tokens f items items' →
      L.rel (Item.Alike tokens f) (body items) (body' items'))
    (l : List Nat) {items items' : List (Item Value)} (hitems : Item.Alike tokens f items items') :
    L.rel (Item.Alike tokens f)
      (l.foldlM (fun items i => do
        scope.iteration header i
        body items) items)
      (l.foldlM (fun items i => do
        scope'.iteration header i
        body' items) items') := by
  induction l generalizing items items' with
  | nil => exact L.pure hitems
  | cons i l ih =>
    rw [List.foldlM_cons, List.foldlM_cons]
    refine L.bind (L.bind (h.iteration header i) fun _ _ _ => hbody items items' hitems) ?_
    exact fun items items' hitems => ih hitems

mutual

theorem writeOf (h : L.Scopes f scope scope') :
    (phrase : Phrase) →
      (∀ token, .literal token ∈ Phrase.symbolsOf phrase → token ∈ tokens ∧ token.kind = .literal) →
      (blank : Bool) → (items items' : List (Item Value)) → Item.Alike tokens f items items' →
      L.rel (Item.Alike tokens f) (Phrase.writeOf scope phrase blank items)
        (Phrase.writeOf scope' phrase blank items')
  | .literal token, hmem, blank, items, items', hitems => by
    obtain ⟨htoken, hkind⟩ := hmem token (by simp [Phrase.symbolsOf])
    rw [Phrase.writeOf, Phrase.writeOf]
    exact h.writePieces htoken hkind (binds_pieces token blank).symm
      (fun hq => mem_text_of_mem_pieces hq (by decide)) hitems
  | .clause kind body, hmem, blank, items, items', hitems => by
    rw [Phrase.writeOf, Phrase.writeOf]
    refine L.bind (write h body (fun token ht => hmem token ?_) false [] [] .nil) ?_
    · simp [Phrase.symbolsOf, ht]
    · exact fun inside inside' hinside => L.pure (hitems.addClause kind hinside)
  | .loop header body, hmem, blank, items, items', hitems => by
    have hbody := write h body fun token ht => hmem token (by simp [Phrase.symbolsOf, ht])
    rw [Phrase.writeOf, Phrase.writeOf]
    refine L.bind (h.enterLoop header) ?_
    rintro count _ rfl
    refine L.bind (h.foldlM header (hbody false) _ hitems) fun items items' hitems => ?_
    exact L.bind (h.exitLoop header) fun _ _ _ => L.pure hitems
  | .cond condition body branches none, hmem, blank, items, items', hitems => by
    have hbody := write h body fun token ht => hmem token (by simp [Phrase.symbolsOf, ht])
    have hbranches := writeBranches h branches fun token ht =>
      hmem token (by simp [Phrase.symbolsOf, ht])
    rw [Phrase.writeOf, Phrase.writeOf]
    exact L.bind (h.condition condition) fun taken taken' htaken =>
      L.ite htaken (hbody false items items' hitems) (hbranches items items' hitems (L.pure hitems))
  | .cond condition body branches (some last), hmem, blank, items, items', hitems => by
    have hbody := write h body fun token ht => hmem token (by simp [Phrase.symbolsOf, ht])
    have hbranches := writeBranches h branches fun token ht =>
      hmem token (by simp [Phrase.symbolsOf, ht])
    have hlast := write h last fun token ht => hmem token (by simp [Phrase.symbolsOf, ht])
    rw [Phrase.writeOf, Phrase.writeOf]
    exact L.bind (h.condition condition) fun taken taken' htaken =>
      L.ite htaken (hbody false items items' hitems)
        (hbranches items items' hitems (hlast false items items' hitems))

/-- What is written with corresponding scopes corresponds. -/
theorem write (h : L.Scopes f scope scope') :
    (phrases : List Phrase) →
      (∀ token, .literal token ∈ Phrase.symbols phrases → token ∈ tokens ∧ token.kind = .literal) →
      (blank : Bool) → (items items' : List (Item Value)) → Item.Alike tokens f items items' →
      L.rel (Item.Alike tokens f) (Phrase.write scope phrases blank items)
        (Phrase.write scope' phrases blank items')
  | [], _, _, _, _, hitems => by
    rw [Phrase.write, Phrase.write]
    exact L.pure hitems
  | phrase :: phrases, hmem, blank, items, items', hitems => by
    have hphrase := writeOf h phrase fun token ht => hmem token (by simp [Phrase.symbols, ht])
    have hphrases := write h phrases fun token ht => hmem token (by simp [Phrase.symbols, ht])
    rw [Phrase.write, Phrase.write]
    exact L.bind (hphrase blank items items' hitems) (hphrases _)

theorem writeBranches (h : L.Scopes f scope scope') :
    (branches : List PhraseBranch) →
      (∀ token, .literal token ∈ Phrase.branchSymbols branches →
        token ∈ tokens ∧ token.kind = .literal) →
      (items items' : List (Item Value)) → Item.Alike tokens f items items' →
      {otherwise : Rendering σ (List (Item Value))} →
      {otherwise' : Rendering τ (List (Item Value))} →
      L.rel (Item.Alike tokens f) otherwise otherwise' →
      L.rel (Item.Alike tokens f) (Phrase.writeBranches scope branches items otherwise)
        (Phrase.writeBranches scope' branches items' otherwise')
  | [], _, _, _, _, _, _, hotherwise => by
    rw [Phrase.writeBranches, Phrase.writeBranches]
    exact hotherwise
  | .mk condition body :: branches, hmem, items, items', hitems, _, _, hotherwise => by
    have hbody := write h body fun token ht => hmem token (by simp [Phrase.branchSymbols, ht])
    have hbranches := writeBranches h branches fun token ht =>
      hmem token (by simp [Phrase.branchSymbols, ht])
    rw [Phrase.writeBranches, Phrase.writeBranches]
    exact L.bind (h.condition condition) fun taken taken' htaken =>
      L.ite htaken (hbody false items items' hitems) (hbranches items items' hitems hotherwise)

end

end Scopes

/-! ## Recorded calls -/

/-- A computation and the same one with a record of calls. -/
def recorded : Correspondence σ (σ × List Call) where
  rel R x y := ∀ s calls, ∃ more,
    match x s with
    | .ok a s' => ∃ b, y (s, calls) = .ok b (s', calls ++ more) ∧ R a b
    | .error e s' => y (s, calls) = .error e (s', calls ++ more)
  pure {_ _ _ _ b} h s calls := ⟨[], b, by rw [List.append_nil]; rfl, h⟩
  bind := by
    intro α β α' β' R S x y f g hxy hfg s calls
    obtain ⟨more, hmore⟩ := hxy s calls
    cases hx : x s with
    | error e s' =>
      rw [hx] at hmore
      exact ⟨more, by rw [bind_error hx, bind_error hmore]⟩
    | ok a s' =>
      rw [hx] at hmore
      obtain ⟨b, hy, hab⟩ := hmore
      obtain ⟨more', hmore'⟩ := hfg a b hab s' (calls ++ more)
      refine ⟨more ++ more', ?_⟩
      rw [bind_ok hx, bind_ok hy, ← List.append_assoc]
      exact hmore'

theorem recorded_recordAs {α : Type} (call : Except RenderError α → Call) (x : Rendering σ α) :
    recorded.rel Eq x (recordAs call x) := by
  intro s calls
  cases hx : x s with
  | ok a s' => exact ⟨[call (.ok a)], a, by rw [recordAs, hx], rfl⟩
  | error e s' => exact ⟨[call (.error e)], by rw [recordAs, hx]⟩

theorem scopes_recorded (scope : Scope σ) : recorded.Scopes id scope scope.recorded where
  condition _ := recorded_recordAs _ _
  enterLoop _ := recorded_recordAs _ _
  iteration _ _ := recorded.mono (recorded_recordAs _ _) fun _ _ _ => trivial
  exitLoop header _ _ := ⟨[.exitLoop header], (), rfl, trivial⟩
  value _ := recorded.mono (recorded_recordAs _ _) fun _ _ hv => ⟨hv, congrArg Value.toRaw hv⟩

end Correspondence

/-- The items of phrases come from the tokens that are read as these. -/
theorem from_of_items {tokens : List Token} {phrases : List Phrase}
    (hreads : Token.Reads tokens (Phrase.symbols phrases)) {scope : Scope σ} {s s' : σ}
    {items : List (Item Value)} (h : Phrase.items scope phrases s = .ok items s') :
    ∀ item ∈ items, item.From tokens := by
  -- Any correspondence shows where the items of its first run come from.
  obtain ⟨more, hmore⟩ := (Correspondence.scopes_recorded scope).write phrases
    (fun token hmem => hreads.mem_of_literal hmem) false [] [] .nil s []
  rw [Phrase.items] at h
  rw [h] at hmore
  obtain ⟨_, _, halike⟩ := hmore
  exact halike.2

end QueryTemplate
