import QueryTemplate.Proofs.Relating

/-!
# Independence of values

The SQL of a rendered template does not depend on the values that are bound to it,
not even where a value is inserted as SQL: it is decided by the answers to conditions
and by the numbers of iterations. A run can be repeated with these answers alone, and
writes the same items up to the values of its markers. So two runs with the same
answers give the same SQL, and their parameters are for the same placeholders.

* `Call.answer?`: the answer of a call that decides which way a run takes;
* `Scope.scripted`: a scope that gives answers from a list, and no values;
* `Correspondence.followed`: a run without failed calls, followed with its answers;
* `Template.calls`: the calls made when a template is rendered;
* `render_independent`: rendering with the same answers gives the same SQL.
-/

namespace QueryTemplate

variable {σ τ : Type}

/-- An answer that decides which way a run takes. -/
inductive Answer where
  /-- Whether a condition holds. -/
  | taken (holds : Bool)
  /-- How often a loop runs. -/
  | count (times : Nat)
deriving DecidableEq

namespace Call

/-- Whether the call did not fail. -/
def succeeds : Call → Bool
  | condition _ answer => answer.isOk
  | enterLoop _ answer => answer.isOk
  | iteration _ _ answer => answer.isOk
  | exitLoop _ => true
  | value _ answer => answer.isOk

/-- The answer of a call, if it decides which way a run takes. -/
def answer? : Call → Option Answer
  | condition _ (.ok holds) => some (.taken holds)
  | enterLoop _ (.ok times) => some (.count times)
  | _ => none

/-- The answers of calls that decide which way a run takes. -/
def answers (calls : List Call) : List Answer :=
  calls.filterMap answer?

end Call

open Call (answers)

/-- A scope that answers conditions and loops from a list, in turn. -/
def Scope.scripted : Scope (List Answer) where
  condition c
    | .taken holds :: rest => .ok holds rest
    | script => .error (.unsupportedCondition c) script
  enterLoop header
    | .count times :: rest => .ok times rest
    | script => .error (.unsupportedLoopHeader header) script
  iteration _ _ := pure ()
  exitLoop _ script := script
  value _ := pure .null

namespace Correspondence

open Rendering

/-- A run that keeps its calls, and a run that takes its answers from a list. Either a
    call fails in the first, or the second uses up just the answers of the first. -/
def followed : Correspondence (σ × List Call) (List Answer) where
  rel R x y := ∀ s calls, ∃ more,
    match x (s, calls) with
    | .ok a (_, calls') => calls' = calls ++ more ∧ (∀ call ∈ more, call.succeeds) ∧
      ∃ b, R a b ∧ ∀ rest, y (answers more ++ rest) = .ok b rest
    | .error _ (_, calls') => calls' = calls ++ more ∧ ∃ call ∈ more, ¬ call.succeeds
  pure {_ _ _ _ b} h _ _ := ⟨[], (List.append_nil _).symm, by simp, b, h, fun _ => rfl⟩
  bind := by
    intro α β α' β' R S x y f g hxy hfg s calls
    obtain ⟨more, hmore⟩ := hxy s calls
    cases hx : x (s, calls) with
    | error e s' =>
      rw [hx] at hmore
      exact ⟨more, by rw [bind_error hx]; exact hmore⟩
    | ok a s' =>
      rw [hx] at hmore
      obtain ⟨hcalls, hsucceeds, b, hab, hy⟩ := hmore
      obtain ⟨more', hmore'⟩ := hfg a b hab s'.1 s'.2
      refine ⟨more ++ more', ?_⟩
      rw [bind_ok hx]
      cases hf : f a s' with
      | error e s'' =>
        rw [hf] at hmore'
        obtain ⟨hcalls', call, hcall, hfails⟩ := hmore'
        exact ⟨by rw [hcalls', hcalls, List.append_assoc], call, List.mem_append_right _ hcall,
          hfails⟩
      | ok a' s'' =>
        rw [hf] at hmore'
        obtain ⟨hcalls', hsucceeds', b', hab', hg⟩ := hmore'
        refine ⟨by rw [hcalls', hcalls, List.append_assoc], ?_, b', hab', fun rest => ?_⟩
        · exact fun call hcall => (List.mem_append.1 hcall).elim (hsucceeds call) (hsucceeds' call)
        · -- The first run leaves over just the answers of the second.
          rw [answers, List.filterMap_append, List.append_assoc]
          exact (bind_ok (hy _)).trans (hg rest)

theorem followed_recordAs {α β : Type} {R : α → β → Prop} {call : Except RenderError α → Call}
    {x : Rendering σ α} {y : Rendering (List Answer) β} (hok : ∀ a, (call (.ok a)).succeeds)
    (herror : ∀ e, ¬ (call (.error e)).succeeds)
    (hy : ∀ a, ∃ b, R a b ∧ ∀ rest, y (answers [call (.ok a)] ++ rest) = .ok b rest) :
    followed.rel R (recordAs call x) y := by
  intro s calls
  cases hx : x s with
  | ok a s' =>
    have hrun : recordAs call x (s, calls) = .ok a (s', calls ++ [call (.ok a)]) := by
      rw [recordAs, hx]
    refine ⟨[call (.ok a)], ?_⟩
    rw [hrun]
    exact ⟨rfl, by simpa using hok a, hy a⟩
  | error e s' =>
    have hrun : recordAs call x (s, calls) = .error e (s', calls ++ [call (.error e)]) := by
      rw [recordAs, hx]
    refine ⟨[call (.error e)], ?_⟩
    rw [hrun]
    exact ⟨rfl, _, List.mem_singleton_self _, herror e⟩

theorem scopes_followed (scope : Scope σ) :
    followed.Scopes (fun _ => ()) scope.recorded Scope.scripted where
  condition _ := followed_recordAs (fun _ => rfl) nofun fun holds => ⟨holds, rfl, fun _ => rfl⟩
  enterLoop _ := followed_recordAs (fun _ => rfl) nofun fun times => ⟨times, rfl, fun _ => rfl⟩
  iteration _ _ := followed_recordAs (fun _ => rfl) nofun fun _ => ⟨(), trivial, fun _ => rfl⟩
  exitLoop header _ _ :=
    ⟨[.exitLoop header], rfl, by simp [Call.succeeds], (), trivial, fun _ => rfl⟩
  value _ := followed_recordAs (fun _ => rfl) nofun fun _ => ⟨.null, ⟨rfl, rfl⟩, fun _ => rfl⟩

end Correspondence

/-- The calls of a run that keeps them. -/
def callsOf {α : Type} : EStateM.Result RenderError (σ × List Call) α → List Call
  | .ok _ (_, calls) | .error _ (_, calls) => calls

theorem callsOf_map {α β : Type} (f : α → β) (x : Rendering (σ × List Call) α) (s : σ × List Call) :
    callsOf ((f <$> x) s) = callsOf (x s) := by
  rw [map_eq_pure_bind]
  cases hx : x s with
  | ok a s' =>
    rw [Rendering.bind_ok hx]
    rfl
  | error e s' =>
    rw [Rendering.bind_error hx]
    rfl

/-- The calls made when a template is rendered. -/
def Template.calls (t : Template) (scope : Scope σ) (s : σ) : List Call :=
  callsOf (t.render scope.recorded (s, []))

section Items

variable {tokens : List Token} {phrases : List Phrase}

/-- A run without failed calls writes items, and these are known from its answers, up to
    the values. -/
theorem items_of_succeeds (hreads : Token.Reads tokens (Phrase.symbols phrases)) (scope : Scope σ)
    (s : σ) {calls : List Call}
    (hcalls : calls = callsOf (Phrase.items scope.recorded phrases (s, [])))
    (hsucceeds : ∀ call ∈ calls, call.succeeds) :
    ∃ items s' script, Phrase.items scope phrases s = .ok items s' ∧
      Phrase.items Scope.scripted phrases (answers calls) = .ok script [] ∧
      items.map (Item.map fun _ => ()) = script.map (Item.map fun _ => ()) := by
  have hmem (token : Token) (hmem : .literal token ∈ Phrase.symbols phrases) :=
    hreads.mem_of_literal hmem
  obtain ⟨more, hfollowed⟩ := (Correspondence.scopes_followed scope).write phrases hmem
    false [] [] .nil s []
  obtain ⟨_, hrecorded⟩ := (Correspondence.scopes_recorded scope).write phrases hmem
    false [] [] .nil s []
  rw [Phrase.items] at hcalls
  cases hrun : Phrase.write scope.recorded phrases false [] (s, []) with
  | error e s' =>
    rw [hrun] at hfollowed hcalls
    obtain ⟨hmore, call, hcall, hfails⟩ := hfollowed
    rw [hcalls, callsOf, hmore] at hsucceeds
    exact absurd (hsucceeds call hcall) hfails
  | ok items s' =>
    rw [hrun] at hfollowed hcalls
    obtain ⟨hmore, _, script, halike, hscript⟩ := hfollowed
    have hanswers := hscript []
    rw [List.append_nil, ← List.nil_append more, ← hmore] at hanswers
    -- The run that keeps no calls writes the same items.
    cases hplain : Phrase.write scope phrases false [] s with
    | error e s'' =>
      rw [hplain] at hrecorded
      cases hrecorded.symm.trans hrun
    | ok items' s'' =>
      rw [hplain] at hrecorded
      obtain ⟨items₀, hitems₀, hsame⟩ := hrecorded
      cases hitems₀.symm.trans hrun
      have hitems : items' = items := by simpa [Item.map_id] using hsame.1
      rw [hcalls]
      exact ⟨items', s'', script, hplain, hanswers, hitems ▸ halike.1⟩

end Items

/-- Two renderings of a template in which no call fails, and in which conditions and loops
    are answered alike, whatever the values are. Both succeed, with the same SQL and with as
    many parameters, and the parameters with the same number are read off markers for the
    same placeholder. -/
theorem render_independent {source : String} {settings : Settings} {t : Template}
    (h : Template.compile source settings = .ok t) :
    ∃ tokens phrases, Token.ofTemplate source = .ok tokens ∧
      Token.Reads tokens (Phrase.symbols phrases) ∧
      ∀ {σ τ : Type} (scope : Scope σ) (scope' : Scope τ) (s : σ) (s' : τ),
        (∀ call ∈ t.calls scope s, call.succeeds) →
        (∀ call ∈ t.calls scope' s', call.succeeds) →
        answers (t.calls scope s) = answers (t.calls scope' s') →
        ∃ query query' u u' items items',
          t.render scope s = .ok query u ∧ t.render scope' s' = .ok query' u' ∧
          query.sql = query'.sql ∧ query.params.length = query'.params.length ∧
          Phrase.items scope phrases s = .ok items u ∧ query = Item.query items ∧
          Phrase.items scope' phrases s' = .ok items' u' ∧ query' = Item.query items' ∧
          ∀ (i : Nat) value value',
            query.params[i]? = some value → query'.params[i]? = some value' →
            ∃ (origin : Origin) (bind : Bind),
              (Item.markers items)[i]? = some (origin, bind, value) ∧
              (Item.markers items')[i]? = some (origin, bind, value') ∧
              origin.token ∈ tokens ∧ origin.token.kind = .literal ∧
              (extract origin.token.text).binds[origin.index]? = some bind := by
  obtain ⟨tokens, phrases, htokens, hreads, hrender⟩ := render_eq_items h
  refine ⟨tokens, phrases, htokens, hreads, fun {σ τ} scope scope' s s' => ?_⟩
  intro hsucceeds hsucceeds' hanswers
  have hcalls {ρ : Type} (scope : Scope ρ) (s : ρ) :
      t.calls scope s = callsOf (Phrase.items scope.recorded phrases (s, [])) := by
    rw [Template.calls, hrender, callsOf_map]
  obtain ⟨items, u, script, hitems, hscript, hsame⟩ :=
    items_of_succeeds hreads scope s (hcalls scope s) hsucceeds
  obtain ⟨items', u', script', hitems', hscript', hsame'⟩ :=
    items_of_succeeds hreads scope' s' (hcalls scope' s') hsucceeds'
  -- Both runs are followed with the same answers.
  rw [hanswers] at hscript
  cases hscript.symm.trans hscript'
  have halike := hsame.trans hsame'.symm
  have hmarkers := congrArg Item.markers halike
  rw [Item.markers_map, Item.markers_map] at hmarkers
  refine ⟨Item.query items, Item.query items', u, u', items, items', ?_, ?_, ?_, ?_, hitems, rfl,
    hitems', rfl, fun i value value' hvalue hvalue' => ?_⟩
  · rw [hrender]
    exact Rendering.map_ok hitems
  · rw [hrender]
    exact Rendering.map_ok hitems'
  · rw [← Item.sql_map (fun _ => ()) items, halike, Item.sql_map]
  · rw [Item.params_eq_map_markers, Item.params_eq_map_markers, List.length_map, List.length_map]
    simpa using congrArg List.length hmarkers
  · rw [Item.params_eq_map_markers, List.getElem?_map, Option.map_eq_some_iff] at hvalue hvalue'
    obtain ⟨⟨origin, bind, _⟩, hmarker, rfl⟩ := hvalue
    obtain ⟨⟨origin', bind', _⟩, hmarker', rfl⟩ := hvalue'
    have hsource := congrArg (·[i]?) hmarkers
    simp only [List.getElem?_map, hmarker, hmarker', Option.map_some, Option.some.injEq,
      Prod.mk.injEq] at hsource
    obtain ⟨rfl, rfl, _⟩ := hsource
    exact ⟨origin, bind, hmarker, hmarker', from_of_items hreads hitems _
      (Item.marker_mem_of_mem_markers (List.mem_of_getElem? hmarker))⟩

/-- A piece of SQL and a value within a loop: a scope that gives texts, and one that gives
    SQL and decides conditions by their text. -/
theorem render_independent_raw :
    let source := "SELECT \x7b\x7bif p\x7d\x7d@@col\x7b\x7bend\x7d\x7d FROM t " ++
      "\x7b\x7bwhere\x7d\x7d" ++
      "\x7b\x7bfor x in xs\x7d\x7da = @x or \x7b\x7bend\x7d\x7d\x7b\x7bend\x7d\x7d"
    let scope : Scope Unit :=
      { condition := fun _ => pure true
        enterLoop := fun _ => pure 2
        iteration := fun _ _ => pure ()
        exitLoop := fun _ s => s
        value := fun expr => pure (.text expr) }
    let scope' : Scope Nat :=
      { condition := fun c => pure (c == "p")
        enterLoop := fun _ => pure 2
        iteration := fun _ _ => modify (· + 1)
        exitLoop := fun _ _ => 0
        value := fun _ => do return .raw (if (← get) = 0 then "or 1 = 1" else "?, ") }
    ∃ t, Template.compile source = .ok t ∧ (∀ call ∈ t.calls scope (), call.succeeds) ∧
      (∀ call ∈ t.calls scope' 0, call.succeeds) ∧
      answers (t.calls scope ()) = answers (t.calls scope' 0) ∧
      ∃ query query' u u', t.render scope () = .ok query u ∧ t.render scope' 0 = .ok query' u' ∧
        query.sql = query'.sql ∧ query.params.length = query'.params.length := by
  intro source scope scope'
  have hchecks :
      (match Template.compile source with
        | .ok t => (t.calls scope ()).all Call.succeeds && ((t.calls scope' 0).all Call.succeeds &&
          answers (t.calls scope ()) == answers (t.calls scope' 0))
        | .error _ => false) = true := by decide +kernel
  cases ht : Template.compile source with
  | error e =>
    rw [ht] at hchecks
    cases hchecks
  | ok t =>
    rw [ht] at hchecks
    simp only [Bool.and_eq_true, List.all_eq_true, beq_iff_eq] at hchecks
    obtain ⟨hsucceeds, hsucceeds', hanswers⟩ := hchecks
    obtain ⟨tokens, phrases, _, _, hindependent⟩ := render_independent ht
    obtain ⟨query, query', u, u', _, _, hquery, hquery', hsql, hparams, _⟩ :=
      hindependent scope scope' () 0 hsucceeds hsucceeds' hanswers
    exact ⟨t, rfl, hsucceeds, hsucceeds', hanswers, query, query', u, u', hquery, hquery', hsql,
      hparams⟩

end QueryTemplate
