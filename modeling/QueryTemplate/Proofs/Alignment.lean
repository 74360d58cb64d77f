import QueryTemplate.Proofs.Relating

/-!
# Markers and parameters

In the SQL of a rendered template, a `?` and its parameter belong together: both are
read off one marker, which was written for one placeholder of the template. Where the
literals of a template have no `?` of their own, every `?` of the SQL is a marker, so
that the parameters can be counted off.

* `count_sql`: items without a `?` of their own have as many parameters as `?`;
* `marker_of_sql`: each `?` is read off a marker that carries its parameter;
* `render_aligned`: SQL and parameters of a rendered template are aligned.
-/

namespace QueryTemplate

namespace Item

variable {α : Type} {items : List (Item α)}

theorem count_sql (h : ∀ item ∈ items, item ≠ char '?') :
    (query items).sql.toList.count '?' = (query items).params.length := by
  rw [toList_sql]
  induction items with
  | nil => rfl
  | cons item items ih =>
    have hitems := ih fun item hitem => h item (List.mem_cons_of_mem _ hitem)
    cases item with
    | char c =>
      have hc : c ≠ '?' := fun hc => h (char c) List.mem_cons_self (congrArg char hc)
      exact (List.count_cons_of_ne hc).trans hitems
    | marker origin bind value => exact List.count_cons_self.trans (congrArg (· + 1) hitems)

/-- A `?` of the SQL is read off a marker, and so is the parameter with its number. -/
theorem marker_of_sql (h : ∀ item ∈ items, item ≠ char '?') {before after : List Char}
    (hsql : (query items).sql.toList = before ++ '?' :: after) :
    ∃ origin bind value, items[before.length]? = some (marker origin bind value) ∧
      (query items).params[before.count '?']? = some value := by
  rw [toList_sql] at hsql
  obtain ⟨front, rest, rfl, rfl, hrest⟩ := List.map_eq_append_iff.1 hsql
  obtain ⟨item, back, rfl, hitem, _⟩ := List.map_eq_cons_iff.1 hrest
  cases item with
  | char c => exact absurd (congrArg char hitem) (h (char c) (by simp))
  | marker origin bind value =>
    refine ⟨origin, bind, value, by simp, ?_⟩
    have hcount := count_sql fun item hitem => h item (List.mem_append_left _ hitem)
    rw [toList_sql] at hcount
    have hparams : (query (front ++ marker origin bind value :: back)).params =
        (query front).params ++ value :: (query back).params := by
      rw [query, List.filterMap_append]
      rfl
    rw [hcount, hparams, List.getElem?_append_right (Nat.le_refl _), Nat.sub_self]
    rfl

end Item

/-- Rendering a template gives what is read off its items. If its literals have no `?`,
    then the SQL has one `?` for each parameter, and each `?` is read off a marker: one for
    a placeholder of a literal, with the value bound there, which is the parameter with the
    number of the `?`. -/
theorem render_aligned {source : String} {settings : Settings} {t : Template}
    (h : Template.compile source settings = .ok t) :
    ∃ tokens phrases, Token.ofTemplate source = .ok tokens ∧
      Token.Reads tokens (Phrase.symbols phrases) ∧
      ∀ {σ : Type} (scope : Scope σ), t.render scope = Item.query <$> Phrase.items scope phrases ∧
        ((∀ token ∈ tokens, token.kind = .literal → '?' ∉ token.text.toList) →
          ∀ s query s', t.render scope s = .ok query s' →
            query.sql.toList.count '?' = query.params.length ∧
            ∃ items, Phrase.items scope phrases s = .ok items s' ∧ query = Item.query items ∧
              ∀ before after, query.sql.toList = before ++ '?' :: after →
                ∃ origin bind value, items[before.length]? = some (.marker origin bind value) ∧
                  query.params[before.count '?']? = some value ∧
                  origin.token ∈ tokens ∧ origin.token.kind = .literal ∧
                  (extract origin.token.text).binds[origin.index]? = some bind) := by
  obtain ⟨tokens, phrases, htokens, hreads, hrender⟩ := render_eq_items h
  refine ⟨tokens, phrases, htokens, hreads, fun scope => ⟨hrender scope, ?_⟩⟩
  intro hliterals s query s' hok
  rw [hrender scope] at hok
  obtain ⟨items, hitems, rfl⟩ := Rendering.exists_of_map hok
  have hfrom := from_of_items hreads hitems
  -- No literal has a `?`, so that no item but a marker shows one.
  have hmarkers (item : Item Value) (hitem : item ∈ items) : item ≠ .char '?' := by
    rintro rfl
    obtain ⟨token, htoken, hkind, hq⟩ := hfrom _ hitem rfl
    exact hliterals token htoken hkind hq
  refine ⟨Item.count_sql hmarkers, items, hitems, rfl, fun before after hsql => ?_⟩
  obtain ⟨origin, bind, value, hitem, hvalue⟩ := Item.marker_of_sql hmarkers hsql
  exact ⟨origin, bind, value, hitem, hvalue, hfrom _ (List.mem_of_getElem? hitem)⟩

/-- A list of assignments over two lines, with a loop that runs twice and an escape: the
    comma at the end is left out, and the second `?` has the second parameter. -/
theorem render_aligned_set :
    let source := "UPDATE t \x7b\x7bset\x7d\x7da = @a,\n\x7b\x7bfor x in xs\x7d\x7d\\@b = @@x," ++
      "\x7b\x7bend\x7d\x7d\x7b\x7bend\x7d\x7d"
    let scope : Scope Nat :=
      { condition := fun _ => pure true
        enterLoop := fun _ => pure 2
        iteration := fun _ _ => modify (· + 1)
        exitLoop := fun _ s => s
        value := fun expr => pure (.text expr) }
    ∃ t tokens query s', Template.compile source = .ok t ∧ Token.ofTemplate source = .ok tokens ∧
      (∀ token ∈ tokens, token.kind = .literal → '?' ∉ token.text.toList) ∧
      t.render scope 0 = .ok query s' ∧ query.sql = "UPDATE t SET a = ?, @b = ?,@b = ?" ∧
      query.params.length = 3 ∧
      ∃ (origin : Origin) (bind : Bind) (value : Value), query.params[1]? = some value ∧
        origin.token ∈ tokens ∧ (extract origin.token.text).binds[origin.index]? = some bind := by
  intro source scope
  have hliterals :
      (match Token.ofTemplate source with
        | .ok tokens => tokens.all fun token => !token.text.toList.contains '?'
        | .error _ => false) = true := by decide +kernel
  have hrender :
      (match Template.compile source with
        | .ok t =>
          match t.render scope 0 with
          | .ok query _ => query.sql == "UPDATE t SET a = ?, @b = ?,@b = ?"
          | .error _ _ => false
        | .error _ => false) = true := by decide +kernel
  cases ht : Template.compile source with
  | error e =>
    rw [ht] at hrender
    cases hrender
  | ok t =>
    obtain ⟨tokens, phrases, htokens, _, haligned⟩ := render_aligned ht
    rw [ht] at hrender
    rw [htokens] at hliterals
    replace hliterals (token : Token) (htoken : token ∈ tokens) (_ : token.kind = .literal) :
        '?' ∉ token.text.toList := by simpa using List.all_eq_true.1 hliterals token htoken
    cases hok : t.render scope 0 with
    | error e s' =>
      simp only [hok] at hrender
      cases hrender
    | ok query s' =>
      simp only [hok, beq_iff_eq] at hrender
      obtain ⟨hcount, items, _, _, hmarkers⟩ := (haligned scope).2 hliterals 0 query s' hok
      obtain ⟨origin, bind, value, _, hvalue, htoken, _, hbind⟩ :=
        hmarkers "UPDATE t SET a = ?, @b = ".toList ",@b = ?".toList (by rw [hrender]; decide)
      refine ⟨t, tokens, query, s', rfl, htokens, hliterals, hok, hrender, ?_, origin, bind, value,
        ?_, htoken, hbind⟩
      · rw [← hcount, hrender]
        decide
      · exact hvalue

end QueryTemplate
