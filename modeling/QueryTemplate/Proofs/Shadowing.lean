import QueryTemplate.Proofs.Sessions

/-!
# Loop variables

Within a loop, the names of its item and of its index stand for the item and the number of the
iteration that was started last. They stand in front of all else under these names, be it a
variable, a name of a loop around it or the list that the loop runs over, which was looked up
before. Any other name stands for what it did outside of the loop, and so do all names once the loop
is left.

An item that the list does not have would be null. No rendering asks for one: whatever the loops in
a program are, and however they are nested, each iteration that is started is one of the loop that
was entered last, and of an item that it has.

* `Bindings.segments`: the names that a path consists of, and `Bindings.lookup_eq`: the value there;
* `Bindings.lookup_iteration`: the value at a path in an iteration;
* `Scope.watched`: a scope that keeps the iterations that are started;
* `Bindings.stacks_watched`: these are iterations of the innermost loop, and of its items;
* `loop_scoped`: paths resolve in the iterations of loops, which have items.
-/

namespace QueryTemplate

open Rendering

variable {σ : Type}

/-! ## Values at paths -/

namespace Bindings

/-- The names that a path consists of: of a value and of its nested fields. -/
def segments (path : String) : List String :=
  (Text.splitChar '.' (Text.trimmed path.toList)).map String.ofList

theorem foldl_field? (fields : List String) (value : Option Value) :
    fields.foldl (fun value field => value.bind (·.field? field)) value =
      value.bind fun value => fields.foldlM Value.field? value := by
  induction fields generalizing value with
  | nil => exact (Option.bind_fun_some value).symm
  | cons field fields ih =>
    rw [List.foldl_cons, ih, Option.bind_assoc]
    rfl

theorem lookup_eq (b : Bindings) {path name : String} {fields : List String}
    (h : segments path = name :: fields) :
    b.lookup path = (b.root? name).bind fun value => fields.foldlM Value.field? value := by
  rw [segments] at h
  rw [lookup, h]
  exact foldl_field? fields (b.root? name)

theorem root?_within (b : Bindings) (active : ActiveLoop) (vars : List (String × Value))
    (name : String) :
    (b.within [(active, vars)]).root? name = (vars.lookup name).or (b.root? name) := by
  rw [root?, within, List.map_singleton, List.singleton_append, List.findSome?_cons]
  cases vars.lookup name with
  | none => rfl
  | some value => rfl

/-- In an iteration, the item stands in front of the index, if they have the same name. -/
theorem lookup_vars (active : ActiveLoop) (i : Nat) (name : String) :
    (ActiveLoop.vars active i).lookup name =
      if active.header.item = some name then some (active.items[i]?.getD .null)
      else if active.header.index = some name then some (.int (.ofNat i))
      else none := by
  have hindex : ((active.header.index.map fun index =>
        (index, Value.int (.ofNat i))).toList).lookup name =
      if active.header.index = some name then some (.int (.ofNat i)) else none := by
    cases active.header.index with
    | none => rfl
    | some index =>
      rw [Option.map_some, Option.toList_some, List.lookup_cons, List.lookup_nil]
      by_cases hname : name = index
      · rw [hname, beq_self_eq_true, if_pos rfl]
      · rw [beq_eq_false_iff_ne.2 hname, if_neg (mt Option.some.inj (Ne.symm hname))]
  rw [ActiveLoop.vars]
  cases active.header.item with
  | none => rw [if_neg (Option.some_ne_none name).symm, hindex]
  | some item =>
    simp only [Option.some.injEq]
    rw [lookup_putNamed, hindex]
    by_cases hname : item = name
    · rw [if_pos hname, if_pos hname.symm]
    · rw [if_neg hname, if_neg (Ne.symm hname)]

/-- The value at a path in an iteration: from its item, from its number, or from outside. -/
theorem lookup_iteration (b : Bindings) (active : ActiveLoop) {i : Nat}
    (hi : i < active.items.length) {path name : String} {fields : List String}
    (hpath : segments path = name :: fields) :
    let inner := b.within [(active, ActiveLoop.vars active i)]
    (active.header.item = some name →
      inner.lookup path = fields.foldlM Value.field? (active.items.get ⟨i, hi⟩)) ∧
    (active.header.item ≠ some name → active.header.index = some name →
      inner.lookup path = if fields = [] then some (.int (.ofNat i)) else none) ∧
    (active.header.item ≠ some name → active.header.index ≠ some name →
      inner.lookup path = b.lookup path) := by
  intro inner
  have hroot := b.root?_within active (ActiveLoop.vars active i) name
  rw [lookup_vars] at hroot
  rw [inner.lookup_eq hpath, b.lookup_eq hpath, hroot]
  refine ⟨fun hitem => ?_, fun hitem hindex => ?_, fun hitem hindex => ?_⟩
  · rw [if_pos hitem, List.getElem?_eq_getElem hi]
    rfl
  · rw [if_neg hitem, if_pos hindex]
    -- A number has no fields.
    cases fields with
    | nil => rfl
    | cons field fields => rfl
  · rw [if_neg hitem, if_neg hindex, Option.none_or]

/-- Iterations of a loop, whichever they are, leave nothing but the values of the last one. -/
theorem forM_iteration (b : Bindings) (active : ActiveLoop) (header : String)
    (earlier : List Nat) (vars : List (String × Value)) :
    ∃ vars', earlier.forM (scope.iteration header) (b.within [(active, vars)]) =
      .ok () (b.within [(active, vars')]) := by
  induction earlier generalizing vars with
  | nil => exact ⟨vars, rfl⟩
  | cons i earlier ih =>
    obtain ⟨vars', hvars'⟩ := ih (ActiveLoop.vars active i)
    have hstep : scope.iteration header i (b.within [(active, vars)]) =
        .ok () (b.within [(active, ActiveLoop.vars active i)]) := scope_iteration_ok rfl
    exact ⟨vars', (bind_ok hstep).trans hvars'⟩

/-- The items that a loop runs over are those of the list at its path, or none if that is null. -/
theorem lookup_of_items {b : Bindings} {path : String} {items : List Value}
    (h : b.items path = .ok items) :
    b.lookup path = some (.list items) ∨ b.lookup path = some .null ∧ items = [] := by
  rw [Bindings.items, require] at h
  cases hlookup : b.lookup path with
  | none =>
    rw [hlookup] at h
    cases h
  | some value =>
    rw [hlookup] at h
    cases value with
    | list items' =>
      cases h
      exact .inl rfl
    | null =>
      cases h
      exact .inr ⟨rfl, rfl⟩
    | _ => cases h

end Bindings

/-! ## Watched scopes -/

/-- An iteration that is started. -/
structure Start (σ : Type) where
  /-- The state in which the scope is called. -/
  state : σ
  /-- The header of the loop. -/
  header : String
  /-- The number of the iteration. -/
  index : Nat

/-- The outcome of a computation with something beside the state. -/
def Rendering.outcome {α β : Type} (b : β) :
    EStateM.Result RenderError σ α → EStateM.Result RenderError (σ × β) α
  | .ok a s => .ok a (s, b)
  | .error e s => .error e (s, b)

/-- The computation with something beside its state that it leaves alone. -/
def Rendering.beside {α β : Type} (x : Rendering σ α) : Rendering (σ × β) α :=
  fun (s, b) => outcome b (x s)

/-- A scope that answers as `scope` does and keeps the iterations that are started. -/
def Scope.watched (scope : Scope σ) : Scope (σ × List (Start σ)) where
  condition c := beside (scope.condition c)
  enterLoop h := beside (scope.enterLoop h)
  iteration h i := fun (s, starts) => beside (scope.iteration h i) (s, starts ++ [⟨s, h, i⟩])
  exitLoop h := fun (s, starts) => (scope.exitLoop h s, starts)
  value e := beside (scope.value e)

section

variable {α β : Type} {x : Rendering σ α} {s s' : σ} {b : β}

theorem beside_ok {a : α} (h : x s = .ok a s') : beside x (s, b) = .ok a (s', b) := by
  rw [beside, h, outcome]

theorem beside_error {e : RenderError} (h : x s = .error e s') :
    beside x (s, b) = .error e (s', b) := by
  rw [beside, h, outcome]

end

namespace Correspondence

/-- A computation and the same one with something beside its state. -/
def carried {γ : Type} : Correspondence σ (σ × γ) where
  rel R x y := ∀ s c, ∃ c',
    match x s with
    | .ok a s' => ∃ b, y (s, c) = .ok b (s', c') ∧ R a b
    | .error e s' => y (s, c) = .error e (s', c')
  pure {_ _ _ _ b} h _ c := ⟨c, b, rfl, h⟩
  bind := by
    intro α β α' β' R S x y f g hxy hfg s c
    obtain ⟨c₁, hc₁⟩ := hxy s c
    cases hx : x s with
    | error e s' =>
      rw [hx] at hc₁
      exact ⟨c₁, by rw [bind_error hx, bind_error hc₁]⟩
    | ok a s' =>
      rw [hx] at hc₁
      obtain ⟨b, hy, hab⟩ := hc₁
      obtain ⟨c₂, hc₂⟩ := hfg a b hab s' c₁
      exact ⟨c₂, by rwa [bind_ok hx, bind_ok hy]⟩

theorem carried_beside {α γ : Type} (x : Rendering σ α) (f : σ → γ → γ) :
    carried.rel Eq x fun (s, c) => beside x (s, f s c) := by
  intro s c
  refine ⟨f s c, ?_⟩
  cases hx : x s with
  | ok a s' => exact ⟨a, beside_ok hx, rfl⟩
  | error e s' => exact beside_error hx

theorem scopes_watched (scope : Scope σ) : carried.Scopes id scope scope.watched where
  condition _ := carried_beside _ fun _ starts => starts
  enterLoop _ := carried_beside _ fun _ starts => starts
  iteration header i := carried.mono
    (carried_beside _ fun s starts => starts ++ [Start.mk s header i]) fun _ _ _ => trivial
  exitLoop _ _ starts := ⟨starts, (), rfl, trivial⟩
  value _ := carried.mono (carried_beside _ fun _ starts => starts) fun _ _ hv =>
    ⟨hv, congrArg Value.toRaw hv⟩

end Correspondence

/-- A rendering that is watched comes to the same end as one that is not. -/
theorem render_watched (scope : Scope σ) (p : Program) (s : σ) :
    ∃ starts, p.render scope.watched (s, []) = outcome starts (p.render scope s) := by
  cases hjumps : Jumps.ofCode p.code with
  | error pc =>
    refine ⟨[], ?_⟩
    rw [render_of_ofCode_error hjumps scope, render_of_ofCode_error hjumps scope.watched, outcome]
  | ok jumps =>
    obtain ⟨nests, hnests⟩ := exists_exec_of_ofCode hjumps
    obtain ⟨starts, hstarts⟩ := (Correspondence.scopes_watched scope).exec nests {} s []
    refine ⟨starts, ?_⟩
    rw [hnests, hnests]
    cases hresult : Nest.exec scope nests {} s with
    | error e s' =>
      rw [hresult] at hstarts
      exact hstarts
    | ok out s' =>
      rw [hresult] at hstarts
      obtain ⟨_, hwatched, rfl⟩ := hstarts
      exact hwatched

/-! ## Iterations of renderings -/

/-- The iteration is one of the innermost loop, and the loop has an item for it. -/
def Start.InRange (start : Start Bindings) : Prop :=
  ∃ active outer, start.state.loops = active :: outer ∧
    LoopHeader.read? start.header = some active.header ∧ start.index < active.items.length

namespace Bindings

/-- The loop of a rendering is the one that bindings have opened. -/
def Runs (loop : OpenLoop) (opened : ActiveLoop × List (String × Value)) : Prop :=
  LoopHeader.read? loop.header = some opened.1.header ∧ loop.count = opened.1.items.length

/-- The bindings are `b` within the loops of a rendering, whose iterations are in range. -/
def Watched (b : Bindings) (loops : List OpenLoop) (s : Bindings × List (Start Bindings)) : Prop :=
  (∃ opened, s.1 = b.within opened ∧ List.Forall₂ Runs loops opened) ∧
    ∀ start ∈ s.2, start.InRange

theorem leads_beside_answer {α : Type} (f : Bindings → Except RenderError α) (b : Bindings)
    (loops : List OpenLoop) :
    Leads (b.Watched loops) (b.Watched loops) (fun _ s => ∀ start ∈ s.2, start.InRange)
      (beside (answer f)) := by
  rintro ⟨b', starts⟩ ⟨hopened, hstarts⟩
  cases hanswer : f b' with
  | ok a =>
    rw [beside_ok (answer_ok hanswer)]
    exact ⟨hopened, hstarts⟩
  | error e =>
    rw [beside_error (answer_error hanswer)]
    exact hstarts

/-- The loops of a rendering and those of the bindings are opened and closed together, and every
    iteration that is started is in range. -/
theorem stacks_watched (b : Bindings) :
    scope.watched.Stacks b.Watched fun _ s => ∀ start ∈ s.2, start.InRange where
  condition _ loops := leads_beside_answer _ b loops
  value _ loops := leads_beside_answer _ b loops
  enterLoop header loops := by
    rintro ⟨_, starts⟩ ⟨⟨opened, rfl, hruns⟩, hstarts⟩
    cases henter : (b.within opened).enterLoop header with
    | error e =>
      have hcall : scope.watched.enterLoop header (b.within opened, starts) = _ :=
        beside_error (scope_enterLoop_error henter)
      rw [hcall]
      exact hstarts
    | ok entered =>
      obtain ⟨count, inner⟩ := entered
      obtain ⟨active, rfl, hcount, hheader, -⟩ := exists_of_enterLoop henter
      have hcall : scope.watched.enterLoop header (b.within opened, starts) = _ :=
        beside_ok (scope_enterLoop_ok henter)
      rw [hcall]
      exact ⟨⟨(active, []) :: opened, rfl, .cons ⟨hheader, hcount⟩ hruns⟩, hstarts⟩
  iteration {loop i} loops hi := by
    rintro ⟨_, starts⟩ ⟨⟨opened, rfl, hruns⟩, hstarts⟩
    obtain ⟨top, outer, hrun, houter, rfl⟩ := List.forall₂_cons_left_iff.1 hruns
    have hcall : scope.watched.iteration loop.header i (b.within (top :: outer), starts) = _ :=
      beside_ok (scope_iteration_ok (iteration_within top loop.header i))
    rw [hcall]
    refine ⟨⟨(top.1, ActiveLoop.vars top.1 i) :: outer, rfl, .cons hrun houter⟩, ?_⟩
    -- The loop that the rendering runs is on top of those that the bindings run.
    have hstart : Start.InRange ⟨b.within (top :: outer), loop.header, i⟩ :=
      ⟨top.1, _, rfl, hrun.1, hrun.2 ▸ hi⟩
    exact List.forall_mem_append.2 ⟨hstarts, List.forall_mem_singleton.2 hstart⟩
  exitLoop loop loops := by
    rintro ⟨_, starts⟩ ⟨⟨opened, rfl, hruns⟩, hstarts⟩
    obtain ⟨top, outer, -, houter, rfl⟩ := List.forall₂_cons_left_iff.1 hruns
    exact ⟨⟨outer, rfl, houter⟩, hstarts⟩

/-- Every iteration that a rendering starts is in range, whether it succeeds or fails. -/
theorem exists_inRange (p : Program) (b : Bindings) :
    ∃ starts, p.render scope.watched (b, []) = outcome starts (p.render scope b) ∧
      ∀ start ∈ starts, start.InRange := by
  obtain ⟨starts, hstarts⟩ := render_watched scope p b
  refine ⟨starts, hstarts, ?_⟩
  cases hjumps : Jumps.ofCode p.code with
  | error pc =>
    rw [render_of_ofCode_error hjumps, render_of_ofCode_error hjumps] at hstarts
    cases hstarts
    nofun
  | ok jumps =>
    have hrender := b.stacks_watched.render hjumps [] (b, []) ⟨⟨[], rfl, .nil⟩, nofun⟩
    rw [hstarts] at hrender
    cases hresult : p.render scope b with
    | ok out b' =>
      rw [hresult] at hrender
      exact hrender.2
    | error e b' =>
      rw [hresult] at hrender
      exact hrender

end Bindings

/-- If bindings, whatever was done with them before, enter a loop that runs `n` times, then its path
    leads to a list with `n` items, or to null. After any iterations that may come first, leaving
    the loop gives every path the value that it had before. And so does starting an iteration, for
    which there is an item, except for two names: paths that begin with the name of the item lead
    into the item, and that of the index, if it is another one, is the number of the iteration.

    Whenever a rendering starts an iteration, the loop on top of those being run is the one with its
    header, and has an item for it. -/
theorem loop_scoped :
    (∀ (b inner : Bindings) (header : String) (n : Nat),
      Bindings.scope.enterLoop header b = .ok n inner →
      ∃ (parts : LoopHeader) (items : List Value),
        LoopHeader.read? header = some parts ∧ n = items.length ∧
        (b.lookup parts.path = some (.list items) ∨
          b.lookup parts.path = some .null ∧ items = []) ∧
        ∀ earlier : List Nat, ∃ before,
          earlier.forM (Bindings.scope.iteration header) inner = .ok () before ∧
          (∀ path, (Bindings.scope.exitLoop header before).lookup path = b.lookup path) ∧
          ∀ (i : Nat) (hi : i < items.length), ∃ now,
            Bindings.scope.iteration header i before = .ok () now ∧
            ∀ path name fields, Bindings.segments path = name :: fields →
              (parts.item = some name →
                now.lookup path = fields.foldlM Value.field? (items.get ⟨i, hi⟩)) ∧
              (parts.item ≠ some name → parts.index = some name →
                now.lookup path = if fields = [] then some (.int (.ofNat i)) else none) ∧
              (parts.item ≠ some name → parts.index ≠ some name →
                now.lookup path = b.lookup path)) ∧
    ∀ (p : Program) (b : Bindings), ∃ starts,
      p.render Bindings.scope.watched (b, []) = outcome starts (p.render Bindings.scope b) ∧
      ∀ start ∈ starts, ∃ active outer, start.state.loops = active :: outer ∧
        LoopHeader.read? start.header = some active.header ∧
        start.index < active.items.length := by
  refine ⟨fun b inner header n henter => ?_, Bindings.exists_inRange⟩
  cases hentered : b.enterLoop header with
  | error e => cases (Bindings.scope_enterLoop_error hentered).symm.trans henter
  | ok entered =>
    cases (Bindings.scope_enterLoop_ok hentered).symm.trans henter
    obtain ⟨active, hinner, hn, hread, hitems⟩ := Bindings.exists_of_enterLoop hentered
    refine ⟨active.header, active.items, hread, hn, Bindings.lookup_of_items hitems,
      fun earlier => ?_⟩
    obtain ⟨vars, hvars⟩ := b.forM_iteration active header earlier []
    rw [← hinner] at hvars
    exact ⟨_, hvars, fun path => rfl, fun i hi => ⟨_, Bindings.scope_iteration_ok rfl,
      fun path name fields hpath => b.lookup_iteration active hi hpath⟩⟩

/-- A loop whose item has the name of the list that it runs over, after iterations in no order, one
    of them without an item; and a loop over the items of another one, which have one and two. -/
theorem loop_scoped_same_name :
    let header := "i, users := range users"
    let users := [Value.record [("name", .text "ann")], .record [("name", .text "bob")]]
    let b := (Bindings.empty.insert "u" (.text "outer")).insert "users" (.list users)
    ∃ inner before now, Bindings.scope.enterLoop header b = .ok 2 inner ∧
      [1, 7, 0].forM (Bindings.scope.iteration header) inner = .ok () before ∧
      Bindings.scope.iteration header 1 before = .ok () now ∧
      now.lookup "users.name" = some (.text "bob") ∧ now.lookup "i" = some (.int 1) ∧
      now.lookup "i.name" = none ∧ now.lookup "u" = b.lookup "u" ∧
      (Bindings.scope.exitLoop header before).lookup "users.name" = b.lookup "users.name" ∧
      let p : Program :=
        ⟨[.beginLoop "x in xs", .beginLoop "y in x", .bind [.value "y"], .endLoop, .endLoop], 4⟩
      let b := Bindings.empty.insert "xs" (.list [.list [.int 1], .list [.int 2, .int 3]])
      ∃ starts, p.render Bindings.scope.watched (b, []) =
          outcome starts (p.render Bindings.scope b) ∧
        starts.length = 5 ∧ ∀ start ∈ starts, ∃ active outer, start.state.loops = active :: outer ∧
          LoopHeader.read? start.header = some active.header ∧
          start.index < active.items.length := by
  intro header users b
  have hread : LoopHeader.read? header = some ⟨some "i", some "users", "users"⟩ := by
    decide +kernel
  have husers : b.lookup "users" = some (.list users) := rfl
  have henter : Bindings.scope.enterLoop header b = .ok 2 _ :=
    Bindings.scope_enterLoop_ok (by rw [Bindings.enterLoop, hread]; rfl)
  obtain ⟨parts, items, hparts, -, hitems, hloop⟩ := loop_scoped.1 b _ header 2 henter
  cases hread.symm.trans hparts
  have hsame : items = users := by
    rcases hitems with hitems | ⟨hnull, -⟩
    · cases husers.symm.trans hitems
      rfl
    · cases husers.symm.trans hnull
  subst hsame
  obtain ⟨before, hbefore, hexit, hnow⟩ := hloop [1, 7, 0]
  obtain ⟨now, hiteration, hpaths⟩ := hnow 1 (by decide)
  refine ⟨_, before, now, henter, hbefore, hiteration, ?_, ?_, ?_, ?_, hexit _, ?_⟩
  · exact (hpaths "users.name" "users" ["name"] (by decide +kernel)).1 rfl
  · exact (hpaths "i" "i" [] (by decide +kernel)).2.1 (by decide) rfl
  · exact (hpaths "i.name" "i" ["name"] (by decide +kernel)).2.1 (by decide) rfl
  · exact (hpaths "u" "u" [] (by decide +kernel)).2.2 (by decide) (by decide)
  · intro p b
    obtain ⟨starts, hrender, hstarts⟩ := loop_scoped.2 p b
    have hlength : (match p.render Bindings.scope.watched (b, []) with
        | .ok _ s | .error _ s => s.2.length) = 5 := by decide +kernel
    refine ⟨starts, hrender, ?_, hstarts⟩
    rw [hrender] at hlength
    cases hresult : p.render Bindings.scope b with
    | ok out b' =>
      rw [hresult] at hlength
      exact hlength
    | error e b' =>
      rw [hresult] at hlength
      exact hlength

end QueryTemplate
