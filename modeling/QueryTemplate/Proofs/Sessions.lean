import QueryTemplate.Proofs.Unwinding

/-!
# Sessions

Bindings live through a session of actions: values are given, loops are entered, iterated and
left, balanced or not, values are looked up and templates are rendered, with success or without.
Whatever the actions are, there is one scope for each loop being run and one more, the outermost,
which has the values last given and nothing else: no loop and no rendering gets at it. (Bindings
without any scope are the exception, until the first value is given; no loop can be entered there,
as no path leads to a value.)

* `Bindings.Action`: what can be done with bindings, and `Bindings.after` a session;
* `Bindings.lastGiven`: the value that actions have last given to a name;
* `Bindings.Sound`: the scopes fit the loops, and the outermost one has certain values;
* `Bindings.Sound.levels`: every call of a scope keeps bindings sound, so that renderings do, and
  `Bindings.Sound.apply`: every action does;
* `session_sound`: bindings are sound after every session.
-/

namespace QueryTemplate

open Rendering

/-! ## Named values -/

theorem lookup_filter_ne {α : Type} {name other : String} (hne : other ≠ name)
    (named : List (String × α)) :
    (named.filter (·.1 != name)).lookup other = named.lookup other := by
  induction named with
  | nil => rfl
  | cons entry named ih =>
    obtain ⟨key, value⟩ := entry
    by_cases hkey : key = name
    · have hother : (other == key) = false := by simp [hkey, hne]
      rw [List.filter_cons_of_neg (by simp [hkey]), ih, List.lookup_cons, hother]
    · rw [List.filter_cons_of_pos (by simp [hkey]), List.lookup_cons, List.lookup_cons, ih]

/-- Of the named things, only the one under the name that is put in is another one. -/
theorem lookup_putNamed {α : Type} (name other : String) (value : α) (named : List (String × α)) :
    (putNamed name value named).lookup other =
      if other = name then some value else named.lookup other := by
  rw [putNamed, List.lookup_cons]
  by_cases hother : other = name
  · simp [hother]
  · rw [if_neg hother, beq_eq_false_iff_ne.2 hother, lookup_filter_ne hother]

theorem nodup_putNamed {α : Type} (name : String) (value : α) {named : List (String × α)}
    (h : (named.map Prod.fst).Nodup) : ((putNamed name value named).map Prod.fst).Nodup := by
  rw [putNamed, List.map_cons, List.nodup_cons]
  refine ⟨?_, h.sublist (List.filter_sublist.map _)⟩
  simp

namespace Bindings

/-! ## Actions -/

/-- What can be done with bindings. -/
inductive Action where
  /-- Gives a value to a name. -/
  | insert (name : String) (given : Value)
  /-- Gives a predicate to a condition. -/
  | decideBy (condition : String) (predicate : Predicate)
  /-- Looks for the value at a path. -/
  | lookup (path : String)
  /-- Asks whether a condition holds. -/
  | condition (text : String)
  /-- Enters a loop. -/
  | enterLoop (header : String)
  /-- Starts an iteration. -/
  | iteration (header : String) (index : Nat)
  /-- Leaves a loop. -/
  | exitLoop (header : String)
  /-- Asks for the value of an expression. -/
  | value (expr : String)
  /-- Renders a template. -/
  | render (template : Template)

namespace Action

/-- What an action does to bindings; the answer is left out. -/
def run : Action → Rendering Bindings Unit
  | insert name given => modify (·.insert name given)
  | decideBy text predicate => modify (·.decideBy text predicate)
  | lookup path => do let _ ← answer fun b => .ok (b.lookup path)
  | condition text => do let _ ← scope.condition text
  | enterLoop header => do let _ ← scope.enterLoop header
  | iteration header index => scope.iteration header index
  | exitLoop header => modify (scope.exitLoop header)
  | value expr => do let _ ← scope.value expr
  | render template => do let _ ← template.render scope

/-- The bindings after an action, whether it succeeds or fails. -/
def apply (action : Action) (b : Bindings) : Bindings :=
  match action.run b with
  | .ok _ b' => b'
  | .error _ b' => b'

/-- The value that an action gives to a name. -/
def given? (name : String) : Action → Option Value
  | insert other given => if name = other then some given else none
  | _ => none

end Action

/-- The bindings after actions, one after the other. -/
def after (start : Bindings) (actions : List Action) : Bindings :=
  actions.foldl (fun b action => action.apply b) start

/-- The value that actions have last given to a name. -/
def lastGiven (actions : List Action) (name : String) : Option Value :=
  actions.reverse.findSome? (Action.given? name)

/-- The outermost scope. -/
def globals (b : Bindings) : List (String × Value) :=
  b.scopes.getLast?.getD []

/-! ## Sound bindings -/

/-- The scopes fit the loops being run, and the outermost one has the given values under their
    names, each name once. -/
structure Sound (values : String → Option Value) (b : Bindings) : Prop where
  scopes : b.scopes.length = b.loops.length + 1 ∨ b.scopes = [] ∧ b.loops = []
  lookup : ∀ name, b.globals.lookup name = values name
  nodup : (b.globals.map Prod.fst).Nodup

theorem lookup_eq_none (b : Bindings) (h : b.scopes = []) (path : String) :
    b.lookup path = none := by
  have hfields (fields : List String) :
      fields.foldl (fun (value : Option Value) field => value.bind (·.field? field)) none =
        none := by
    induction fields with
    | nil => rfl
    | cons field fields ih => exact ih
  rw [Bindings.lookup]
  split
  · rfl
  · rw [root?, h, List.findSome?_nil, hfields]

theorem scopes_ne_nil_of_enterLoop {b : Bindings} {header : String} {entered : Nat × Bindings}
    (h : b.enterLoop header = .ok entered) : b.scopes ≠ [] := by
  intro hscopes
  obtain ⟨active, -, -, -, hitems⟩ := exists_of_enterLoop h
  rw [items, require, b.lookup_eq_none hscopes] at hitems
  cases hitems

namespace Sound

variable {values : String → Option Value} {b : Bindings}

/-- Other scopes and loops in front of the outermost scope are sound, if their numbers fit. -/
theorem of_getLast? (h : b.Sound values) {b' : Bindings}
    (hscopes : b'.scopes.length = b'.loops.length + 1)
    (hlast : b'.scopes.getLast? = b.scopes.getLast?) : b'.Sound values where
  scopes := .inl hscopes
  lookup := by
    rw [globals, hlast]
    exact h.lookup
  nodup := by
    rw [globals, hlast]
    exact h.nodup

theorem enterLoop (h : b.Sound values) {header : String} {count : Nat} {inner : Bindings}
    (henter : b.enterLoop header = .ok (count, inner)) : inner.Sound values := by
  -- Without a scope no path leads to a list, and the loop could not have been entered.
  have hne := scopes_ne_nil_of_enterLoop henter
  obtain ⟨active, rfl, -⟩ := exists_of_enterLoop henter
  refine h.of_getLast? ?_ (List.getLast?_append_of_ne_nil [[]] hne)
  rcases h.scopes with hscopes | ⟨hnil, -⟩
  · simp [within, hscopes]
  · exact absurd hnil hne

theorem iteration (h : b.Sound values) {header : String} {index : Nat} {inner : Bindings}
    (hiteration : b.iteration header index = .ok inner) : inner.Sound values := by
  obtain ⟨scopes, predicates, loops⟩ := b
  match loops, scopes, hiteration with
  | active :: loops, vars :: outer, rfl =>
    -- A loop is being run, so that the scope of the iteration is not the outermost one.
    rcases h.scopes with hscopes | ⟨hnil, -⟩
    · have hne : outer ≠ [] := List.ne_nil_of_length_eq_add_one (Nat.succ.inj hscopes)
      refine h.of_getLast? hscopes ?_
      exact (List.getLast?_append_of_ne_nil [_] hne).trans
        (List.getLast?_append_of_ne_nil [vars] hne).symm
    · cases hnil

theorem exitLoop (h : b.Sound values) : b.exitLoop.Sound values := by
  obtain ⟨scopes, predicates, loops⟩ := b
  cases loops with
  | nil => exact h
  | cons active loops =>
    rcases h.scopes with hscopes | ⟨-, hnil⟩
    · obtain ⟨vars, outer, rfl⟩ := List.exists_cons_of_length_eq_add_one hscopes
      have houter : outer.length = loops.length + 1 := Nat.succ.inj hscopes
      have hne : outer ≠ [] := List.ne_nil_of_length_eq_add_one houter
      exact h.of_getLast? houter (List.getLast?_append_of_ne_nil [vars] hne).symm
    · cases hnil

theorem insert (h : b.Sound values) (name : String) (value : Value) :
    (b.insert name value).Sound fun other => if other = name then some value else values other := by
  have hglobals : (b.insert name value).globals = putNamed name value b.globals := by
    rw [globals, Bindings.insert, List.getLast?_concat]
    rfl
  refine ⟨.inl ?_, fun other => ?_, ?_⟩
  · rw [Bindings.insert, List.length_append, List.length_dropLast, List.length_singleton]
    rcases h.scopes with hscopes | ⟨hscopes, hloops⟩
    · rw [hscopes, Nat.add_sub_cancel]
    · rw [hscopes, hloops]
      rfl
  · rw [hglobals, lookup_putNamed, h.lookup]
  · rw [hglobals]
    exact nodup_putNamed name value h.nodup

/-- An answer leaves bindings as they are. -/
theorem leads_answer {α : Type} (values : String → Option Value)
    (f : Bindings → Except RenderError α) :
    Leads (Sound values) (Sound values) (fun _ => Sound values) (answer f) := by
  intro b h
  rw [answer_apply]
  cases f b with
  | ok a => exact h
  | error e => exact h

/-- Every call of the bindings as a scope keeps them sound, on whatever level it is made, and
    whether it succeeds or fails. -/
theorem levels (values : String → Option Value) :
    scope.Levels (fun _ => Sound values) fun _ => Sound values where
  condition _ _ := leads_answer values _
  value _ _ := leads_answer values _
  enterLoop header _ := by
    intro b h
    cases henter : b.enterLoop header with
    | error e =>
      rw [scope_enterLoop_error henter]
      exact h
    | ok entered =>
      rw [scope_enterLoop_ok henter]
      exact h.enterLoop henter
  iteration header index _ := by
    intro b h
    cases hiteration : b.iteration header index with
    | error e =>
      rw [scope_iteration_error hiteration]
      exact h
    | ok inner =>
      rw [scope_iteration_ok hiteration]
      exact h.iteration hiteration
  exitLoop _ _ _ := exitLoop

theorem render (values : String → Option Value) (t : Template) :
    Leads (Sound values) (Sound values) (fun _ => Sound values) (t.render scope) := by
  intro b h
  cases hjumps : Jumps.ofCode t.program.code with
  | error pc =>
    rw [Template.render, render_of_ofCode_error hjumps]
    exact h
  | ok jumps => exact (levels values).render hjumps 0 b h

/-- An action leaves bindings sound, with the value that it gives, if it gives one. -/
theorem leads_run (values : String → Option Value) (action : Action) :
    let values' := fun name => (action.given? name).or (values name)
    Leads (Sound values) (Sound values') (fun _ => Sound values') action.run := by
  intro values'
  cases action with
  | insert name given =>
    intro b h
    have hvalues : values' = fun other => if other = name then some given else values other := by
      funext other
      simp only [values', Action.given?]
      split <;> rfl
    rw [hvalues]
    exact h.insert name given
  | decideBy text predicate =>
    intro b h
    exact Sound.mk h.scopes h.lookup h.nodup
  | lookup path => exact (leads_answer values _).bind fun _ => .pure _
  | condition text => exact ((levels values).condition text 0).bind fun _ => .pure _
  | enterLoop header => exact ((levels values).enterLoop header 0).bind fun _ => .pure _
  | iteration header index => exact (levels values).iteration header index 0
  | exitLoop header => exact fun _ h => h.exitLoop
  | value expr => exact ((levels values).value expr 0).bind fun _ => .pure _
  | render template => exact (render values template).bind fun _ => .pure _

theorem apply (h : b.Sound values) (action : Action) :
    (action.apply b).Sound fun name => (action.given? name).or (values name) := by
  have hleads := leads_run values action b h
  rw [Action.apply]
  cases hrun : action.run b with
  | ok _ b' =>
    rw [hrun] at hleads
    exact hleads
  | error _ b' =>
    rw [hrun] at hleads
    exact hleads

/-- Bindings stay sound through a session, with the values last given. -/
theorem after {start : Bindings} (h : start.Sound fun _ => none) (actions : List Action) :
    (start.after actions).Sound (lastGiven actions) := by
  induction actions using List.reverseRecOn with
  | nil => exact h
  | append_singleton actions action ih =>
    have hgiven : lastGiven (actions ++ [action]) =
        fun name => (action.given? name).or (lastGiven actions name) := by
      funext name
      -- The last action is looked at first.
      rw [lastGiven, List.reverse_concat, List.findSome?_cons]
      cases action.given? name with
      | none => rfl
      | some given => rfl
    rw [Bindings.after, List.foldl_concat, hgiven]
    exact ih.apply action

end Sound

theorem sound_empty : empty.Sound fun _ => none :=
  ⟨.inl rfl, fun _ => rfl, .nil⟩

/-- Bindings without any scope are sound. -/
theorem sound_default : Sound (fun _ => none) {} :=
  ⟨.inr ⟨rfl, rfl⟩, fun _ => rfl, .nil⟩

end Bindings

open Bindings

/-- After every session that starts with empty bindings, with one scope or without any, there is
    one scope more than loops being run, or there are none of either. The outermost scope has the
    values last given under their names, each name once, and nothing else. And whenever a rendering
    succeeds then, it leaves the scopes and the loops as they are. -/
theorem session_sound (start : Bindings) (hstart : start = .empty ∨ start = {})
    (actions : List Action) :
    let b := start.after actions
    (b.scopes.length = b.loops.length + 1 ∨ b.scopes.length = 0 ∧ b.loops.length = 0) ∧
      (∀ name, b.globals.lookup name = lastGiven actions name) ∧
      (b.globals.map Prod.fst).Nodup ∧
      ∀ (t : Template) (out : Query Value) (b' : Bindings),
        t.render Bindings.scope b = .ok out b' → b'.scopes = b.scopes ∧ b'.loops = b.loops := by
  intro b
  have hsound : b.Sound (lastGiven actions) := by
    rcases hstart with rfl | rfl
    · exact sound_empty.after actions
    · exact sound_default.after actions
  refine ⟨?_, hsound.lookup, hsound.nodup, fun t out b' hrender => ?_⟩
  · rcases hsound.scopes with hscopes | ⟨hscopes, hloops⟩
    · exact .inl hscopes
    · exact .inr ⟨by rw [hscopes]; rfl, by rw [hloops]; rfl⟩
  · rw [render_ok_eq hrender]
    exact ⟨rfl, rfl⟩

/-- From bindings without any scope: a loop is entered and never left, a value is given within it to
    the name of its item, and a rendering fails within a second loop, which stays open too. -/
theorem session_sound_unbalanced :
    let actions : List Action :=
      [.exitLoop "x in xs", .insert "xs" (.list [.int 1]), .enterLoop "x in xs",
        .iteration "x in xs" 0, .insert "x" (.text "outer"),
        .render ⟨"", [], ⟨[.beginLoop "x in xs", .bind [.value "y"], .endLoop], 0⟩, {}⟩]
    let b := Bindings.after {} actions
    b.loops.length = 2 ∧ b.scopes.length = 3 ∧ b.globals.lookup "x" = some (.text "outer") ∧
      (b.globals.map Prod.fst).Nodup := by
  intro actions b
  obtain ⟨hscopes, hlookup, hnodup, -⟩ := session_sound {} (.inr rfl) actions
  have hloops : b.loops.length = 2 := by decide +kernel
  refine ⟨hloops, ?_, hlookup "x", hnodup⟩
  rcases hscopes with hscopes | ⟨-, hnone⟩
  · rw [hscopes, hloops]
  · exact absurd (hnone.symm.trans hloops) (by decide)

end QueryTemplate
