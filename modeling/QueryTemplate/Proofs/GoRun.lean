import QueryTemplate.Proofs.Regex
import QueryTemplate.Target.GoSource

/-!
# Running Go statements

The part of Go that the statements of a template are made of where they close a clause, with its
meaning. Variables live in scopes: the newest comes first, a name means the newest variable of that
name, and the variables of a block are gone after it. Texts are sequences of bytes, of which a byte
can be taken by its index. To take one that is not there, or to use what a variable of another type
holds, has no meaning.

* `GoCode.Expr`, `GoCode.Stmt`: expressions and statements, with their writing and their meaning;
* `GoCode.closing`: the statements that close a clause;
* `GoCode.lines_closing`: their writing is what is printed where a clause is closed;
* `GoCode.runAll_closing`: they come to an end, and leave the clause in the variables around.
-/

namespace QueryTemplate

/-- The bytes of a text. -/
def Text.bytes (s : String) : List UInt8 :=
  s.toByteArray.data.toList

namespace GoCode

/-! ## Expressions -/

/-- What a variable holds. -/
inductive Val (α : Type) where
  /-- A text. -/
  | text (s : String)
  /-- A number. -/
  | number (n : Int)
  /-- A truth value. -/
  | truth (b : Bool)
  /-- A byte. -/
  | byte (b : UInt8)
  /-- A character. -/
  | rune (c : Char)
  /-- A text that is being built. -/
  | builder (s : String)
  /-- Parameters. -/
  | slice (vs : List α)
  /-- A regular expression. -/
  | regex (p : Regex)
deriving DecidableEq

/-- Functions of one argument. -/
inductive Fn where
  /-- A text without the blanks around it. -/
  | trimSpace
  /-- The text that has been built. -/
  | string
  /-- The number of bytes that have been built. -/
  | len
  /-- The character with the number that a byte is. -/
  | rune
  /-- Whether a character is blank. -/
  | isSpace
  /-- Whether something is false. -/
  | not

/-- Functions of two arguments. -/
inductive Fn₂ where
  /-- A text without another at its end. -/
  | trimSuffix
  /-- A text without the matches of a regular expression. -/
  | removeAll
  /-- The byte of a text with an index. -/
  | index
  /-- The difference of numbers. -/
  | minus
  /-- Whether a number is greater than another. -/
  | greater
  /-- Whether texts differ. -/
  | differs
  /-- Parameters after parameters. -/
  | appendAll

/-- Expressions. -/
inductive Expr where
  /-- What a variable holds. -/
  | var (name : String)
  /-- A text. -/
  | quoted (s : String)
  /-- A number. -/
  | number (n : Nat)
  /-- A regular expression, in whatever case. -/
  | compiled (p : Regex)
  /-- A function of an argument. -/
  | call (f : Fn) (e : Expr)
  /-- A function of two arguments. -/
  | call₂ (f : Fn₂) (e e' : Expr)
  /-- Whether both hold; the second is asked for only if the first holds. -/
  | both (e e' : Expr)

/-- What stands around the argument of a function. -/
def Fn.around : Fn → String × String
  | trimSpace => ("strings.TrimSpace(", ")")
  | string => ("", ".String()")
  | len => ("", ".Len()")
  | rune => ("rune(", ")")
  | isSpace => ("unicode.IsSpace(", ")")
  | not => ("!", "")

/-- What stands around and between the arguments of a function. -/
def Fn₂.around : Fn₂ → String × String × String
  | trimSuffix => ("strings.TrimSuffix(", ", ", ")")
  | removeAll => ("", ".ReplaceAllString(", ", \"\")")
  | index => ("", "[", "]")
  | minus => ("", "-", "")
  | greater => ("", " > ", "")
  | differs => ("", " != ", "")
  | appendAll => ("append(", ", ", "...)")

/-- The writing of an expression. -/
def Expr.print : Expr → String
  | var name => name
  | quoted s => goQuoted s
  | number n => toString n
  | compiled p => "regexp.MustCompile(`(?i)" ++ p.source ++ "`)"
  | call f e => f.around.1 ++ e.print ++ f.around.2
  | call₂ f e e' => f.around.1 ++ e.print ++ f.around.2.1 ++ e'.print ++ f.around.2.2
  | both e e' => e.print ++ " && " ++ e'.print

namespace Expr

theorem print_var (name : String) : (var name).print = name := rfl

theorem print_quoted (s : String) : (quoted s).print = goQuoted s := rfl

theorem print_number (n : Nat) : (number n).print = toString n := rfl

theorem print_call (f : Fn) (e : Expr) :
    (call f e).print = f.around.1 ++ e.print ++ f.around.2 := rfl

theorem print_call₂ (f : Fn₂) (e e' : Expr) : (call₂ f e e').print =
    f.around.1 ++ e.print ++ f.around.2.1 ++ e'.print ++ f.around.2.2 := rfl

theorem print_both (e e' : Expr) : (both e e').print = e.print ++ " && " ++ e'.print := rfl

end Expr

variable {α : Type}

/-- The value of a function of one argument. -/
def Fn.apply : Fn → Val α → Option (Val α)
  | trimSpace, .text s => some (.text (Text.trim s))
  | string, .builder s => some (.text s)
  | len, .builder s => some (.number (Text.bytes s).length)
  | rune, .byte b => some (.rune (.ofNat b.toNat))
  | isSpace, .rune c => some (.truth (Text.isBlank c))
  | not, .truth b => some (.truth !b)
  | _, _ => none

/-- The value of a function of two arguments. -/
def Fn₂.apply : Fn₂ → Val α → Val α → Option (Val α)
  | trimSuffix, .text s, .text stop =>
    some (.text (.ofList ((Text.stripEnd stop.toList s.toList).getD s.toList)))
  | removeAll, .regex p, .text s =>
    some (.text (.ofList (p.removeAll Regex.isNarrowBlank s.toList)))
  | index, .text s, .number i =>
    if 0 ≤ i then (Text.bytes s)[i.toNat]?.map .byte else none
  | minus, .number m, .number n => some (.number (m - n))
  | greater, .number m, .number n => some (.truth (n < m))
  | differs, .text s, .text t => some (.truth (s ≠ t))
  | appendAll, .slice vs, .slice ws => some (.slice (vs ++ ws))
  | _, _, _ => none

/-- The variables, the newest first. -/
abbrev Env (α : Type) := List (String × Val α)

/-- What the newest variable of a name holds. -/
def Env.get? (name : String) : Env α → Option (Val α)
  | [] => none
  | (other, v) :: env => if other = name then some v else Env.get? name env

/-- The variables, where the newest of a name holds another value. -/
def Env.set (name : String) (v : Val α) : Env α → Env α
  | [] => []
  | (other, w) :: env =>
    if other = name then (other, v) :: env else (other, w) :: Env.set name v env

/-- The value of an expression. -/
def Expr.eval (env : Env α) : Expr → Option (Val α)
  | var name => env.get? name
  | quoted s => some (.text s)
  | number n => some (.number n)
  | compiled p => some (.regex p)
  | call f e => (e.eval env).bind f.apply
  | call₂ f e e' => (e.eval env).bind fun v => (e'.eval env).bind (f.apply v)
  | both e e' =>
    match e.eval env with
    | some (.truth false) => some (.truth false)
    | some (.truth true) =>
      match e'.eval env with
      | some (.truth b) => some (.truth b)
      | _ => none
    | _ => none

/-! ## Statements -/

/-- Statements. -/
inductive Stmt where
  /-- A new variable. -/
  | define (name : String) (e : Expr)
  /-- Another value for a variable. -/
  | assign (name : String) (e : Expr)
  /-- A text that is added to the one being built. -/
  | write (name : String) (e : Expr)
  /-- A block that is run if something holds, which may have a variable of its own. -/
  | ifThen (init : Option (String × Expr)) (condition : Expr) (body : List Stmt)

mutual

/-- The lines of a statement. -/
def Stmt.lines : Stmt → List Line
  | .define name e => [{ text := name ++ " := " ++ e.print }]
  | .assign name e => [{ text := name ++ " = " ++ e.print }]
  | .write name e => [{ text := name ++ ".WriteString(" ++ e.print ++ ")" }]
  | .ifThen none condition body =>
    .opening ("if " ++ condition.print ++ " \x7b") :: (linesOf body ++ [.closing])
  | .ifThen (some (name, e)) condition body =>
    .opening ("if " ++ name ++ " := " ++ e.print ++ "; " ++ condition.print ++ " \x7b") ::
      (linesOf body ++ [.closing])

/-- The lines of statements. -/
def linesOf : List Stmt → List Line
  | [] => []
  | stmt :: stmts => stmt.lines ++ linesOf stmts

end

/-- The variables after a block that began with `outer`. -/
def Env.leave (outer after : Env α) : Env α :=
  after.drop (after.length - outer.length)

/-- The variables with that of an `if`. -/
def Env.enter (env : Env α) : Option (String × Expr) → Option (Env α)
  | none => some env
  | some (name, e) => (e.eval env).map fun v => (name, v) :: env

mutual

/-- The variables after a statement. -/
def Stmt.run (env : Env α) : Stmt → Option (Env α)
  | .define name e => (e.eval env).map fun v => (name, v) :: env
  | .assign name e =>
    match e.eval env, env.get? name with
    | some v, some _ => some (env.set name v)
    | _, _ => none
  | .write name e =>
    match e.eval env, env.get? name with
    | some (.text s), some (.builder before) => some (env.set name (.builder (before ++ s)))
    | _, _ => none
  | .ifThen init condition body =>
    (env.enter init).bind fun inner =>
      match condition.eval inner with
      | some (.truth true) => (runAll inner body).map env.leave
      | some (.truth false) => some (env.leave inner)
      | _ => none

/-- The variables after statements. -/
def runAll (env : Env α) : List Stmt → Option (Env α)
  | [] => some env
  | stmt :: stmts => (stmt.run env).bind fun env => runAll env stmts

end

/-! ## Closing a clause -/

/-- What finishes the clause in the variable `c`. -/
def cleaning : ClauseKind → List Stmt
  | .conditions =>
    [.define "reTrim" (.compiled .connective),
      .assign "c" (.call .trimSpace (.call₂ .removeAll (.var "reTrim") (.var "c")))]
  | .assignments =>
    [.assign "c" (.call .trimSpace (.call₂ .trimSuffix (.var "c") (.quoted ",")))]

/-- Whether there are `n` bytes, more than none, and the last is no blank. -/
def unspaced (buffer : String) : Expr :=
  .both (.call₂ .greater (.var "n") (.number 0))
    (.call .not (.call .isSpace (.call .rune (.call₂ .index (.call .string (.var buffer))
      (.call₂ .minus (.var "n") (.number 1))))))

/-- What adds a blank, unless nothing or a blank comes before. -/
def spacing (outer : Sink) : Stmt :=
  .ifThen (some ("n", .call .len (.var outer.buffer))) (unspaced outer.buffer)
    [.write outer.buffer (.quoted " ")]

/-- What appends the clause in the variable `c`, if anything of it is left. -/
def splicing (kind : ClauseKind) (scratch outer : Sink) : Stmt :=
  .ifThen none (.call₂ .differs (.var "c") (.quoted ""))
    [spacing outer,
      .write outer.buffer (.quoted kind.head),
      .write outer.buffer (.var "c"),
      .assign outer.params (.call₂ .appendAll (.var outer.params) (.var scratch.params))]

/-- The statements that close a clause collected in `scratch` and append it to `outer`. -/
def closing (kind : ClauseKind) (scratch outer : Sink) : List Stmt :=
  .define "c" (.call .trimSpace (.call .string (.var scratch.buffer))) ::
    (cleaning kind ++ [splicing kind scratch outer])

theorem linesOf_append (stmts more : List Stmt) :
    linesOf (stmts ++ more) = linesOf stmts ++ linesOf more := by
  induction stmts with
  | nil => rfl
  | cons stmt stmts ih => rw [List.cons_append, linesOf, ih, linesOf, List.append_assoc]

theorem linesOf_cleaning (kind : ClauseKind) :
    linesOf (cleaning kind) = GoSource.cleanLines kind := by
  cases kind with
  | conditions => decide +kernel
  | assignments => decide +kernel

theorem lines_spacing (outer : Sink) : (spacing outer).lines =
    [.opening ("if n := " ++ outer.buffer ++ ".Len(); n > 0 && !unicode.IsSpace(rune(" ++
        outer.buffer ++ ".String()[n-1])) \x7b"),
      { text := outer.buffer ++ ".WriteString(\" \")" },
      .closing] := by
  have hblank : goQuoted " " = "\" \"" := by decide +kernel
  have hzero : toString 0 = "0" := by decide +kernel
  have hone : toString 1 = "1" := by decide +kernel
  simp only [spacing, unspaced, Stmt.lines, linesOf, Expr.print_var, Expr.print_quoted,
    Expr.print_number, Expr.print_call, Expr.print_call₂, Expr.print_both, Fn.around, Fn₂.around,
    hblank, hzero, hone, List.cons_append, List.nil_append]
  simp [Line.opening, ← String.toList_inj]

theorem lines_splicing (kind : ClauseKind) (scratch outer : Sink) :
    (splicing kind scratch outer).lines =
      .opening "if c != \"\" \x7b" :: ((spacing outer).lines ++
        [{ text := outer.buffer ++ ".WriteString(" ++ goQuoted kind.head ++ ")" },
          { text := outer.buffer ++ ".WriteString(c)" },
          { text := outer.params ++ " = append(" ++ outer.params ++ ", " ++
              scratch.params ++ "...)" },
          .closing]) := by
  have hempty : goQuoted "" = "\"\"" := by decide +kernel
  simp only [splicing, Stmt.lines, linesOf, Expr.print_var, Expr.print_quoted, Expr.print_call₂,
    Fn₂.around, hempty, List.cons_append, List.nil_append, List.append_assoc]
  simp [Line.opening, ← String.toList_inj]

/-- In writing, the statements are what is printed where a clause is closed, up to the end of its
    block. -/
theorem lines_closing (kind : ClauseKind) (scratch outer : Sink) :
    linesOf (closing kind scratch outer) ++ [.closing] =
      GoSource.endClauseLines kind scratch outer := by
  have hfirst : (Stmt.define "c" (.call .trimSpace (.call .string (.var scratch.buffer)))).lines =
      [{ text := "c := strings.TrimSpace(" ++ scratch.buffer ++ ".String())" }] := by
    simp only [Stmt.lines, Expr.print_var, Expr.print_call, Fn.around]
    simp [← String.toList_inj]
  rw [closing, linesOf, hfirst, linesOf_append, linesOf_cleaning, linesOf, linesOf, lines_splicing,
    lines_spacing, GoSource.endClauseLines]
  simp only [List.cons_append, List.nil_append, List.append_nil, List.append_assoc]

/-! ## Variables -/

namespace Env

variable {env : Env α} {name other : String} {v w : Val α}

theorem get?_cons_self : Env.get? name ((name, v) :: env) = some v :=
  if_pos rfl

theorem get?_cons_of_ne (h : other ≠ name) :
    Env.get? name ((other, v) :: env) = env.get? name :=
  if_neg h

theorem set_cons_self : Env.set name v ((name, w) :: env) = (name, v) :: env :=
  if_pos rfl

theorem set_cons_of_ne (h : other ≠ name) :
    Env.set name v ((other, w) :: env) = (other, w) :: env.set name v :=
  if_neg h

theorem get?_set_self (h : env.get? name = some w) : (env.set name v).get? name = some v := by
  induction env with
  | nil => cases h
  | cons entry env ih =>
    obtain ⟨other, u⟩ := entry
    by_cases hname : other = name
    · subst hname
      rw [set_cons_self, get?_cons_self]
    · rw [get?_cons_of_ne hname] at h
      rw [set_cons_of_ne hname, get?_cons_of_ne hname, ih h]

theorem get?_set_of_ne (h : other ≠ name) : (env.set other v).get? name = env.get? name := by
  induction env with
  | nil => rfl
  | cons entry env ih =>
    obtain ⟨third, u⟩ := entry
    by_cases hother : third = other
    · subst hother
      rw [set_cons_self, get?_cons_of_ne h, get?_cons_of_ne h]
    · rw [set_cons_of_ne hother, Env.get?, Env.get?, ih]

theorem set_set (name : String) (v w : Val α) (env : Env α) :
    (env.set name w).set name v = env.set name v := by
  induction env with
  | nil => rfl
  | cons entry env ih =>
    obtain ⟨other, u⟩ := entry
    by_cases hname : other = name
    · subst hname
      rw [set_cons_self, set_cons_self, set_cons_self]
    · rw [set_cons_of_ne hname, set_cons_of_ne hname, set_cons_of_ne hname, ih]

theorem set_eq_self (h : env.get? name = some v) : env.set name v = env := by
  induction env with
  | nil => rfl
  | cons entry env ih =>
    obtain ⟨other, u⟩ := entry
    by_cases hname : other = name
    · subst hname
      rw [get?_cons_self] at h
      rw [set_cons_self, Option.some.inj h]
    · rw [get?_cons_of_ne hname] at h
      rw [set_cons_of_ne hname, ih h]

theorem length_set (name : String) (v : Val α) (env : Env α) :
    (env.set name v).length = env.length := by
  induction env with
  | nil => rfl
  | cons entry env ih =>
    rw [Env.set]
    split
    · rfl
    · rw [List.length_cons, List.length_cons, ih]

/-- Leaving a block forgets the variables that are new in it. -/
theorem leave_append (locals : Env α) {after : Env α} (h : after.length = env.length) :
    env.leave (locals ++ after) = after := by
  rw [leave, List.length_append, h, Nat.add_sub_cancel, List.drop_left]

/-- The variables with those of a clause that has been collected. -/
def declare (env : Env α) (sink : Sink) (clause : Query α) : Env α :=
  (sink.params, .slice clause.params) :: (sink.buffer, .builder clause.sql) :: env

/-- The variables, where those that collect hold another query. -/
def collect (env : Env α) (sink : Sink) (query : Query α) : Env α :=
  (env.set sink.buffer (.builder query.sql)).set sink.params (.slice query.params)

/-- The variables that collect hold a query. -/
structure Holds (env : Env α) (sink : Sink) (query : Query α) : Prop where
  buffer : env.get? sink.buffer = some (.builder query.sql)
  params : env.get? sink.params = some (.slice query.params)

variable {sink : Sink} {query : Query α}

theorem Holds.collect_eq (h : env.Holds sink query) : env.collect sink query = env := by
  rw [collect, set_eq_self h.buffer, set_eq_self h.params]

theorem length_collect (env : Env α) (sink : Sink) (query : Query α) :
    (env.collect sink query).length = env.length := by
  rw [collect, length_set, length_set]

/-- Another variable does not change what collects. -/
theorem Holds.cons (h : env.Holds sink query) (hbuffer : other ≠ sink.buffer)
    (hparams : other ≠ sink.params) : Env.Holds ((other, v) :: env) sink query :=
  ⟨(get?_cons_of_ne hbuffer).trans h.buffer, (get?_cons_of_ne hparams).trans h.params⟩

theorem collect_cons (hbuffer : other ≠ sink.buffer) (hparams : other ≠ sink.params) :
    Env.collect ((other, v) :: env) sink query = (other, v) :: env.collect sink query := by
  rw [collect, set_cons_of_ne hbuffer, set_cons_of_ne hparams]
  rfl

end Env

/-! ## Running the closing statements -/

/-- The names that the statements that close a clause use for something of their own. -/
def reserved : List String :=
  ["append", "c", "n", "reTrim", "regexp", "rune", "strings", "unicode"]

/-- The names in the statements that close a clause mean different things. -/
def Distinct (scratch outer : Sink) : Prop :=
  (reserved ++ [scratch.buffer, scratch.params, outer.buffer, outer.params]).Nodup

instance (scratch outer : Sink) : Decidable (Distinct scratch outer) :=
  inferInstanceAs (Decidable (List.Nodup _))

namespace Distinct

variable {scratch outer : Sink}

theorem reserved_ne (h : Distinct scratch outer) {name other : String} (hname : name ∈ reserved)
    (hother : other ∈ [scratch.buffer, scratch.params, outer.buffer, outer.params]) :
    name ≠ other :=
  (List.nodup_append.1 h).2.2 name hname other hother

theorem sinks_ne (h : Distinct scratch outer) :
    (scratch.buffer ≠ scratch.params ∧ outer.buffer ≠ outer.params) ∧
      (scratch.buffer ≠ outer.buffer ∧ scratch.buffer ≠ outer.params) ∧
      (scratch.params ≠ outer.buffer ∧ scratch.params ≠ outer.params) := by
  have hsinks := (List.nodup_append.1 h).2.1
  simp only [List.nodup_cons, List.mem_cons, List.not_mem_nil, or_false, not_or] at hsinks
  exact ⟨⟨hsinks.1.1, hsinks.2.2.1⟩, hsinks.1.2, hsinks.2.1⟩

end Distinct

/-- What comes between a query and a clause: nothing if the last byte is a blank. -/
def gap (sql : String) : String :=
  if (Text.bytes sql).getLast?.all fun b => Text.isBlank (.ofNat b.toNat) then "" else " "

/-- The query with the text of a clause and its parameters appended after a gap, if there is any
    text. -/
def spliced (kind : ClauseKind) (gap text : String) (params : List α) (query : Query α) : Query α :=
  if text = "" then query
  else
    { sql := query.sql ++ gap ++ kind.head ++ text
      params := query.params ++ params }

/-- The text of a clause without what joined its parts to parts left out. -/
def cleaned : ClauseKind → String → String
  | .conditions, text =>
    Text.trim (.ofList (Regex.connective.removeAll Regex.isNarrowBlank text.toList))
  | .assignments, text =>
    Text.trim (.ofList ((Text.stripEnd [','] text.toList).getD text.toList))

variable {env : Env α} {scratch outer : Sink} {query : Query α}

theorem run_write {name before text : String} {e : Expr}
    (hname : env.get? name = some (.builder before)) (he : e.eval env = some (.text text)) :
    (Stmt.write name e).run env = some (env.set name (.builder (before ++ text))) := by
  rw [Stmt.run, he, hname]

theorem eval_unspaced {buffer sql : String} (h : env.get? buffer = some (.builder sql))
    (hn : env.get? "n" = some (.number (Text.bytes sql).length)) :
    (unspaced buffer).eval env =
      some (.truth !((Text.bytes sql).getLast?.all fun b => Text.isBlank (.ofNat b.toNat))) := by
  rcases List.eq_nil_or_concat (Text.bytes sql) with hnil | ⟨front, b, hbytes⟩
  · simp [unspaced, Expr.eval, hn, hnil, Fn₂.apply]
  · rw [List.concat_eq_append] at hbytes
    simp [unspaced, Expr.eval, h, hn, hbytes, Fn₂.apply, Fn.apply]

theorem run_spacing (hn : "n" ≠ outer.buffer) {sql : String}
    (h : env.get? outer.buffer = some (.builder sql)) :
    (spacing outer).run env = some (env.set outer.buffer (.builder (sql ++ gap sql))) := by
  let inner : Env α := ("n", .number (Text.bytes sql).length) :: env
  have henter : env.enter (some ("n", .call .len (.var outer.buffer))) = some inner := by
    rw [Env.enter, Expr.eval, Expr.eval, h]
    rfl
  have hsql : inner.get? outer.buffer = some (.builder sql) := (Env.get?_cons_of_ne hn).trans h
  rw [spacing, Stmt.run, henter, Option.bind_some, eval_unspaced hsql Env.get?_cons_self, gap]
  cases (Text.bytes sql).getLast?.all fun b => Text.isBlank (.ofNat b.toNat) with
  | true =>
    have hleave : env.leave inner = env := Env.leave_append [_] rfl
    simp [hleave, Env.set_eq_self h]
  | false =>
    have hwrite : runAll inner [.write outer.buffer (.quoted " ")] =
        some ([("n", .number (Text.bytes sql).length)] ++
          env.set outer.buffer (.builder (sql ++ " "))) := by
      rw [runAll, run_write hsql rfl, Env.set_cons_of_ne hn]
      rfl
    have hleave := Env.leave_append [("n", .number (Text.bytes sql).length)]
      (Env.length_set outer.buffer (.builder (sql ++ " ")) env)
    simpa [hwrite] using hleave

theorem run_splicing {kind : ClauseKind} {text : String} {params : List α}
    (hnames : Distinct scratch outer) (hc : env.get? "c" = some (.text text))
    (hparams : env.get? scratch.params = some (.slice params)) (hquery : env.Holds outer query) :
    (splicing kind scratch outer).run env =
      some (env.collect outer (spliced kind (gap query.sql) text params query)) := by
  have hn : "n" ≠ outer.buffer := hnames.reserved_ne (by decide) (by simp)
  have hbc : outer.buffer ≠ "c" := (hnames.reserved_ne (by decide) (by simp)).symm
  obtain ⟨⟨-, hbp⟩, -, hsb, -⟩ := hnames.sinks_ne
  have hcondition : (Expr.call₂ .differs (.var "c") (.quoted "")).eval env =
      some (.truth (text ≠ "")) := by
    rw [Expr.eval, Expr.eval, hc]
    rfl
  rw [splicing, Stmt.run, Env.enter, Option.bind_some, hcondition, spliced]
  by_cases htext : text = ""
  · have hleave : env.leave env = env := Env.leave_append [] rfl
    simp [htext, hleave, hquery.collect_eq]
  · have hwrite {before text : String} (e : Expr)
        (he : e.eval (env.set outer.buffer (.builder before)) = some (.text text)) :
        (Stmt.write outer.buffer e).run (env.set outer.buffer (.builder before)) =
          some (env.set outer.buffer (.builder (before ++ text))) := by
      rw [run_write (Env.get?_set_self hquery.buffer) he, Env.set_set]
    have hassign (sql : String) :
        (Stmt.assign outer.params
            (.call₂ .appendAll (.var outer.params) (.var scratch.params))).run
          (env.set outer.buffer (.builder sql)) =
        some (env.collect outer { sql := sql, params := query.params ++ params }) := by
      rw [Stmt.run, Expr.eval, Expr.eval, Expr.eval, Env.get?_set_of_ne hbp,
        Env.get?_set_of_ne hsb.symm, hquery.params, hparams]
      rfl
    have hrun : runAll env [spacing outer, .write outer.buffer (.quoted kind.head),
        .write outer.buffer (.var "c"),
        .assign outer.params (.call₂ .appendAll (.var outer.params) (.var scratch.params))] =
        some (env.collect outer
          { sql := query.sql ++ gap query.sql ++ kind.head ++ text
            params := query.params ++ params }) := by
      rw [runAll, run_spacing hn hquery.buffer, Option.bind_some, runAll, hwrite _ rfl,
        Option.bind_some, runAll, hwrite (.var "c") ((Env.get?_set_of_ne hbc).trans hc),
        Option.bind_some, runAll, hassign]
      rfl
    have hleave := Env.leave_append [] (env.length_collect outer
      { sql := query.sql ++ gap query.sql ++ kind.head ++ text, params := query.params ++ params })
    rw [List.nil_append] at hleave
    simp [htext, hrun, hleave]

/-- The variables that are new after the statements that clean a clause. -/
def locals : ClauseKind → Env α
  | .conditions => [("reTrim", .regex .connective)]
  | .assignments => []

theorem run_cleaning (kind : ClauseKind) (text : String) :
    runAll (("c", .text text) :: env) (cleaning kind) =
      some (locals kind ++ ("c", .text (cleaned kind text)) :: env) := by
  cases kind with
  | conditions => rfl
  | assignments => rfl

theorem runAll_append (stmts more : List Stmt) (env : Env α) :
    runAll env (stmts ++ more) = (runAll env stmts).bind fun env => runAll env more := by
  induction stmts generalizing env with
  | nil => rfl
  | cons stmt stmts ih =>
    rw [List.cons_append, runAll, runAll, Option.bind_assoc]
    exact congrArg _ (funext ih)

/-- The statements that close a clause come to an end. After its block the variables around it are
    as before, except that those that collect hold the query with the clause. -/
theorem runAll_closing {kind : ClauseKind} {clause : Query α} (hnames : Distinct scratch outer)
    (hquery : env.Holds outer query) :
    (runAll (env.declare scratch clause) (closing kind scratch outer)).map env.leave =
      some (env.collect outer (spliced kind (gap query.sql) (cleaned kind (Text.trim clause.sql))
        clause.params query)) := by
  obtain ⟨⟨hscratch, -⟩, ⟨hbb, hbp⟩, hpb, hpp⟩ := hnames.sinks_ne
  have hlocal {name : String} (hname : name ∈ reserved) :
      name ≠ scratch.params ∧ name ≠ outer.buffer ∧ name ≠ outer.params :=
    ⟨hnames.reserved_ne hname (by simp), hnames.reserved_ne hname (by simp),
      hnames.reserved_ne hname (by simp)⟩
  obtain ⟨hcs, hcb, hcp⟩ := hlocal (by decide : "c" ∈ reserved)
  obtain ⟨hrs, hrb, hrp⟩ := hlocal (by decide : "reTrim" ∈ reserved)
  generalize htext : cleaned kind (Text.trim clause.sql) = text
  generalize hresult : spliced kind (gap query.sql) text clause.params query = result
  have hfirst : (Stmt.define "c" (.call .trimSpace (.call .string (.var scratch.buffer)))).run
      (env.declare scratch clause) =
        some (("c", .text (Text.trim clause.sql)) :: env.declare scratch clause) := by
    rw [Stmt.run, Expr.eval, Expr.eval, Expr.eval, Env.declare, Env.get?_cons_of_ne hscratch.symm,
      Env.get?_cons_self]
    rfl
  -- past the variables of the block, the query is collected in the variables around it
  have hholds : Env.Holds (("c", .text text) :: env.declare scratch clause) outer query :=
    ((hquery.cons hbb hbp).cons hpb hpp).cons hcb hcp
  have hcollect : Env.collect (("c", .text text) :: env.declare scratch clause) outer result =
      [("c", .text text), (scratch.params, .slice clause.params),
        (scratch.buffer, .builder clause.sql)] ++ env.collect outer result := by
    rw [Env.collect_cons hcb hcp, Env.declare, Env.collect_cons hpb hpp, Env.collect_cons hbb hbp]
    rfl
  have hparams : Env.get? scratch.params (("c", .text text) :: env.declare scratch clause) =
      some (.slice clause.params) :=
    (Env.get?_cons_of_ne hcs).trans Env.get?_cons_self
  have hlast : (splicing kind scratch outer).run
      (locals kind ++ ("c", .text text) :: env.declare scratch clause) =
        some ((locals kind ++ [("c", .text text), (scratch.params, .slice clause.params),
          (scratch.buffer, .builder clause.sql)]) ++ env.collect outer result) := by
    rw [List.append_assoc, ← hcollect, ← hresult]
    cases kind with
    | conditions =>
      have hrc : "reTrim" ≠ "c" := by decide
      rw [locals, List.singleton_append, run_splicing hnames
        ((Env.get?_cons_of_ne hrc).trans Env.get?_cons_self)
        ((Env.get?_cons_of_ne hrs).trans hparams) (hholds.cons hrb hrp),
        Env.collect_cons hrb hrp]
      rfl
    | assignments => exact run_splicing hnames Env.get?_cons_self hparams hholds
  rw [closing, runAll, hfirst, Option.bind_some, runAll_append, run_cleaning, htext,
    Option.bind_some, runAll, hlast, Option.bind_some, runAll, Option.map_some,
    Env.leave_append _ (env.length_collect outer result)]

end GoCode

end QueryTemplate
