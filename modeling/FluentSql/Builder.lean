import FluentSql.Clause
import FluentSql.Compound
import FluentSql.Options
import FluentSql.Row

/-!
# The builder

A builder holds one draft, the last error and the rows that were fetched last.  Its verbs never
fail: what goes wrong is kept in the builder, and as long as an error is kept the verbs that extend
a statement do nothing.  A verb that starts a statement looks at no error and, if it succeeds,
forgets everything that was there before.

## Main definitions

* `Builder` — the state.
* `Builder.start`, `Builder.extend` — how verbs change it.
* `Builder.text`, `Builder.literalText` — the statement with placeholders, and with values in
  their place.
* `Builder.compile` — the statement as it is sent.

## Main results

* `Builder.extend_of_error`, `Builder.extend_of_ok`, `Builder.extend_of_failure` — what a change
  in place leaves behind.
* `Builder.compile_eq_ok_iff` — when a statement can be sent.
-/

namespace FluentSql

/-- A statement in the making, with what is known about its execution. -/
structure Builder where
  /-- The dialect of the statement. -/
  dialect : Dialect
  /-- The switches. -/
  options : Options
  /-- The statement so far. -/
  draft : Draft
  /-- The error that is kept. -/
  error : Option Error
  /-- The rows that were fetched last. -/
  rows : List Row
  /-- How many rows the last execution fetched or changed. -/
  rowCount : Option Nat
  deriving DecidableEq, Inhabited

namespace Builder

/-- A builder without a statement. -/
def new (dialect : Dialect) (options : Options) : Builder :=
  ⟨dialect, options, .empty, none, [], none⟩

/-! ### Changes -/

/-- Forget everything but the dialect and the switches. -/
def reset (b : Builder) : Builder := new b.dialect b.options

/-- Keep an error. -/
def record (b : Builder) (e : Error) : Builder := { b with error := some e }

/-- Keep a message of the caller as the error; an empty message clears the error. -/
def setError (b : Builder) (message : String) : Builder :=
  if message.isEmpty then { b with error := none } else b.record (.custom message)

/-- Take up a new draft and forget everything else, or keep the error that it gave. -/
def start (b : Builder) (d : Except Error Draft) : Builder :=
  match d with
  | .ok d => { b.reset with draft := d }
  | .error e => b.record e

/-- Change the draft in place, and keep the error if that fails.  Nothing happens while there is an
error. -/
def extend (b : Builder) (edit : Edit Unit) : Builder :=
  match b.error with
  | some _ => b
  | none =>
    match edit b.draft with
    | .ok _ d => { b with draft := d }
    | .error e d => { b with draft := d }.record e

/-! ### Views -/

/-- The statement so far. -/
def statement (b : Builder) : Statement := b.draft.statement

/-- The values bound to the placeholders. -/
def params (b : Builder) : List Value := b.statement.params

/-- The text of the statement, with placeholders. -/
def text (b : Builder) : String := b.statement.render

/-- The text of the statement with literals of the values, for display only. -/
def literalText (b : Builder) : String :=
  String.ofList (Placeholder.fill b.text.toList (b.params.map fun v => v.literal.toList))

/-- The message of the error, empty if there is none. -/
def errorMessage (b : Builder) : String := b.error.elim "" Error.message

/-- Whether there is an error. -/
def hasError (b : Builder) : Bool := b.error.isSome

/-- The error, as a failure. -/
def check (b : Builder) : Except Error Unit :=
  match b.error with
  | some e => .error e
  | none => .ok ()

/-- The statement as it is sent.  There must be no error, a statement, and no set operator that
waits for its section. -/
def compile (b : Builder) : Except Error Fragment := do
  b.check
  if b.statement.isEmpty then throw (.emptyInput "sql" "QueryBuilder::compile")
  if b.draft.needsSection then throw (.missingSelect "QueryBuilder::compile")
  return ⟨terminated b.text, b.params⟩

/-! ### What the changes do -/

@[simp] theorem draft_record (b : Builder) (e : Error) : (b.record e).draft = b.draft := rfl

@[simp] theorem error_record (b : Builder) (e : Error) : (b.record e).error = some e := rfl

/-- While an error is kept nothing extends the statement. -/
theorem extend_of_error {b : Builder} {e : Error} (h : b.error = some e) (edit : Edit Unit) :
    b.extend edit = b := by
  rw [extend, h]

/-- Without an error a change gives the new draft. -/
theorem extend_of_ok {b : Builder} {edit : Edit Unit} {d : Draft} (h : b.error = none)
    (hd : edit b.draft = .ok () d) : b.extend edit = { b with draft := d } := by
  rw [extend, h]
  simp [hd]

/-- A change that fails leaves the draft as far as it came, and its error. -/
theorem extend_of_failure {b : Builder} {edit : Edit Unit} {e : Error} {d : Draft}
    (h : b.error = none) (he : edit b.draft = .error e d) :
    b.extend edit = { b with draft := d }.record e := by
  rw [extend, h]
  simp [he]

/-- What is sent is the text of the statement, closed, with its parameters; and it is sent when
there is no error, there is a statement, and no set operator waits for its section. -/
theorem compile_eq_ok_iff {b : Builder} {q : Fragment} :
    b.compile = .ok q ↔
      b.error = none ∧ b.statement.isEmpty = false ∧ b.draft.needsSection = false
        ∧ q = ⟨terminated b.text, b.params⟩ := by
  cases he : b.error with
  | some e => simp [compile, check, he, bind, Except.bind]
  | none =>
    cases hs : b.statement.isEmpty <;> cases hp : b.draft.needsSection <;>
      simp [compile, check, he, hs, hp, bind, Except.bind, pure, Except.pure, throw, throwThe,
        MonadExceptOf.throw, eq_comm]

end Builder

end FluentSql
