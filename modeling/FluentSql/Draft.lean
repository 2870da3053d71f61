import FluentSql.Field
import FluentSql.Statement

/-!
# Drafts

What the verbs of a builder work on: the statement so far, and the projection that a further
section may repeat.  A draft is changed in place, so a change that fails halfway leaves behind what
it wrote before.

## Main definitions

* `Draft` — a statement and its last projection.
* `Draft.needsSection` — the check of verbs that cannot stand between a set operator and its
  section.
* `Edit` — a change in place, which may fail.
* `Edit.check`, `Edit.failIf` — checks, which write nothing.
* `Edit.onStatement`, `Edit.remember` — writes, which cannot fail.
-/

namespace FluentSql

/-- A statement in the making. -/
structure Draft where
  /-- The statement so far. -/
  statement : Statement
  /-- The fields of the last SELECT. -/
  projection : List Field
  deriving DecidableEq, Inhabited

namespace Draft

/-- The draft without a statement. -/
protected def empty : Draft := ⟨.empty, []⟩

/-- The draft of a statement that is no SELECT. -/
def ofFragment (kind : StatementKind) (f : Fragment) : Draft := ⟨.ofFragment kind f, []⟩

/-- Whether a set operator waits for its section. -/
def needsSection (d : Draft) : Bool := d.statement.pending.isSome

end Draft

/-! ### Changes in place -/

/-- A change of a draft in place.  What was written before a failure stays written. -/
abbrev Edit (α : Type) := EStateM Error Draft α

namespace Edit

variable {α β : Type}

/-- The content of a result, or its error.  Nothing is written. -/
def check (r : Except Error α) : Edit α := fun d =>
  match r with
  | .ok a => .ok a d
  | .error e => .error e d

/-- An error if something holds that may not.  Nothing is written. -/
def failIf (p : Prop) [Decidable p] (e : Error) : Edit Unit := fun d =>
  if p then .error e d else .ok () d

/-- Change the statement of the draft. -/
def onStatement (change : Statement → Statement) : Edit Unit :=
  modify fun d => { d with statement := change d.statement }

/-- Keep a projection for later sections. -/
def remember (projection : List Field) : Edit Unit :=
  modify fun d => { d with projection := projection }

@[simp] theorem bind_apply (x : Edit α) (f : α → Edit β) (d : Draft) :
    (x >>= f) d = match x d with
      | .ok a d' => f a d'
      | .error e d' => .error e d' := by
  cases h : x d <;> simp [bind, EStateM.bind, h]

@[simp] theorem pure_apply (a : α) (d : Draft) : (pure a : Edit α) d = .ok a d := rfl

@[simp] theorem get_apply (d : Draft) : (get : Edit Draft) d = .ok d d := rfl

@[simp] theorem check_ok (a : α) (d : Draft) : check (.ok a) d = .ok a d := rfl

@[simp] theorem check_error (e : Error) (d : Draft) :
    (check (.error e) : Edit α) d = .error e d := rfl

@[simp] theorem failIf_apply (p : Prop) [Decidable p] (e : Error) (d : Draft) :
    failIf p e d = if p then .error e d else .ok () d := rfl

@[simp] theorem onStatement_apply (change : Statement → Statement) (d : Draft) :
    onStatement change d = .ok () { d with statement := change d.statement } := rfl

@[simp] theorem remember_apply (projection : List Field) (d : Draft) :
    remember projection d = .ok () { d with projection := projection } := rfl

end Edit

end FluentSql
