import FluentSql.Fragment
import FluentSql.Text.Cut

/-!
# Statements

A statement is a list of sections.  The first section is its head; each later one is introduced by
a set operator.  Clauses are appended to the last section, so an ordering after a UNION stands at
the very end.  A set operator may wait for its section, and a SELECT may be wrapped in the
definition of a view.

## Main definitions

* `Statement`, `Section`, `ViewHeader` — statements and their parts.
* `Statement.start`, `Statement.pushSection`, `Statement.append`, `Statement.extend`,
  `Statement.beginCompound`, `Statement.setView` — the ways to build one.
* `Statement.isDelete`, `Statement.isCompound`, `Statement.holdsOperator` — questions about one.
* `Statement.render` — the text with placeholders.

## Main results

* `Statement.render_append`, `Statement.render_pushSection` — text is only ever added at the end.
-/

namespace FluentSql

/-- What the head of a statement does. -/
inductive StatementKind where
  | empty
  | select
  | insert
  | update
  | delete
  | dropView
  | dropTable
  | truncate
  | raw
  deriving DecidableEq, Repr, Inhabited

/-- An operator between two SELECT sections. -/
inductive SetOperator where
  | union
  | unionAll
  | except
  | intersect
  deriving DecidableEq, Repr, Inhabited

namespace SetOperator

/-- The keywords of an operator. -/
def text : SetOperator → String
  | union => "UNION"
  | unionAll => "UNION ALL"
  | except => "EXCEPT"
  | intersect => "INTERSECT"

/-- Whether a statement holds the operator at most once. -/
def isSingle : SetOperator → Bool
  | except | intersect => true
  | union | unionAll => false

end SetOperator

/-- A part of a statement between set operators. -/
structure Section where
  /-- The set operator in front; the head has none. -/
  operator : Option SetOperator
  sql : String
  deriving DecidableEq, Repr, Inhabited

/-- A section with the operator in front of it. -/
def Section.render (part : Section) : String :=
  match part.operator with
  | some operator => " " ++ operator.text ++ " " ++ part.sql
  | none => part.sql

/-- The definition of a view around a SELECT. -/
structure ViewHeader where
  name : String
  /-- Whether a view that exists already is kept. -/
  ifNotExists : Bool
  deriving DecidableEq, Repr, Inhabited

/-- The text in front of the SELECT of a view. -/
def ViewHeader.render (v : ViewHeader) : String :=
  "CREATE VIEW " ++ (if v.ifNotExists then "IF NOT EXISTS " else "") ++ quoteIdentifier v.name
    ++ " AS "

/-- A statement with its parameters. -/
structure Statement where
  /-- What the head does. -/
  kind : StatementKind
  /-- The sections, the head first. -/
  sections : List Section
  /-- The set operator that waits for its section. -/
  pending : Option SetOperator
  /-- The view that the statement defines. -/
  view : Option ViewHeader
  /-- The values bound to the placeholders, in order. -/
  params : List Value
  deriving DecidableEq, Inhabited

namespace Statement

/-! ### Building -/

/-- The statement without sections. -/
protected def empty : Statement := ⟨.empty, [], none, none, []⟩

/-- A statement of one section. -/
def start (kind : StatementKind) (sql : String) : Statement := ⟨kind, [⟨none, sql⟩], none, none, []⟩

/-- A statement of one section with its parameters. -/
def ofFragment (kind : StatementKind) (f : Fragment) : Statement :=
  ⟨kind, [⟨none, f.sql⟩], none, none, f.params⟩

/-- One more section, introduced by the operator that was waiting. -/
def pushSection (s : Statement) (sql : String) : Statement :=
  { s with sections := s.sections ++ [⟨s.pending, sql⟩], pending := none }

/-- Text appended to the last of some sections. -/
def appendLast (sql : String) : List Section → List Section
  | [] => []
  | [last] => [{ last with sql := last.sql ++ sql }]
  | first :: second :: rest => first :: appendLast sql (second :: rest)

/-- Text appended to the last section.  Without sections the text becomes one. -/
def append (s : Statement) (sql : String) : Statement :=
  if s.sections.isEmpty then s.pushSection sql
  else { s with sections := appendLast sql s.sections }

/-- More parameters. -/
def extendParams (s : Statement) (vs : List Value) : Statement :=
  { s with params := s.params ++ vs }

/-- Text appended to the last section, together with its parameters. -/
def extend (s : Statement) (f : Fragment) : Statement := (s.append f.sql).extendParams f.params

/-- Wait for the section that an operator introduces. -/
def beginCompound (s : Statement) (operator : SetOperator) : Statement :=
  { s with pending := some operator }

/-- Wrap the statement in the definition of a view. -/
def setView (s : Statement) (name : String) (ifNotExists : Bool) : Statement :=
  { s with view := some ⟨trimmed name, ifNotExists⟩ }

/-! ### Questions -/

/-- Whether an operator stands before a section or waits for one. -/
def holdsOperator (s : Statement) (operator : SetOperator) : Bool :=
  s.pending == some operator || s.sections.any fun part => part.operator == some operator

/-- Whether text of the caller begins with DELETE, after blanks and in any case. -/
def beginsWithDelete (sql : String) : Bool :=
  Text.startsWithWord "delete".toList (Text.trimStart sql.toList)

/-- Whether the statement removes rows, be it by text of the caller. -/
def isDelete (s : Statement) : Bool :=
  match s.kind with
  | .delete => true
  | .raw => s.sections.head?.any fun head => beginsWithDelete head.sql
  | _ => false

/-- Whether there are no sections. -/
def isEmpty (s : Statement) : Bool := s.sections.isEmpty

/-- Whether there are several sections, or one is waited for. -/
def isCompound (s : Statement) : Bool := 1 < s.sections.length || s.pending.isSome

/-! ### Rendering -/

/-- The text of the statement, a question mark for each parameter. -/
def render (s : Statement) : String :=
  (s.view.elim "" ViewHeader.render) ++ String.join (s.sections.map Section.render)
    ++ (s.pending.elim "" fun operator => " " ++ operator.text)

/-! ### What the ways to build a statement do to its parts -/

@[simp] theorem kind_pushSection (s : Statement) (sql : String) :
    (s.pushSection sql).kind = s.kind := rfl

@[simp] theorem view_pushSection (s : Statement) (sql : String) :
    (s.pushSection sql).view = s.view := rfl

@[simp] theorem params_pushSection (s : Statement) (sql : String) :
    (s.pushSection sql).params = s.params := rfl

@[simp] theorem kind_append (s : Statement) (sql : String) : (s.append sql).kind = s.kind := by
  rw [append]
  split <;> rfl

@[simp] theorem view_append (s : Statement) (sql : String) : (s.append sql).view = s.view := by
  rw [append]
  split <;> rfl

@[simp] theorem params_append (s : Statement) (sql : String) :
    (s.append sql).params = s.params := by
  rw [append]
  split <;> rfl

/-- Appended text adds its parameters at the end. -/
@[simp] theorem params_extend (s : Statement) (f : Fragment) :
    (s.extend f).params = s.params ++ f.params := by
  simp [extend, extendParams]

/-- Text appended to the last section stands at the end of all of them. -/
theorem join_appendLast {parts : List Section} (h : parts ≠ []) (sql : String) :
    String.join ((appendLast sql parts).map Section.render)
      = String.join (parts.map Section.render) ++ sql := by
  induction parts with
  | nil => exact absurd rfl h
  | cons first rest ih =>
    cases rest with
    | nil =>
      obtain ⟨operator, text⟩ := first
      cases operator <;> simp [appendLast, Section.render, String.append_assoc]
    | cons second rest =>
      have hfirst (parts : List Section) : String.join ((first :: parts).map Section.render)
          = first.render ++ String.join (parts.map Section.render) := by simp
      rw [appendLast, hfirst, hfirst, ih (by simp), String.append_assoc]

/-- Where no set operator waits, appended text stands at the end of the statement. -/
theorem render_append {s : Statement} (h : s.pending = none) (sql : String) :
    (s.append sql).render = s.render ++ sql := by
  rw [append]
  split
  · rename_i hempty
    have hnil : s.sections = [] := by simpa using hempty
    simp [render, pushSection, h, hnil, Section.render]
  · rename_i hempty
    have hne : s.sections ≠ [] := by simpa using hempty
    simp [render, h, join_appendLast hne, String.append_assoc]

/-- A new section stands at the end, a blank after the operator that waited for it. -/
theorem render_pushSection (s : Statement) (sql : String) :
    (s.pushSection sql).render = s.render ++ (s.pending.elim "" fun _ => " ") ++ sql := by
  cases h : s.pending <;> simp [render, pushSection, h, Section.render, String.append_assoc]

end Statement

end FluentSql
