import FluentSql.Proofs.Verbatim

/-!
# How statements grow

The sections of a statement are only ever added to at the end, and each verb adds its placeholders
with its values.  The definition of a view is the exception: it stands in front, and it holds no
placeholder.

## Main definitions

* `Statement.header`, `Statement.body` — the text in front of the sections, and that of the
  sections.
* `Draft.Grows` — what a verb adds to a draft.

## Main results

* `Statement.render_eq`, `Statement.clean_header` — the two parts of a statement.
* `Draft.grows_edit` — **a verb adds one placeholder for each of its values.**
-/

namespace FluentSql

open Placeholder

namespace Statement

/-- The text in front of the sections, which is there if the statement defines a view. -/
def header (s : Statement) : String := s.view.elim "" ViewHeader.render

/-- The text of the sections. -/
def body (s : Statement) : String := { s with view := none }.render

theorem render_eq (s : Statement) : s.render = s.header ++ s.body := by
  simp [header, body, render, String.append_assoc]

theorem body_of_view_eq_none {s : Statement} (h : s.view = none) : s.body = s.render := by
  rw [render_eq, header, h]
  exact String.empty_append.symm

theorem body_append {s : Statement} (h : s.pending = none) (sql : String) :
    (s.append sql).body = s.body ++ sql := by
  have happ : { s.append sql with view := none } = { s with view := none }.append sql := by
    rw [append, append]
    split <;> rfl
  rw [body, happ]
  exact render_append (s := { s with view := none }) h sql

theorem body_pushSection (s : Statement) (sql : String) :
    (s.pushSection sql).body = s.body ++ (s.pending.elim "" fun _ => " ") ++ sql :=
  render_pushSection { s with view := none } sql

theorem body_beginCompound {s : Statement} (h : s.pending = none) (operator : SetOperator) :
    (s.beginCompound operator).body = s.body ++ (" " ++ operator.text) := by
  simp [body, beginCompound, render, h]

/-- The text in front is clean, since the name of a view is quoted. -/
theorem clean_header (s : Statement) : IsClean s.header := by
  rw [header]
  cases s.view with
  | none => exact holds_empty
  | some v =>
    have hcreate : IsClean ("CREATE VIEW " ++ if v.ifNotExists then "IF NOT EXISTS " else "") := by
      cases v.ifNotExists <;> decide
    exact holds_append_left (holds_append_left hcreate (clean_quoteIdentifier v.name)) (by decide)

end Statement

/-- A new statement defines no view and binds the values of its opening. -/
theorem Opening.fresh_draft {o : Opening} {d : Draft} (h : o.draft = .ok d) :
    d.statement.view = none ∧ d.statement.params = o.values := by
  refine ⟨?_, params_draft h⟩
  cases o with
  | _ =>
    simp only [draft, bind_eq_ok_iff, pure_eq_ok_iff] at h
    obtain ⟨_, -, rfl⟩ := h
    rfl

/-- Whether a verb makes the statement the content of a view. -/
def Verb.isView : Verb → Bool
  | createView .. => true
  | _ => false

/-- What a verb makes of a draft by adding some text at its end: one placeholder for each of its
values, no quote left open.  Only the definition of a view touches the text in front. -/
structure Draft.Grows (v : Verb) (d : Draft) (added : String) (d' : Draft) : Prop where
  /-- The text stands at the end. -/
  body : d'.statement.body = d.statement.body ++ added
  /-- It holds the placeholders of the verb. -/
  holds : v.IsClean → d.HasCleanProjection → Holds v.values.length added
  /-- The projection stays clean. -/
  clean : v.IsClean → d.HasCleanProjection → d'.HasCleanProjection
  /-- The text in front stays, unless the verb is the definition of a view. -/
  header : v.isView = false → d'.statement.header = d.statement.header
  /-- The definition of a view adds nothing at the end. -/
  view : v.isView = true → added = ""

namespace Draft

variable {dialect : Dialect} {d d' : Draft} {v : Verb}

/-- The set operators in front of a SELECT that repeats the projection are clean. -/
theorem clean_repeatedFields (h : d.HasCleanProjection) :
    AllClean (Field.verbatimEach d.repeatedFields) := by
  rw [repeatedFields]
  split
  · exact fun _ hs => by cases hs
  · exact h

theorem grows_addClause {c : Clause} (hvalues : v.values = c.values)
    (hclean : v.IsClean → AllClean c.verbatim) (hview : v.isView = false)
    (h : addClause dialect c d = .ok () d') : ∃ added, Grows v d added d' := by
  obtain ⟨hp, ⟨hskip, rfl⟩ | ⟨f, hf, rfl⟩⟩ := addClause_eq_ok h
  · refine ⟨"", (String.append_empty).symm, fun _ _ => ?_, fun _ hd => hd, fun _ => rfl,
      fun _ => rfl⟩
    rw [hvalues, Clause.values_of_isSkipped hskip]
    exact holds_empty
  · refine ⟨f.sql, Statement.body_append hp f.sql, fun hv _ => ?_, fun _ hd => hd, fun _ => ?_,
      fun hv => (by rw [hview] at hv; cases hv)⟩
    · rw [hvalues]
      exact Clause.holds_compile (hclean hv) hf
    · show Option.elim (d.statement.append f.sql).view "" _ = _
      rw [Statement.view_append]
      rfl

/-- **A verb adds one placeholder for each of its values**, all of them at the end of the
statement. -/
theorem grows_edit {b : Builder} (ho : b.opens v = false) (hv : v.handlesError = false)
    (h : v.edit b.dialect b.draft = .ok () d') : ∃ added, Grows v b.draft added d' := by
  cases v with
  | start opening =>
    cases opening with
    | select s =>
      obtain ⟨sql, projection, hs, rfl⟩ := addSelection_eq_ok h
      refine ⟨(b.draft.statement.pending.elim "" fun _ => " ") ++ sql, ?_, fun hv _ => ?_,
        fun hv _ => (Selection.clean_compile hv.1 hs).2, fun _ => rfl, fun hv => (by cases hv)⟩
      · rw [← String.append_assoc]
        exact Statement.body_pushSection _ _
      · have hgap : IsClean (b.draft.statement.pending.elim "" fun _ => " ") := by
          cases b.draft.statement.pending with
          | none => exact holds_empty
          | some _ => exact (by decide : IsClean " ")
        exact holds_append_right hgap (Selection.clean_compile hv.1 hs).1
    | _ => cases ho
  | clause c => exact grows_addClause rfl (fun hv => hv.1) rfl h
  | like field pattern negated =>
    refine grows_addClause rfl (fun hv => ?_) rfl (Verb.edit_clause rfl h)
    show AllClean (((Field.parse field).verbatim ++ []) ++ [] ++ [""])
    simp only [List.append_nil, allClean_append, allClean_singleton]
    exact ⟨hv.1, holds_empty⟩
  | nullTest field negated =>
    refine grows_addClause rfl (fun hv => ?_) rfl (Verb.edit_clause rfl h)
    show AllClean (((Field.parse field).verbatim) ++ [] ++ [""])
    simp only [List.append_nil, allClean_append, allClean_singleton]
    exact ⟨hv.1, holds_empty⟩
  | combine c =>
    obtain ⟨-, hp, rfl⟩ := combine_eq_ok h
    refine ⟨" " ++ c.operator.text, Statement.body_beginCompound hp _, fun _ _ => ?_,
      fun _ hd => hd, fun _ => rfl, fun hv => (by cases hv)⟩
    show IsClean (" " ++ c.operator.text)
    cases c.operator <;> decide
  | combineSelect c table =>
    obtain ⟨-, hp, fields, source, hf, hs, rfl⟩ := combineSelect_eq_ok h
    refine ⟨" " ++ c.operator.text ++ " " ++ ("SELECT " ++ fields ++ " FROM " ++ source), ?_,
      fun hv hd => ?_, fun _ hd => hd, fun _ => rfl, fun hv => (by cases hv)⟩
    · show ((b.draft.statement.beginCompound c.operator).pushSection _).body = _
      rw [Statement.body_pushSection, Statement.body_beginCompound hp]
      simp only [String.append_assoc]
      rfl
    · have hoperator : IsClean (" " ++ c.operator.text ++ " ") := by cases c.operator <;> decide
      have hfields : IsClean ("SELECT " ++ fields ++ " FROM ") :=
        holds_append_left
          (holds_append_right (by decide) (Field.clean_renderList (clean_repeatedFields hd) hf))
          (by decide)
      exact holds_append_right hoperator
        (holds_append_right hfields (Table.clean_render hv.1 hs))
  | createView name ifNotExists =>
    obtain ⟨-, -, rfl⟩ := createView_eq_ok h
    exact ⟨"", (String.append_empty).symm, fun _ _ => holds_empty, fun _ hd => hd,
      fun hv => (by cases hv), fun _ => rfl⟩
  | setError _ => cases hv
  | reset => cases hv

end Draft

end FluentSql
