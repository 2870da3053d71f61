import FluentSql.Proofs.Counting
import Mathlib.Data.List.Induction

/-!
# The last SELECT

A builder keeps the fields of a SELECT, not its text.  They are those of the last SELECT of the
session that could be made, be it one that counted rows; its text stands at the beginning of a
section, whatever clauses, set operators, views and failures came after it.

## Main definitions

* `Action.selection?`, `Action.made?` — the SELECT that an action asks for, and makes.
* `lastSelection` — the last SELECT that a session made.
* `Draft.Keeps` — what a change leaves of a draft.
* `Draft.Remembers`, `Draft.Recalls` — a draft has the fields and the text of a SELECT.

## Main results

* `Draft.keeps_edit` — every change but a SELECT keeps the fields and the beginnings of sections.
* `Builder.recalls_actAll` — **every SELECT statement has the fields and the text of the last SELECT
  of its session.**
-/

namespace FluentSql

/-! ### The SELECTs of a session -/

/-- The SELECT that an action asks for. -/
def Action.selection? : Action → Option Selection
  | .verb (.start (.select s)) => some s
  | .finish (.count table field) _ =>
    match Builder.countTarget field with
    | .ok target => some (counterSelection (Table.parse table) target)
    | .error _ => none
  | _ => none

/-- The SELECT that an action makes, if it asks for one that can be made. -/
def Action.made? (a : Action) : Option Selection := a.selection?.filter fun s => s.compile.isOk

/-- The last SELECT that some actions made. -/
def lastSelection (as : List Action) : Option Selection := (as.filterMap Action.made?).getLast?

theorem lastSelection_snoc (as : List Action) (a : Action) :
    lastSelection (as ++ [a]) = a.made?.or (lastSelection as) := by
  rw [lastSelection, List.filterMap_append, List.getLast?_append, lastSelection]
  cases ha : a.made? <;> simp [ha]

section Made

variable {a : Action} {s : Selection}

theorem Action.made?_of_ok {made : String × List Field} (ha : a.selection? = some s)
    (h : s.compile = .ok made) : a.made? = some s := by
  rw [made?, ha, Option.filter_some, h]
  rfl

theorem Action.made?_of_error {e : Error} (ha : a.selection? = some s)
    (h : s.compile = .error e) : a.made? = none := by
  rw [made?, ha, Option.filter_some, h]
  rfl

theorem Action.made?_of_none (ha : a.selection? = none) : a.made? = none := by
  rw [made?, ha, Option.filter_none]

end Made

/-! ### Sections that go on -/

theorem Statement.exists_mem_appendLast {sql : String} {parts : List Section} {part : Section}
    (h : part ∈ parts) : ∃ new ∈ appendLast sql parts, ∃ more, new.sql = part.sql ++ more := by
  induction parts with
  | nil => cases h
  | cons first rest ih =>
    cases rest with
    | nil =>
      cases List.mem_singleton.mp h
      exact ⟨_, List.mem_singleton_self _, sql, rfl⟩
    | cons second rest =>
      rcases List.mem_cons.mp h with rfl | hlater
      · exact ⟨part, List.mem_cons_self, "", String.append_empty.symm⟩
      · obtain ⟨new, hnew, hmore⟩ := ih hlater
        exact ⟨new, List.mem_cons_of_mem first hnew, hmore⟩

/-- What a change leaves of a draft: the fields, and sections that begin as they did. -/
structure Draft.Keeps (d d' : Draft) : Prop where
  projection : d'.projection = d.projection
  sections : ∀ part ∈ d.statement.sections, ∃ new ∈ d'.statement.sections,
    ∃ more, new.sql = part.sql ++ more

namespace Draft

variable {dialect : Dialect} {clause : Clause} {d d' : Draft} {s : Selection}

/-- Sections that stay begin as they did. -/
theorem keeps_of_subset (hprojection : d'.projection = d.projection)
    (hsections : ∀ part ∈ d.statement.sections, part ∈ d'.statement.sections) : d.Keeps d' :=
  ⟨hprojection, fun part hpart => ⟨part, hsections part hpart, "", String.append_empty.symm⟩⟩

theorem keeps_addClause (h : addClause dialect clause d = .ok () d') : d.Keeps d' := by
  obtain ⟨-, ⟨-, rfl⟩ | ⟨f, -, rfl⟩⟩ := addClause_eq_ok h
  · exact keeps_of_subset rfl fun _ hpart => hpart
  · refine ⟨rfl, fun part hpart => ?_⟩
    -- there is a section, so the clause becomes none of its own
    have hne : ¬d.statement.sections.isEmpty = true := by
      rw [List.isEmpty_iff]
      exact List.ne_nil_of_mem hpart
    show ∃ new ∈ (d.statement.append f.sql).sections, _
    rw [Statement.append, if_neg hne]
    exact Statement.exists_mem_appendLast hpart

/-- **Every change but a SELECT keeps the fields and the beginnings of sections.** -/
theorem keeps_edit {v : Verb} (hv : v.isStarting = false)
    (h : v.edit dialect d = .ok () d') : d.Keeps d' := by
  cases v with
  | start opening => cases hv
  | clause c => exact keeps_addClause h
  | like field pattern negated => exact keeps_addClause (Verb.edit_clause rfl h)
  | nullTest field negated => exact keeps_addClause (Verb.edit_clause rfl h)
  | combine c =>
    obtain ⟨-, -, rfl⟩ := combine_eq_ok h
    exact keeps_of_subset rfl fun _ hpart => hpart
  | combineSelect c table =>
    obtain ⟨-, -, _, _, -, -, rfl⟩ := combineSelect_eq_ok h
    exact keeps_of_subset rfl fun _ hpart => List.mem_append_left _ hpart
  | createView name ifNotExists =>
    obtain ⟨-, -, rfl⟩ := createView_eq_ok h
    exact keeps_of_subset rfl fun _ hpart => hpart
  | setError _ =>
    cases h
    exact keeps_of_subset rfl fun _ hpart => hpart
  | reset =>
    cases h
    exact keeps_of_subset rfl fun _ hpart => hpart

/-! ### Drafts that remember -/

/-- The draft has the fields of a SELECT, and a section that begins with its text. -/
def Remembers (d : Draft) (s : Selection) : Prop :=
  ∃ sql, s.compile = .ok (sql, d.projection) ∧
    ∃ part ∈ d.statement.sections, ∃ clauses, part.sql = sql ++ clauses

theorem remembers_of_keeps (hkeeps : d.Keeps d') (h : d.Remembers s) : d'.Remembers s := by
  obtain ⟨sql, hs, part, hpart, clauses, hclauses⟩ := h
  obtain ⟨new, hnew, more, hmore⟩ := hkeeps.sections part hpart
  refine ⟨sql, ?_, new, hnew, clauses ++ more, ?_⟩
  · rw [hkeeps.projection]
    exact hs
  · rw [hmore, hclauses, String.append_assoc]

/-- The draft remembers the last SELECT, if its statement is one. -/
def Recalls (d : Draft) (last : Option Selection) : Prop :=
  d.statement.kind = .select → ∃ s, last = some s ∧ d.Remembers s

end Draft

/-! ### Sessions -/

/-- No other opening starts a SELECT. -/
theorem Opening.kind_draft_ne {o : Opening} {d : Draft} (ho : ∀ s, o ≠ .select s)
    (h : o.draft = .ok d) : d.statement.kind ≠ .select := by
  cases o with
  | select s => exact absurd rfl (ho s)
  | _ =>
    simp only [draft, bind_eq_ok_iff, pure_eq_ok_iff] at h
    obtain ⟨_, -, rfl⟩ := h
    exact StatementKind.noConfusion

namespace Builder

variable {b : Builder} {a : Action} {v : Verb} {s : Selection} {last : Option Selection}

/-- A SELECT that is made is remembered, as a section or as a statement of its own. -/
theorem remembers_run_select {sql : String} {projection : List Field}
    (h : s.compile = .ok (sql, projection)) :
    (b.run (.start (.select s))).draft.Remembers s := by
  by_cases hwait : (b.draft.needsSection && !b.hasError) = true
  · obtain ⟨hsection, hb⟩ : b.draft.needsSection = true ∧ b.error = none := by
      simpa [hasError] using hwait
    rw [run_select_of_waiting hsection hb h]
    exact ⟨sql, h, _, List.mem_append_right _ (List.mem_singleton_self _), "",
      String.append_empty.symm⟩
  · rw [run_select_of_not_waiting hwait h]
    exact ⟨sql, h, _, List.mem_singleton_self _, "", String.append_empty.symm⟩

/-- A verb that asks for no SELECT keeps the last one, or ends the statement. -/
theorem recalls_run (hv : (Action.verb v).selection? = none) (h : b.draft.Recalls last) :
    (b.run v).draft.Recalls last := by
  have hstep := b.step_run v
  generalize b.run v = b' at hstep ⊢
  cases hstep with
  | @opened o d ho hd =>
    have hother : ∀ s, o ≠ .select s := by
      rintro s rfl
      cases hv
    exact fun hk => absurd hk (Opening.kind_draft_ne hother hd)
  | @edited v d ho hh hb hd =>
    intro hk
    have hkind : d.statement.kind = b.statement.kind := kind_edit ho hh hd
    obtain ⟨s, hlast, hs⟩ := h (hkind.symm.trans hk)
    -- of the openings only a SELECT is a change of the statement there is
    have hstarting : v.isStarting = false := by
      cases v with
      | start opening =>
        cases opening with
        | select s => cases hv
        | _ => cases ho
      | _ => rfl
    exact ⟨s, hlast, Draft.remembers_of_keeps (Draft.keeps_edit hstarting hd) hs⟩
  | reset => exact fun hk => by cases hk
  | setError message =>
    rw [setError]
    split <;> exact h
  | refused ho he => exact h
  | frozen ho hh he => exact h
  | failed ho hh hb he => exact h

/-- An action that asks for a SELECT leaves the draft that the SELECT leaves. -/
theorem draft_act_of_selection (ha : a.selection? = some s) :
    (b.act a).1.draft = (b.run (.start (.select s))).draft := by
  cases a with
  | verb v =>
    cases v with
    | start opening =>
      cases opening with
      | select s' =>
        cases ha
        rfl
      | _ => cases ha
    | _ => cases ha
  | finish t backend =>
    cases t with
    | count table field =>
      simp only [Action.selection?] at ha
      split at ha
      · rename_i target htarget
        cases ha
        exact (gated_count htarget).draft
      · cases ha
    | _ => cases ha
  | _ => cases ha

/-- Any other action leaves the draft as it was, or is a verb. -/
theorem draft_act_of_no_selection (ha : a.selection? = none) :
    (b.act a).1.draft = b.draft ∨ ∃ v, a = .verb v := by
  rw [act_eq_report]
  cases hm : a.method? with
  | some m => exact Or.inl (gated_report hm).draft
  | none =>
    cases a with
    | verb v => exact Or.inr ⟨v, rfl⟩
    | finish t backend =>
      refine Or.inl ?_
      cases t with
      | column name => exact draft_column name
      | pluck key name => exact draft_pluck key name
      | count table field =>
        simp only [Action.selection?] at ha
        split at ha
        · cases ha
        · rename_i e htarget
          show (b.count backend table field).builder.draft = b.draft
          rw [count, htarget]
          rfl
      | _ => cases hm
    | _ => cases hm

/-- **Every action remembers the last SELECT**: the one that it makes, or the one before. -/
theorem recalls_act (h : b.draft.Recalls last) (a : Action) :
    (b.act a).1.draft.Recalls (a.made?.or last) := by
  cases ha : a.selection? with
  | some s =>
    rw [draft_act_of_selection ha]
    -- whether it is made depends on nothing but the SELECT
    cases hs : s.compile with
    | ok made =>
      rw [Action.made?_of_ok ha hs]
      exact fun _ => ⟨s, rfl, remembers_run_select hs⟩
    | error e =>
      rw [Action.made?_of_error ha hs, run_select_of_error hs]
      exact h
  | none =>
    rw [Action.made?_of_none ha]
    rcases draft_act_of_no_selection ha with hsame | ⟨v, rfl⟩
    · rw [hsame]
      exact h
    · exact recalls_run ha h

/-- **Every SELECT statement has the fields and the text of the last SELECT of its session.** -/
theorem recalls_actAll (dialect : Dialect) (options : Options) (as : List Action) :
    ((new dialect options).actAll as).draft.Recalls (lastSelection as) := by
  induction as using List.reverseRecOn with
  | nil => exact fun hk => by cases hk
  | append_singleton as a ih =>
    rw [actAll_snoc, lastSelection_snoc]
    exact recalls_act ih a

end Builder

end FluentSql
