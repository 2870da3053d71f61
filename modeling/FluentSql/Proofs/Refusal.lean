import FluentSql.Proofs.Transition

/-!
# Errors of building are no errors of execution

What can go wrong while a statement is built was not sent to anyone.  So an execution error can only
come from a backend, or with a condition that a caller could not make, and it is never kept while a
set operator waits for its section.

## Main definitions

* `Unsent`, `Edit.UnsentWhilePending` — a result, and a change, whose error is no execution error.

## Main results

* `unsent_bind`, `unsent_guard` — steps one after the other, and checks in front of them.
* `Opening.unsent_draft` — an opening does not fail with an execution error.
* `Verb.unsent_edit` — no verb does while a set operator waits.
-/

namespace FluentSql

section Unsent

variable {α β : Type}

/-- If the result is an error, then not one of execution. -/
def Unsent (r : Except Error α) : Prop := ∀ e, r = .error e → e.isExecution = false

theorem unsent_ok (a : α) : Unsent (.ok a : Except Error α) := fun _ h => by cases h

theorem unsent_error {e : Error} (he : e.isExecution = false) :
    Unsent (.error e : Except Error α) := by
  intro e' h
  cases h
  exact he

theorem unsent_bind {r : Except Error α} {k : α → Except Error β} (hr : Unsent r)
    (hk : ∀ a, Unsent (k a)) : Unsent (r >>= k) := by
  cases r with
  | ok a => exact hk a
  | error e => exact unsent_error (hr e rfl)

theorem unsent_ite {p : Prop} [Decidable p] {r r' : Except Error α} (hr : Unsent r)
    (hr' : Unsent r') : Unsent (if p then r else r') := by
  split
  · exact hr
  · exact hr'

/-- A guard in front. -/
theorem unsent_guard {p : Prop} [Decidable p] {e : Error} {r : Except Error α}
    (he : e.isExecution = false) (hr : Unsent r) : Unsent (if p then .error e else r) :=
  unsent_ite (unsent_error he) hr

end Unsent

/-! ### Fields and tables -/

theorem Field.unsent_render (field : Field) : Unsent field.render := by
  induction field with
  | star => exact unsent_ok _
  | column name => exact unsent_guard rfl (unsent_ok _)
  | expression sql => exact unsent_guard rfl (unsent_ok _)
  | aliased field label ih => exact unsent_bind ih fun _ => unsent_ok _

theorem Field.unsent_renderEach (fields : List Field) : Unsent (renderEach fields) := by
  induction fields with
  | nil => exact unsent_ok _
  | cons field fields ih =>
    exact unsent_bind field.unsent_render fun _ => unsent_bind ih fun _ => unsent_ok _

theorem Field.unsent_renderList (fields : List Field) : Unsent (renderList fields) :=
  unsent_guard rfl (unsent_bind (unsent_renderEach fields) fun _ => unsent_ok _)

mutual

theorem Table.unsent_render (table : Table) : Unsent table.render := by
  cases table with
  | named name =>
    rw [render]
    exact unsent_guard rfl (unsent_ok _)
  | subquery sql =>
    rw [render]
    exact unsent_guard rfl (unsent_ok _)
  | expression sql =>
    rw [render]
    exact unsent_guard rfl (unsent_ok _)
  | aliased table label =>
    rw [render]
    exact unsent_bind (Table.unsent_render table) fun _ => unsent_ok _
  | list tables =>
    rw [render]
    exact unsent_guard rfl (unsent_bind (Table.unsent_renderEach tables) fun _ => unsent_ok _)

theorem Table.unsent_renderEach (tables : List Table) : Unsent (Table.renderEach tables) := by
  cases tables with
  | nil =>
    rw [renderEach]
    exact unsent_ok _
  | cons table tables =>
    rw [renderEach]
    exact unsent_bind (Table.unsent_render table) fun _ =>
      unsent_bind (Table.unsent_renderEach tables) fun _ => unsent_ok _

end

/-! ### Openings -/

theorem unsent_requireName (name argument context : String) :
    Unsent (requireName name argument context) :=
  unsent_guard rfl (unsent_ok _)

theorem Selection.unsent_compile (s : Selection) : Unsent s.compile := by
  refine unsent_guard rfl (unsent_ite ?_ ?_)
  · exact unsent_bind s.table.unsent_render fun _ => unsent_ok _
  · exact unsent_bind (Field.unsent_renderList s.fields) fun _ =>
      unsent_bind s.table.unsent_render fun _ => unsent_ok _

theorem unsent_insertFragment (table : Table) (batch : Batch) :
    Unsent (insertFragment table batch) := by
  refine unsent_guard rfl (unsent_guard rfl ?_)
  exact unsent_bind table.unsent_render fun _ =>
    unsent_bind (Field.unsent_renderList _) fun _ => unsent_ok _

theorem unsent_assignmentTexts (assignments : List Assignment) :
    Unsent (assignmentTexts assignments) := by
  induction assignments with
  | nil => exact unsent_ok _
  | cons a assignments ih =>
    exact unsent_bind (Field.unsent_render _) fun _ => unsent_bind ih fun _ => unsent_ok _

theorem unsent_updateFragment (table : Table) (assignments : List Assignment) :
    Unsent (updateFragment table assignments) := by
  refine unsent_guard rfl ?_
  exact unsent_bind (unsent_assignmentTexts assignments) fun _ =>
    unsent_bind table.unsent_render fun _ => unsent_ok _

theorem unsent_deleteFragment (table : Table) : Unsent (deleteFragment table) :=
  unsent_guard rfl (unsent_bind table.unsent_render fun _ => unsent_ok _)

theorem unsent_namedFragment (keywords name argument context : String) :
    Unsent (namedFragment keywords name argument context) :=
  unsent_bind (unsent_requireName name argument context) fun _ => unsent_ok _

theorem unsent_rawFragment (sql : String) (params : List Value) :
    Unsent (rawFragment sql params) :=
  unsent_guard rfl (unsent_guard rfl (unsent_ok _))

/-- **An opening does not fail with an execution error.** -/
theorem Opening.unsent_draft (o : Opening) : Unsent o.draft := by
  cases o with
  | select s => exact unsent_bind s.unsent_compile fun _ => unsent_ok _
  | insert table batch => exact unsent_bind (unsent_insertFragment table batch) fun _ => unsent_ok _
  | update table assignments =>
    exact unsent_bind (unsent_updateFragment table assignments) fun _ => unsent_ok _
  | delete table => exact unsent_bind (unsent_deleteFragment table) fun _ => unsent_ok _
  | raw sql params => exact unsent_bind (unsent_rawFragment sql params) fun _ => unsent_ok _
  | dropView name ifExists =>
    exact unsent_bind (unsent_namedFragment _ name _ _) fun _ => unsent_ok _
  | dropTable name ifExists =>
    exact unsent_bind (unsent_namedFragment _ name _ _) fun _ => unsent_ok _
  | truncate name => exact unsent_bind (unsent_namedFragment _ name _ _) fun _ => unsent_ok _

/-! ### Changes in place -/

namespace Edit

variable {α β : Type}

/-- If the change fails on a draft where a set operator waits, then not with an execution error. -/
def UnsentWhilePending (x : Edit α) : Prop :=
  ∀ {d d' : Draft} {e : Error}, d.needsSection = true → x d = .error e d' → e.isExecution = false

theorem unsent_of_check {r : Except Error α} (h : Unsent r) : UnsentWhilePending (check r) := by
  intro d d' e _ he
  cases r with
  | ok a => cases he
  | error e' =>
    cases he
    exact h e rfl

theorem unsent_of_failIf {p : Prop} [Decidable p] {e : Error} (he : e.isExecution = false) :
    UnsentWhilePending (failIf p e) := by
  intro d d' e' _ h
  rw [failIf_apply] at h
  split at h
  · cases h
    exact he
  · cases h

/-- A check in front. -/
theorem unsent_of_bind {x : Edit α} {k : α → Edit β} (hx : Checks x) (hu : UnsentWhilePending x)
    (hk : ∀ a, UnsentWhilePending (k a)) : UnsentWhilePending (x >>= k) := by
  intro d d' e hd h
  rw [bind_apply] at h
  rcases hx d with ⟨a, ha⟩ | ⟨e', he⟩
  · rw [ha] at h
    exact hk a hd h
  · rw [he] at h
    cases h
    exact hu hd he

theorem unsent_of_writes {x : Edit α} (hx : Writes x) : UnsentWhilePending x := by
  intro d d' e _ h
  obtain ⟨a, d'', hd⟩ := hx d
  rw [hd] at h
  cases h

end Edit

namespace Draft

open Edit

/-- A clause is refused while a set operator waits, before it is looked at. -/
theorem unsent_addClause (dialect : Dialect) (c : Clause) :
    UnsentWhilePending (addClause dialect c) := by
  -- the waiting operator is the first thing that is checked
  intro d d' e hd h
  have hrefused : addClause dialect c d = .error (.missingSelect c.context) d := by
    simp [addClause, hd]
  rw [hrefused] at h
  cases h
  rfl

theorem unsent_addSelection (s : Selection) : UnsentWhilePending (addSelection s) :=
  unsent_of_bind (checks_check _) (unsent_of_check s.unsent_compile) fun _ =>
    unsent_of_writes (writes_bind (writes_onStatement _) fun _ => writes_remember _)

theorem unsent_combine (c : Combination) : UnsentWhilePending (combine c) :=
  unsent_of_bind checks_get (unsent_of_writes fun d => ⟨d, d, rfl⟩) fun _ =>
    unsent_of_bind (checks_failIf _ _) (unsent_of_failIf rfl) fun _ =>
      unsent_of_writes (writes_onStatement _)

theorem unsent_combineSelect (c : Combination) (table : Table) :
    UnsentWhilePending (combineSelect c table) := by
  refine unsent_of_bind checks_get (unsent_of_writes fun d => ⟨d, d, rfl⟩) fun d => ?_
  refine unsent_of_bind (checks_failIf _ _) (unsent_of_failIf rfl) fun _ => ?_
  refine unsent_of_bind (checks_failIf _ _) (unsent_of_failIf rfl) fun _ => ?_
  refine unsent_of_bind (checks_failIf _ _) (unsent_of_failIf rfl) fun _ => ?_
  refine unsent_of_bind (checks_failIf _ _) (unsent_of_failIf rfl) fun _ => ?_
  refine unsent_of_bind (checks_check _) (unsent_of_check (Field.unsent_renderList _)) fun _ => ?_
  refine unsent_of_bind (checks_check _) (unsent_of_check table.unsent_render) fun _ => ?_
  exact unsent_of_writes (writes_bind (writes_onStatement _) fun _ => writes_onStatement _)

theorem unsent_createView (name : String) (ifNotExists : Bool) :
    UnsentWhilePending (createView name ifNotExists) := by
  refine unsent_of_bind (checks_check _) (unsent_of_check (unsent_requireName _ _ _)) fun _ => ?_
  refine unsent_of_bind checks_get (unsent_of_writes fun d => ⟨d, d, rfl⟩) fun _ => ?_
  refine unsent_of_bind (checks_failIf _ _) (unsent_of_failIf rfl) fun _ => ?_
  exact unsent_of_writes (writes_onStatement _)

end Draft

/-- **While a set operator waits, no verb fails with an execution error.** -/
theorem Verb.unsent_edit (dialect : Dialect) (v : Verb) :
    (v.edit dialect).UnsentWhilePending := by
  cases v with
  | start opening =>
    cases opening with
    | select s => exact Draft.unsent_addSelection s
    | _ => exact Edit.unsent_of_writes (Edit.writes_pure _)
  | clause c => exact Draft.unsent_addClause dialect c
  | like field pattern negated =>
    exact Edit.unsent_of_bind (Edit.checks_failIf _ _) (Edit.unsent_of_failIf rfl) fun _ =>
      Draft.unsent_addClause dialect _
  | nullTest field negated =>
    exact Edit.unsent_of_bind (Edit.checks_failIf _ _) (Edit.unsent_of_failIf rfl) fun _ =>
      Draft.unsent_addClause dialect _
  | combine c => exact Draft.unsent_combine c
  | combineSelect c table => exact Draft.unsent_combineSelect c table
  | createView name ifNotExists => exact Draft.unsent_createView name ifNotExists
  | setError _ => exact Edit.unsent_of_writes (Edit.writes_pure _)
  | reset => exact Edit.unsent_of_writes (Edit.writes_pure _)

/-- What keeps a statement from being sent is no execution error, unless one is kept. -/
theorem Builder.unsent_compile {b : Builder} (h : ∀ e, b.error = some e → e.isExecution = false) :
    Unsent b.compile := by
  cases he : b.error with
  | some e =>
    have hcompile : b.compile = .error e := by
      simp [compile, check, he, bind, Except.bind]
    rw [hcompile]
    exact unsent_error (h e he)
  | none =>
    cases hs : b.statement.isEmpty <;> cases hp : b.draft.needsSection <;>
      simp [Unsent, compile, check, he, hs, hp, bind, Except.bind, pure, Except.pure, throw,
        throwThe, MonadExceptOf.throw, Error.isExecution]

end FluentSql
