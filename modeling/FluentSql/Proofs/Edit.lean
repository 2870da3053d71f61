import FluentSql.Verb

/-!
# Changes that check before they write

A change of a draft works in place, so a failure in its middle could leave half a clause behind.
None does: every change that a verb makes first checks everything that can go wrong, which writes
nothing, and then writes, which cannot fail.

## Main definitions

* `Edit.Checks`, `Edit.Writes` — steps that write nothing, and steps that cannot fail.
* `Edit.Atomic` — a change that leaves no trace when it fails.
* `Verb.edit` — the change that a verb makes to the statement there is.

## Main results

* `Edit.atomic_bind` — checks in front of an atomic change leave it atomic.
* `Verb.atomic_edit` — **every verb that fails leaves the draft as it was.**
* `Draft.addClause_eq_ok` and its companions — what a change wrote if it succeeded.
-/

namespace FluentSql

namespace Edit

variable {α β : Type}

/-! ### Checks and writes -/

/-- The step may fail, and writes nothing. -/
def Checks (x : Edit α) : Prop := ∀ d, (∃ a, x d = .ok a d) ∨ ∃ e, x d = .error e d

/-- The step may write, and cannot fail. -/
def Writes (x : Edit α) : Prop := ∀ d, ∃ a d', x d = .ok a d'

/-- A failure leaves the draft as it was. -/
def Atomic (x : Edit α) : Prop := ∀ {d d' : Draft} {e : Error}, x d = .error e d' → d' = d

theorem checks_get : Checks (get : Edit Draft) := fun d => Or.inl ⟨d, rfl⟩

theorem checks_check (r : Except Error α) : Checks (check r) := by
  intro d
  cases r with
  | ok a => exact Or.inl ⟨a, rfl⟩
  | error e => exact Or.inr ⟨e, rfl⟩

theorem checks_failIf (p : Prop) [Decidable p] (e : Error) : Checks (failIf p e) := by
  intro d
  by_cases h : p
  · exact Or.inr ⟨e, by rw [failIf_apply, if_pos h]⟩
  · exact Or.inl ⟨(), by rw [failIf_apply, if_neg h]⟩

theorem writes_onStatement (change : Statement → Statement) : Writes (onStatement change) :=
  fun _ => ⟨(), _, rfl⟩

theorem writes_remember (projection : List Field) : Writes (remember projection) :=
  fun _ => ⟨(), _, rfl⟩

theorem writes_pure (a : α) : Writes (pure a : Edit α) := fun d => ⟨a, d, rfl⟩

/-- Two writes are a write. -/
theorem writes_bind {x : Edit α} {f : α → Edit β} (hx : Writes x) (hf : ∀ a, Writes (f a)) :
    Writes (x >>= f) := by
  intro d
  obtain ⟨a, d', hd⟩ := hx d
  obtain ⟨b, d'', hd'⟩ := hf a d'
  exact ⟨b, d'', by rw [bind_apply, hd, ← hd']⟩

/-- A write does not fail, so it leaves no trace when it does. -/
theorem atomic_of_writes {x : Edit α} (hx : Writes x) : Atomic x := by
  intro d d' e h
  obtain ⟨a, d'', hd⟩ := hx d
  rw [hd] at h
  cases h

/-- **Checks in front of an atomic change leave it atomic.** -/
theorem atomic_bind {x : Edit α} {f : α → Edit β} (hx : Checks x) (hf : ∀ a, Atomic (f a)) :
    Atomic (x >>= f) := by
  intro d d' e h
  rw [bind_apply] at h
  rcases hx d with ⟨a, ha⟩ | ⟨e', he⟩
  · rw [ha] at h
    exact hf a h
  · rw [he] at h
    cases h
    rfl

/-! ### Runs that succeed -/

theorem bind_eq_ok {x : Edit α} {f : α → Edit β} {b : β} {d d' : Draft} :
    (x >>= f) d = .ok b d' ↔ ∃ a d₁, x d = .ok a d₁ ∧ f a d₁ = .ok b d' := by
  rw [bind_apply]
  cases h : x d with
  | ok a d₁ =>
    constructor
    · exact fun hf => ⟨a, d₁, rfl, hf⟩
    · rintro ⟨_, _, hx, hf⟩
      cases hx
      exact hf
  | error e d₁ => simp

theorem get_eq_ok {a d d' : Draft} : (get : Edit Draft) d = .ok a d' ↔ a = d ∧ d' = d := by
  rw [get_apply, EStateM.Result.ok.injEq, eq_comm, @eq_comm _ d d']

theorem check_eq_ok {r : Except Error α} {a : α} {d d' : Draft} :
    check r d = .ok a d' ↔ r = .ok a ∧ d' = d := by
  cases r <;> simp [eq_comm]

theorem failIf_eq_ok {p : Prop} [Decidable p] {e : Error} {u : Unit} {d d' : Draft} :
    failIf p e d = .ok u d' ↔ ¬p ∧ d' = d := by
  by_cases h : p <;> simp [h, eq_comm]

theorem onStatement_eq_ok {change : Statement → Statement} {u : Unit} {d d' : Draft} :
    onStatement change d = .ok u d' ↔ d' = { d with statement := change d.statement } := by
  simp [eq_comm]

theorem remember_eq_ok {projection : List Field} {u : Unit} {d d' : Draft} :
    remember projection d = .ok u d' ↔ d' = { d with projection := projection } := by
  simp [eq_comm]

end Edit

namespace Draft

open Edit

/-! ### The changes are atomic -/

theorem atomic_addClause (dialect : Dialect) (clause : Clause) :
    Atomic (addClause dialect clause) := by
  refine atomic_bind checks_get fun d => ?_
  refine atomic_bind (checks_failIf _ _) fun _ => ?_
  split
  · exact atomic_of_writes (writes_pure _)
  · -- compiling is the last check; text and parameters are written after it
    refine atomic_bind (checks_check _) fun f => ?_
    exact atomic_of_writes (writes_bind (writes_onStatement _) fun _ => writes_onStatement _)

theorem atomic_addSelection (s : Selection) : Atomic (addSelection s) := by
  refine atomic_bind (checks_check _) fun p => ?_
  exact atomic_of_writes (writes_bind (writes_onStatement _) fun _ => writes_remember _)

theorem atomic_combine (c : Combination) : Atomic (combine c) := by
  refine atomic_bind checks_get fun d => ?_
  refine atomic_bind (checks_failIf _ _) fun _ => ?_
  exact atomic_of_writes (writes_onStatement _)

theorem atomic_combineSelect (c : Combination) (table : Table) :
    Atomic (combineSelect c table) := by
  refine atomic_bind checks_get fun d => ?_
  refine atomic_bind (checks_failIf _ _) fun _ => ?_
  refine atomic_bind (checks_failIf _ _) fun _ => ?_
  refine atomic_bind (checks_failIf _ _) fun _ => ?_
  refine atomic_bind (checks_failIf _ _) fun _ => ?_
  refine atomic_bind (checks_check _) fun fields => ?_
  refine atomic_bind (checks_check _) fun table => ?_
  exact atomic_of_writes (writes_bind (writes_onStatement _) fun _ => writes_onStatement _)

theorem atomic_createView (name : String) (ifNotExists : Bool) :
    Atomic (createView name ifNotExists) := by
  refine atomic_bind (checks_check _) fun name => ?_
  refine atomic_bind checks_get fun d => ?_
  refine atomic_bind (checks_failIf _ _) fun _ => ?_
  exact atomic_of_writes (writes_onStatement _)

/-! ### What a change wrote -/

variable {dialect : Dialect} {clause : Clause} {s : Selection} {c : Combination} {table : Table}
  {name : String} {ifNotExists : Bool} {d d' : Draft}

theorem needsSection_eq_false_iff : ¬d.needsSection = true ↔ d.statement.pending = none := by
  simp [needsSection]

theorem addClause_eq_ok (h : addClause dialect clause d = .ok () d') :
    d.statement.pending = none ∧
      (clause.isSkipped dialect d.statement = true ∧ d' = d ∨
        ∃ f, clause.compile dialect = .ok f ∧
          d' = { d with statement := d.statement.extend f }) := by
  simp only [addClause, bind_eq_ok, get_eq_ok, failIf_eq_ok] at h
  obtain ⟨_, _, ⟨rfl, rfl⟩, _, _, ⟨hp, rfl⟩, h⟩ := h
  refine ⟨needsSection_eq_false_iff.mp hp, ?_⟩
  split at h
  · cases h
    exact Or.inl ⟨‹_›, rfl⟩
  · simp only [bind_eq_ok, check_eq_ok, onStatement_eq_ok] at h
    obtain ⟨f, _, ⟨hf, rfl⟩, _, _, rfl, rfl⟩ := h
    exact Or.inr ⟨f, hf, rfl⟩

/-- A clause that compiles is added, unless a set operator waits or it is left out. -/
theorem addClause_of_compile {f : Fragment} (hwait : d.needsSection = false)
    (hskip : clause.isSkipped dialect d.statement = false) (hf : clause.compile dialect = .ok f) :
    addClause dialect clause d = .ok () ⟨d.statement.extend f, d.projection⟩ := by
  simp [addClause, hwait, hskip, hf, Statement.extend]

/-- While a set operator waits no clause is looked at. -/
theorem addClause_of_needsSection (h : d.needsSection = true) :
    addClause dialect clause d = .error (.missingSelect clause.context) d := by
  simp [addClause, h]

theorem addSelection_eq_ok (h : addSelection s d = .ok () d') :
    ∃ sql projection, s.compile = .ok (sql, projection) ∧
      d' = ⟨d.statement.pushSection sql, projection⟩ := by
  simp only [addSelection, bind_eq_ok, check_eq_ok, onStatement_eq_ok, remember_eq_ok] at h
  obtain ⟨⟨sql, projection⟩, _, ⟨hs, rfl⟩, _, _, rfl, rfl⟩ := h
  exact ⟨sql, projection, hs, rfl⟩

theorem combine_eq_ok (h : combine c d = .ok () d') :
    d.statement.kind = .select ∧ d.statement.pending = none ∧
      d' = { d with statement := d.statement.beginCompound c.operator } := by
  simp only [combine, bind_eq_ok, get_eq_ok, failIf_eq_ok, onStatement_eq_ok, not_or,
    ne_eq, Decidable.not_not, needsSection_eq_false_iff] at h
  obtain ⟨_, _, ⟨rfl, rfl⟩, _, _, ⟨⟨hk, hp⟩, rfl⟩, rfl⟩ := h
  exact ⟨hk, hp, rfl⟩

theorem combineSelect_eq_ok (h : combineSelect c table d = .ok () d') :
    d.statement.kind = .select ∧ d.statement.pending = none ∧
      ∃ fields source, Field.renderList d.repeatedFields = .ok fields ∧
        table.render = .ok source ∧
        d' = { d with
          statement := (d.statement.beginCompound c.operator).pushSection
            ("SELECT " ++ fields ++ " FROM " ++ source) } := by
  simp only [combineSelect, bind_eq_ok, get_eq_ok, failIf_eq_ok, check_eq_ok, onStatement_eq_ok,
    ne_eq, Decidable.not_not, needsSection_eq_false_iff] at h
  obtain ⟨_, _, ⟨rfl, rfl⟩, _, _, ⟨-, rfl⟩, _, _, ⟨hk, rfl⟩, _, _, ⟨-, rfl⟩, _, _, ⟨hp, rfl⟩,
    fields, _, ⟨hf, rfl⟩, source, _, ⟨hs, rfl⟩, _, _, rfl, rfl⟩ := h
  exact ⟨hk, hp, fields, source, hf, hs, rfl⟩

theorem createView_eq_ok (h : createView name ifNotExists d = .ok () d') :
    d.statement.kind = .select ∧ d.statement.pending = none ∧
      d' = { d with statement := d.statement.setView (trimmed name) ifNotExists } := by
  simp only [createView, bind_eq_ok, get_eq_ok, failIf_eq_ok, check_eq_ok, onStatement_eq_ok,
    not_or, ne_eq, Decidable.not_not, needsSection_eq_false_iff] at h
  obtain ⟨text, _, ⟨hn, rfl⟩, _, _, ⟨rfl, rfl⟩, _, _, ⟨⟨hk, hp⟩, rfl⟩, rfl⟩ := h
  have htext : text = trimmed name := by
    rw [requireName] at hn
    split at hn
    · cases hn
    · cases hn
      rfl
  exact ⟨hk, hp, by rw [htext]⟩

end Draft

/-! ### The change of a verb -/

/-- The change that a verb makes to the statement there is.  A verb that starts a statement or
handles the error makes none. -/
def Verb.edit (dialect : Dialect) : Verb → Edit Unit
  | .start (.select s) => Draft.addSelection s
  | .clause c => Draft.addClause dialect c
  | .like field pattern negated => Draft.addLike dialect field pattern negated
  | .nullTest field negated => Draft.addNullTest dialect field negated
  | .combine c => Draft.combine c
  | .combineSelect c table => Draft.combineSelect c table
  | .createView name ifNotExists => Draft.createView name ifNotExists
  | _ => pure ()

/-- **Every verb that fails leaves the draft as it was.** -/
theorem Verb.atomic_edit (dialect : Dialect) (v : Verb) : (v.edit dialect).Atomic := by
  cases v with
  | start opening =>
    cases opening with
    | select s => exact Draft.atomic_addSelection s
    | _ => exact Edit.atomic_of_writes (Edit.writes_pure _)
  | clause c => exact Draft.atomic_addClause dialect c
  | like field pattern negated =>
    exact Edit.atomic_bind (Edit.checks_failIf _ _) fun _ => Draft.atomic_addClause dialect _
  | nullTest field negated =>
    exact Edit.atomic_bind (Edit.checks_failIf _ _) fun _ => Draft.atomic_addClause dialect _
  | combine c => exact Draft.atomic_combine c
  | combineSelect c table => exact Draft.atomic_combineSelect c table
  | createView name ifNotExists => exact Draft.atomic_createView name ifNotExists
  | setError _ => exact Edit.atomic_of_writes (Edit.writes_pure _)
  | reset => exact Edit.atomic_of_writes (Edit.writes_pure _)

/-- The clause that a verb adds.  A pattern and a test for null are conditions on the rows. -/
def Verb.clause? : Verb → Option Clause
  | .clause c => some c
  | .like field pattern negated =>
    some (.filter (.ofCondition (.ok
      (.compare (.parse field) (if negated then .notLike else .like) (.value pattern)))) "")
  | .nullTest field negated => some (.filter (.ofCondition (.ok (.null (.parse field) negated))) "")
  | _ => none

/-- A verb that stands for a clause adds that clause. -/
theorem Verb.edit_clause {v : Verb} {c : Clause} (hc : v.clause? = some c) {dialect : Dialect}
    {d d' : Draft} (h : v.edit dialect d = .ok () d') :
    Draft.addClause dialect c d = .ok () d' := by
  cases v with
  | clause c' =>
    cases hc
    exact h
  | like field pattern negated =>
    cases hc
    simp only [Verb.edit, Draft.addLike, Edit.bind_eq_ok, Edit.failIf_eq_ok] at h
    obtain ⟨_, _, ⟨-, rfl⟩, h⟩ := h
    exact h
  | nullTest field negated =>
    cases hc
    simp only [Verb.edit, Draft.addNullTest, Edit.bind_eq_ok, Edit.failIf_eq_ok] at h
    obtain ⟨_, _, ⟨-, rfl⟩, h⟩ := h
    exact h
  | _ => cases hc

end FluentSql
