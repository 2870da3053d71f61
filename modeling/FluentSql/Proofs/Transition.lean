import FluentSql.Proofs.Edit

/-!
# What one verb does to a builder

A verb takes up a new statement, changes the one there is, or touches the error alone.  Which of
these it does depends on the builder only through the error and the set operator that waits; all
that a builder can go through is a list of the steps described here.

## Main definitions

* `Verb.isStarting`, `Verb.handlesError` — verbs that start statements, and verbs for the error.
* `Builder.opens`, `Builder.restarts` — whether a verb takes up a new statement, in the state the
  builder is in; and whether it drops the old one, be it without taking up another.
* `Builder.Step` — what one verb can do.

## Main results

* `Builder.step_run` — **a verb does nothing else.**
-/

namespace FluentSql

/-- Whether a verb may start a statement. -/
def Verb.isStarting : Verb → Bool
  | .start _ => true
  | _ => false

/-- Whether a verb is about the error and not about a statement. -/
def Verb.handlesError : Verb → Bool
  | .setError _ | .reset => true
  | _ => false

namespace Builder

/-- Whether a verb takes up a new statement, or fails to.  A SELECT does not if a set operator waits
for it. -/
def opens (b : Builder) : Verb → Bool
  | .start (.select _) => !(b.draft.needsSection && !b.hasError)
  | .start _ => true
  | _ => false

/-- Whether a verb that succeeds drops the statement there was. -/
def restarts (b : Builder) : Verb → Bool
  | .reset => true
  | v => b.opens v

theorem restarts_of_opens {b : Builder} {v : Verb} (h : b.opens v = true) :
    b.restarts v = true := by
  cases v with
  | start opening => exact h
  | _ => cases h

theorem restarts_eq_opens {b : Builder} {v : Verb} (hv : v.handlesError = false) :
    b.restarts v = b.opens v := by
  cases v with
  | reset => cases hv
  | _ => rfl

theorem isStarting_of_opens {b : Builder} {v : Verb} (h : b.opens v = true) :
    ∃ opening, v = .start opening := by
  cases v with
  | start opening => exact ⟨opening, rfl⟩
  | _ => cases h

/-- A verb that opens takes up the draft of its opening. -/
theorem run_of_opens {b : Builder} {opening : Opening} (h : b.opens (.start opening) = true) :
    b.run (.start opening) = b.start opening.draft := by
  cases opening with
  | select s =>
    have hwait : ¬(b.draft.needsSection && !b.hasError) = true := by
      rw [opens, Bool.not_eq_true'] at h
      rw [h]
      exact Bool.false_ne_true
    rw [run, runOpening, if_neg hwait]
  | _ => rfl

/-- A verb that does not open makes its change. -/
theorem run_of_not_opens {b : Builder} {v : Verb} (h : b.opens v = false)
    (hv : v.handlesError = false) : b.run v = b.extend (v.edit b.dialect) := by
  cases v with
  | start opening =>
    cases opening with
    | select s =>
      have hwait : (b.draft.needsSection && !b.hasError) = true := by simpa [opens] using h
      rw [run, runOpening, if_pos hwait]
      rfl
    | _ => cases h
  | setError _ => cases hv
  | reset => cases hv
  | _ => rfl

/-- While an error is kept only a starting verb opens, and every starting verb does. -/
theorem opens_of_error {b : Builder} {e : Error} (h : b.error = some e) (v : Verb) :
    b.opens v = v.isStarting := by
  cases v with
  | start opening => cases opening <;> simp [opens, Verb.isStarting, hasError, h]
  | _ => rfl

/-- No change makes a statement one of another kind. -/
theorem kind_edit {b : Builder} {v : Verb} {d : Draft} (ho : b.opens v = false)
    (hv : v.handlesError = false) (h : v.edit b.dialect b.draft = .ok () d) :
    d.statement.kind = b.statement.kind := by
  have hclause : ∀ c, Draft.addClause b.dialect c b.draft = .ok () d →
      d.statement.kind = b.statement.kind := by
    intro c hc
    obtain ⟨-, ⟨-, rfl⟩ | ⟨f, -, rfl⟩⟩ := Draft.addClause_eq_ok hc
    · rfl
    · exact Statement.kind_append _ f.sql
  cases v with
  | start opening =>
    cases opening with
    | select s =>
      obtain ⟨_, _, -, rfl⟩ := Draft.addSelection_eq_ok h
      rfl
    | _ => cases ho
  | clause c => exact hclause c h
  | like field pattern negated => exact hclause _ (Verb.edit_clause rfl h)
  | nullTest field negated => exact hclause _ (Verb.edit_clause rfl h)
  | combine c =>
    obtain ⟨-, -, rfl⟩ := Draft.combine_eq_ok h
    rfl
  | combineSelect c table =>
    obtain ⟨-, -, _, _, -, -, rfl⟩ := Draft.combineSelect_eq_ok h
    rfl
  | createView name ifNotExists =>
    obtain ⟨-, -, rfl⟩ := Draft.createView_eq_ok h
    rfl
  | setError _ => cases hv
  | reset => cases hv

/-! ### The steps -/

/-- What a verb can do to a builder. -/
inductive Step (b : Builder) : Verb → Builder → Prop where
  /-- A new statement was taken up, and everything else forgotten. -/
  | opened {opening : Opening} {d : Draft} (ho : b.opens (.start opening) = true)
    (hd : opening.draft = .ok d) : Step b (.start opening) { b.reset with draft := d }
  /-- A new statement could not be made; the error is kept. -/
  | refused {opening : Opening} {e : Error} (ho : b.opens (.start opening) = true)
    (he : opening.draft = .error e) : Step b (.start opening) (b.record e)
  /-- Nothing happened, since there was an error. -/
  | frozen {v : Verb} {e : Error} (ho : b.opens v = false) (hv : v.handlesError = false)
    (he : b.error = some e) : Step b v b
  /-- The draft was changed. -/
  | edited {v : Verb} {d : Draft} (ho : b.opens v = false) (hv : v.handlesError = false)
    (hb : b.error = none) (hd : v.edit b.dialect b.draft = .ok () d) :
    Step b v { b with draft := d }
  /-- The change failed; its error is kept and nothing was written. -/
  | failed {v : Verb} {e : Error} (ho : b.opens v = false) (hv : v.handlesError = false)
    (hb : b.error = none) (he : v.edit b.dialect b.draft = .error e b.draft) :
    Step b v (b.record e)
  /-- The caller set the error. -/
  | setError (message : String) : Step b (.setError message) (b.setError message)
  /-- Everything was forgotten. -/
  | reset : Step b .reset b.reset

/-- A verb that opens takes up a new statement or keeps the reason why there is none. -/
theorem step_of_opens {b : Builder} {v : Verb} (ho : b.opens v = true) : b.Step v (b.run v) := by
  obtain ⟨opening, rfl⟩ := isStarting_of_opens ho
  rw [run_of_opens ho]
  cases hd : opening.draft with
  | ok d => exact .opened ho hd
  | error e => exact .refused ho hd

/-- A verb that does not open leaves the statement alone or changes it as a whole. -/
theorem step_of_not_opens {b : Builder} {v : Verb} (ho : b.opens v = false)
    (hv : v.handlesError = false) : b.Step v (b.run v) := by
  rw [run_of_not_opens ho hv]
  cases hb : b.error with
  | some e =>
    rw [extend_of_error hb]
    exact .frozen ho hv hb
  | none =>
    cases hd : v.edit b.dialect b.draft with
    | ok _ d =>
      rw [extend_of_ok hb hd]
      exact .edited ho hv hb hd
    | error e d =>
      -- what a failure leaves behind is the draft there was
      have hback : d = b.draft := v.atomic_edit b.dialect hd
      subst hback
      rw [extend_of_failure hb hd]
      exact .failed ho hv hb hd

/-- **A verb does nothing else** than what the steps describe. -/
theorem step_run (b : Builder) (v : Verb) : b.Step v (b.run v) := by
  by_cases ho : b.opens v = true
  · exact step_of_opens ho
  · have ho' : b.opens v = false := Bool.of_not_eq_true ho
    cases hv : v.handlesError with
    | false => exact step_of_not_opens ho' hv
    | true =>
      cases v with
      | setError message => exact .setError message
      | reset => exact .reset
      | _ => cases hv

/-- A verb that leaves an error leaves the draft as it was. -/
theorem draft_run_of_error {b : Builder} {v : Verb} {e : Error} (h : (b.run v).error = some e) :
    (b.run v).draft = b.draft := by
  have hstep := b.step_run v
  generalize b.run v = b' at hstep h ⊢
  cases hstep with
  | opened ho hd => cases h
  | edited ho hv hb hd =>
    rw [hb] at h
    cases h
  | reset => cases h
  | setError message =>
    rw [Builder.setError]
    split <;> rfl
  | _ => rfl

/-- No verb changes the dialect. -/
@[simp] theorem dialect_run (b : Builder) (v : Verb) : (b.run v).dialect = b.dialect := by
  have hstep := b.step_run v
  generalize b.run v = b' at hstep ⊢
  cases hstep with
  | setError message =>
    rw [Builder.setError]
    split <;> rfl
  | _ => rfl

/-! ### Several verbs -/

theorem runAll_append (b : Builder) (vs ws : List Verb) :
    b.runAll (vs ++ ws) = (b.runAll vs).runAll ws :=
  List.foldl_append

@[simp] theorem dialect_runAll (b : Builder) (vs : List Verb) :
    (b.runAll vs).dialect = b.dialect := by
  induction vs generalizing b with
  | nil => rfl
  | cons v vs ih => exact (ih (b.run v)).trans (dialect_run b v)

end Builder

end FluentSql
