import FluentSql.Proofs.Session

/-!
# The gate in front of the backend

Every terminal verb but the one that counts runs the statement there is.  An execution error that
is kept is dropped first; then the statement is sent exactly once if it compiles, and not at all if
it does not.  The statement stays as it is whatever the backend answers, so a verb that failed there
can be repeated and sends the same again.

## Main definitions

* `errorOf`, `Outcome.failure` — the error that a result is, and the one that an outcome returns.
* `Builder.report` — the outcome of an action.
* `Action.method?` — the method by which an action runs the statement.
* `Outcome.Gated` — an outcome of running the statement by a method.
* `Builder.actAll` — several actions in order.

## Main results

* `Builder.gated_perform` — running a statement is gated, whatever is kept of the reply.
* `Builder.draft_actAll` — what verbs preserve about the draft, all actions preserve.
* `Builder.gated_and_repeatable` — **so is every terminal verb, and it can be repeated.**
-/

namespace FluentSql

/-! ### Outcomes -/

/-- The error that a result is, if it is one. -/
def errorOf {α : Type} : Except Error α → Option Error
  | .ok _ => none
  | .error e => some e

theorem errorOf_map {α β : Type} (r : Except Error α) (f : α → β) :
    errorOf (r.map f) = errorOf r := by
  cases r <;> rfl

theorem errorOf_bind_of_error {α β : Type} {r : Except Error α} {e : Error}
    (h : errorOf r = some e) (f : α → Except Error β) : errorOf (r.bind f) = some e := by
  cases r with
  | ok a => cases h
  | error e' => exact h

namespace Outcome

variable {α β : Type} {o : Outcome α} {b : Builder} {m : Method}

/-- The error that is returned, if one is. -/
def failure (o : Outcome α) : Option Error := errorOf o.result

/-- What comes of running the statement of a builder by a method: the statement is sent once if it
compiles, and otherwise the reason why it does not is returned and kept. -/
structure Gated (o : Outcome α) (b : Builder) (m : Method) : Prop where
  sent : ∀ q, b.clearExecution.compile = .ok q → o.sent = [⟨m, q⟩]
  refused : ∀ e, b.clearExecution.compile = .error e →
    o.sent = [] ∧ o.failure = some e ∧ o.builder.error = some e
  /-- The statement, its parameters and the projection stay. -/
  draft : o.builder.draft = b.draft

/-- What is made of the result is behind the gate. -/
theorem gated_check (h : o.Gated b m) (f : α → Except Error β) : (o.check f).Gated b m where
  sent := h.sent
  refused e he :=
    have ⟨hsent, hfailure, herror⟩ := h.refused e he
    ⟨hsent, errorOf_bind_of_error hfailure f, herror⟩
  draft := h.draft

theorem map_eq_check (o : Outcome α) (f : α → β) : o.map f = o.check fun a => .ok (f a) := by
  rw [map, check]
  cases o.result <;> rfl

theorem gated_map (h : o.Gated b m) (f : α → β) : (o.map f).Gated b m := by
  rw [map_eq_check]
  exact gated_check h _

end Outcome

/-! ### Actions -/

/-- The method by which a terminal verb runs the statement.  One that is given a blank name runs
nothing, and the one that counts runs a statement of its own. -/
def Terminal.method? : Terminal → Option Method
  | .all | .allEntries => some .fetchAll
  | .one | .oneEntry | .hasRows => some .fetchOptional
  | .go => some .execute
  | .column name => if isBlankText name then none else some .fetchAll
  | .pluck key name => if isBlankText key || isBlankText name then none else some .fetchAll
  | .count _ _ => none

/-- The method by which an action runs the statement, if it does. -/
def Action.method? : Action → Option Method
  | .verb _ => none
  | .finish t _ => t.method?
  | .allAs .. => some .fetchAll
  | .oneAs .. => some .fetchOptional

namespace Builder

/-- The outcome of an action; of its result only an error is told. -/
def report (b : Builder) : Action → Outcome Unit
  | .verb v => ⟨b.run v, [], .ok ()⟩
  | .finish t backend => (b.finish backend t).map fun _ => ()
  | .allAs decode backend => (b.allAs backend decode).map fun _ => ()
  | .oneAs decode backend => (b.oneAs backend decode).map fun _ => ()

theorem act_eq_report (b : Builder) (a : Action) :
    b.act a = ((b.report a).builder, (b.report a).sent) := by
  cases a <;> rfl

variable {α : Type} {b b' : Builder} {a : Action} {backend : Backend} {m : Method}

/-! ### The gate -/

/-- **Running a statement is gated**, whatever is kept of the reply. -/
theorem gated_perform {accept : Builder → Reply → Builder × α}
    (haccept : ∀ b reply, (accept b reply).1.draft = b.draft) :
    (b.perform backend m accept).Gated b m := by
  have hdraft := b.draft_clearExecution
  cases hc : b.clearExecution.compile with
  | error e =>
    rw [perform_of_refused hc]
    refine ⟨fun q hq => ?_, fun e' he' => ?_, hdraft⟩
    · rw [hc] at hq
      cases hq
    · rw [hc] at he'
      cases he'
      exact ⟨rfl, rfl, rfl⟩
  | ok q =>
    have hgated : ∀ o : Outcome α, o.sent = [⟨m, q⟩] → o.builder.draft = b.draft → o.Gated b m := by
      refine fun o hsent hkept => ⟨fun q' hq' => ?_, fun e he => ?_, hkept⟩
      · rw [hc] at hq'
        cases hq'
        exact hsent
      · rw [hc] at he
        cases he
    cases hreply : backend ⟨m, q⟩ with
    | error e =>
      rw [perform_of_failed hc hreply]
      exact hgated _ rfl hdraft
    | ok reply =>
      rw [perform_of_reply hc hreply]
      exact hgated _ rfl ((haccept _ reply).trans hdraft)

theorem gated_all : (b.all backend).Gated b .fetchAll := gated_perform fun _ _ => rfl

theorem gated_one : (b.one backend).Gated b .fetchOptional := gated_perform fun _ _ => rfl

theorem gated_go : (b.go backend).Gated b .execute := gated_perform fun _ _ => rfl

/-- Every terminal verb that runs the statement is gated. -/
theorem gated_finish {t : Terminal} (ht : t.method? = some m) :
    (b.finish backend t).Gated b m := by
  cases t with
  | all => cases ht; exact Outcome.gated_map gated_all _
  | one => cases ht; exact Outcome.gated_map gated_one _
  | allEntries => cases ht; exact Outcome.gated_map (Outcome.gated_check gated_all _) _
  | oneEntry => cases ht; exact Outcome.gated_map (Outcome.gated_check gated_one _) _
  | go => cases ht; exact Outcome.gated_map gated_go _
  | hasRows => cases ht; exact Outcome.gated_map (Outcome.gated_map gated_one _) _
  | count table field => cases ht
  | column name =>
    rw [Terminal.method?] at ht
    split at ht
    · cases ht
    · rename_i hname
      cases ht
      rw [finish, column, if_neg hname]
      exact Outcome.gated_map (Outcome.gated_map gated_all _) _
  | pluck key column =>
    rw [Terminal.method?] at ht
    split at ht
    · cases ht
    · rename_i hname
      cases ht
      rw [finish, pluck, if_neg hname]
      exact Outcome.gated_map (Outcome.gated_map gated_all _) _

theorem gated_report (ha : a.method? = some m) : (b.report a).Gated b m := by
  cases a with
  | verb v => cases ha
  | finish t backend => exact Outcome.gated_map (gated_finish ha) _
  | allAs decode backend => cases ha; exact Outcome.gated_map (Outcome.gated_check gated_all _) _
  | oneAs decode backend => cases ha; exact Outcome.gated_map (Outcome.gated_check gated_one _) _

/-! ### What an action does to the draft -/

theorem draft_column (name : String) : (b.column backend name).builder.draft = b.draft := by
  rw [column]
  split
  · rfl
  · exact gated_all.draft

theorem draft_pluck (key name : String) : (b.pluck backend key name).builder.draft = b.draft := by
  rw [pluck]
  split
  · rfl
  · exact gated_all.draft

/-- To count is to run a SELECT and to fetch a column of it, unless the field is refused. -/
theorem draft_count (table field : String) :
    (b.count backend table field).builder.draft = b.draft ∨
      ∃ o : Opening,
        (b.count backend table field).builder.draft = (b.run (.start o)).draft := by
  rw [count]
  cases countTarget field with
  | error e => exact Or.inl rfl
  | ok target => exact Or.inr ⟨_, draft_column "counter"⟩

/-- A terminal verb leaves the draft as it was, or as some SELECT leaves it. -/
theorem draft_act_of_ne_verb (b : Builder) (ha : ∀ v, a ≠ .verb v) :
    (b.act a).1.draft = b.draft ∨
      ∃ o : Opening, (b.act a).1.draft = (b.run (.start o)).draft := by
  rw [act_eq_report]
  cases hm : a.method? with
  | some m => exact Or.inl (gated_report hm).draft
  | none =>
    cases a with
    | verb v => exact absurd rfl (ha v)
    | finish t backend =>
      cases t with
      | column name => exact Or.inl (draft_column name)
      | pluck key name => exact Or.inl (draft_pluck key name)
      | count table field => exact draft_count table field
      | _ => cases hm
    | _ => cases hm

/-- An action leaves the draft as it was, or as some verb leaves it. -/
theorem draft_act (b : Builder) (a : Action) :
    (b.act a).1.draft = b.draft ∨ ∃ v : Verb, (b.act a).1.draft = (b.run v).draft := by
  by_cases ha : ∃ v, a = .verb v
  · obtain ⟨v, rfl⟩ := ha
    exact Or.inr ⟨v, rfl⟩
  · rcases draft_act_of_ne_verb b fun v hv => ha ⟨v, hv⟩ with hsame | ⟨o, ho⟩
    · exact Or.inl hsame
    · exact Or.inr ⟨.start o, ho⟩

/-- The builder after several actions. -/
def actAll (b : Builder) (as : List Action) : Builder := as.foldl (fun b a => (b.act a).1) b

theorem actAll_snoc (b : Builder) (as : List Action) (a : Action) :
    b.actAll (as ++ [a]) = ((b.actAll as).act a).1 :=
  List.foldl_append

/-- What holds of every draft after a verb, and of the empty one, holds of the draft after any
actions. -/
theorem draft_actAll {P : Draft → Prop} (hnew : P .empty)
    (hrun : ∀ (b : Builder) (v : Verb), P b.draft → P (b.run v).draft) (dialect : Dialect)
    (options : Options) (as : List Action) : P ((new dialect options).actAll as).draft := by
  suffices h : ∀ b : Builder, P b.draft → P (b.actAll as).draft from h _ hnew
  induction as with
  | nil => exact fun b hb => hb
  | cons a as ih =>
    intro b hb
    refine ih (b.act a).1 ?_
    rcases draft_act b a with hsame | ⟨v, hv⟩
    · rw [hsame]
      exact hb
    · rw [hv]
      exact hrun b v hb

/-! ### Repeating a verb -/

/-- A builder with the same draft and no error but one of execution sends the same statement. -/
theorem compile_clearExecution_of_draft {q : Fragment} (hc : b.clearExecution.compile = .ok q)
    (hd : b'.draft = b.draft) (hx : ∀ e, b'.error = some e → e.isExecution = true) :
    b'.clearExecution.compile = .ok q := by
  obtain ⟨-, hempty, hpending, hq⟩ := compile_eq_ok_iff.mp hc
  have hdraft : b'.clearExecution.draft = b.clearExecution.draft := by
    rw [draft_clearExecution, draft_clearExecution, hd]
  have herror : b'.clearExecution.error = none := by
    cases he : b'.clearExecution.error with
    | none => rfl
    | some e =>
      obtain ⟨he', hkept⟩ := isExecution_clearExecution he
      rw [hx e he'] at hkept
      cases hkept
  refine compile_eq_ok_iff.mpr ⟨herror, ?_, ?_, ?_⟩
  · rw [statement, hdraft]
    exact hempty
  · rw [hdraft]
    exact hpending
  · rw [text, params, statement, hdraft]
    exact hq

/-- **Every terminal verb that runs the statement is gated, and can be repeated.**  In every state
and with any backend, the statement is sent once if it compiles, an execution error that was kept
apart, and otherwise the reason why it does not is returned and kept; the statement, its parameters
and the projection stay.  And unless an error is kept that is not one of execution, the same method
sends the same once more. -/
theorem gated_and_repeatable (ha : a.method? = some m) :
    (b.report a).Gated b m ∧
      ∀ a' : Action, a'.method? = some m →
        (∀ e, (b.report a).builder.error = some e → e.isExecution = true) →
          ((b.report a).builder.report a').sent = (b.report a).sent := by
  have hgate := gated_report (b := b) ha
  refine ⟨hgate, fun a' ha' hx => ?_⟩
  have hgate' := gated_report (b := (b.report a).builder) ha'
  cases hc : b.clearExecution.compile with
  | ok q =>
    have hc' := compile_clearExecution_of_draft hc hgate.draft hx
    rw [hgate.sent q hc, hgate'.sent q hc']
  | error e =>
    -- such an error is kept, so nothing is asked of the verb that follows
    obtain ⟨-, -, herror⟩ := hgate.refused e hc
    have hnone := isExecution_of_refused hc
    rw [hx e herror] at hnone
    cases hnone

/-- A DELETE on a database that is locked. -/
def lockedDelete : Builder × Action :=
  ((new .sqlite .default).run (.start (.delete (.named "users"))),
    .finish .go fun _ => .error (.execution "locked"))

/-- The DELETE fails and is sent again as it was. -/
theorem gated_and_repeatable_lockedDelete :
    (lockedDelete.1.report lockedDelete.2).failure = some (.execution "locked") ∧
      (lockedDelete.1.report lockedDelete.2).sent =
        [⟨.execute, "DELETE FROM `users`;", []⟩] ∧
      ((lockedDelete.1.report lockedDelete.2).builder.report lockedDelete.2).sent =
        (lockedDelete.1.report lockedDelete.2).sent := by
  obtain ⟨hgate, hagain⟩ :=
    gated_and_repeatable (b := lockedDelete.1) (a := lockedDelete.2) (m := .execute) rfl
  refine ⟨rfl, hgate.sent _ rfl, hagain lockedDelete.2 rfl fun e he => ?_⟩
  cases he
  rfl

end Builder

end FluentSql
