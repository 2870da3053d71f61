import FluentSql.Proofs.Gate

/-!
# Statements start afresh

A verb that takes up a new statement asks nothing of the builder but its dialect and its switches,
and leaves nothing behind: whatever was built before, whatever failed and whatever was fetched, the
builder is afterwards the one that a new builder becomes by the same verb.  So nobody can tell from
what follows that there was a statement before.

## Main definitions

* `Builder.outcome`, `Builder.transcript` — what an action gives, and what several give in order.
* `Builder.settings` — what a builder keeps from beginning to end.

## Main results

* `Builder.settings_actAll` — no action changes the settings.
* `Builder.run_eq_run_of_opens` — two builders of the same settings become the same.
* `Builder.starts_afresh` — **a verb that takes up a statement does so as on a new builder.**
-/

namespace FluentSql

/-- What an action gives as its result. -/
def Action.Result : Action → Type
  | .verb _ => Unit
  | .finish _ _ => Answer
  | @Action.allAs α _ _ => List α
  | @Action.oneAs α _ _ => Option α

namespace Builder

variable {α : Type} {b b' : Builder} {backend : Backend}

/-- What an action gives: the builder afterwards, the requests and the result. -/
def outcome (b : Builder) : (a : Action) → Outcome a.Result
  | .verb v => ⟨b.run v, [], .ok ()⟩
  | .finish t backend => b.finish backend t
  | .allAs decode backend => b.allAs backend decode
  | .oneAs decode backend => b.oneAs backend decode

/-- What several actions give, one after the other. -/
def transcript (b : Builder) : List Action → List (Σ a : Action, Outcome a.Result)
  | [] => []
  | a :: as => ⟨a, b.outcome a⟩ :: (b.outcome a).builder.transcript as

/-! ### The settings -/

/-- What a builder keeps from beginning to end: its dialect and its switches. -/
def settings (b : Builder) : Dialect × Options := (b.dialect, b.options)

theorem settings_run (b : Builder) (v : Verb) : (b.run v).settings = b.settings := by
  have hstep := b.step_run v
  generalize b.run v = b' at hstep ⊢
  cases hstep with
  | setError message =>
    rw [setError]
    split <;> rfl
  | _ => rfl

theorem settings_clearExecution (b : Builder) : b.clearExecution.settings = b.settings := by
  rw [clearExecution]
  split <;> rfl

/-- Running a statement keeps the settings, if taking up a reply does. -/
theorem settings_perform {m : Method} {accept : Builder → Reply → Builder × α}
    (haccept : ∀ b reply, (accept b reply).1.settings = b.settings) :
    (b.perform backend m accept).builder.settings = b.settings := by
  have hclear := settings_clearExecution b
  cases hc : b.clearExecution.compile with
  | error e =>
    rw [perform_of_refused hc]
    exact hclear
  | ok q =>
    cases hreply : backend ⟨m, q⟩ with
    | error e =>
      rw [perform_of_failed hc hreply]
      exact hclear
    | ok reply =>
      rw [perform_of_reply hc hreply]
      exact (haccept _ reply).trans hclear

theorem settings_all : (b.all backend).builder.settings = b.settings :=
  settings_perform fun _ _ => rfl

theorem settings_one : (b.one backend).builder.settings = b.settings :=
  settings_perform fun _ _ => rfl

theorem settings_go : (b.go backend).builder.settings = b.settings :=
  settings_perform fun _ _ => rfl

theorem settings_column (name : String) :
    (b.column backend name).builder.settings = b.settings := by
  rw [column]
  split
  · rfl
  · exact settings_all

theorem settings_pluck (key name : String) :
    (b.pluck backend key name).builder.settings = b.settings := by
  rw [pluck]
  split
  · rfl
  · exact settings_all

theorem settings_count (table field : String) :
    (b.count backend table field).builder.settings = b.settings := by
  rw [count]
  cases countTarget field with
  | error e => rfl
  | ok target => exact (settings_column "counter").trans (settings_run b _)

theorem settings_act (b : Builder) (a : Action) : (b.act a).1.settings = b.settings := by
  cases a with
  | verb v => exact settings_run b v
  | allAs decode backend => exact settings_all
  | oneAs decode backend => exact settings_one
  | finish t backend =>
    cases t with
    | all => exact settings_all
    | one => exact settings_one
    | allEntries => exact settings_all
    | oneEntry => exact settings_one
    | go => exact settings_go
    | hasRows => exact settings_one
    | column name => exact settings_column name
    | pluck key name => exact settings_pluck key name
    | count table field => exact settings_count table field

/-- **No action changes the settings**, and so no number of them does. -/
theorem settings_actAll (b : Builder) (as : List Action) :
    (b.actAll as).settings = b.settings := by
  induction as generalizing b with
  | nil => rfl
  | cons a as ih => exact (ih (b.act a).1).trans (settings_act b a)

/-! ### Taking up a statement -/

/-- An opening that fails leaves its error, and one that succeeds leaves none. -/
theorem error_start (b : Builder) (d : Except Error Draft) : (b.start d).error = errorOf d := by
  cases d <;> rfl

/-- What an opening that succeeds leaves depends on the settings alone. -/
theorem start_eq_start (h : b.settings = b'.settings) (d : Draft) :
    b.start (.ok d) = b'.start (.ok d) := by
  obtain ⟨hdialect, hoptions⟩ := Prod.mk.inj h
  rw [start, start, reset, reset, hdialect, hoptions]

/-- **Two builders of the same settings become the same** by a verb that takes up a statement on
both of them, or keep the same reason why there is none. -/
theorem run_eq_run_of_opens {v : Verb} (h : b.settings = b'.settings) (ho : b.opens v = true)
    (ho' : b'.opens v = true) :
    (b.run v).error = (b'.run v).error ∧ ((b.run v).error = none → b.run v = b'.run v) := by
  obtain ⟨opening, rfl⟩ := isStarting_of_opens ho
  rw [run_of_opens ho, run_of_opens ho', error_start, error_start]
  refine ⟨rfl, fun hnone => ?_⟩
  cases hd : opening.draft with
  | ok d => exact start_eq_start h d
  | error e =>
    rw [hd] at hnone
    cases hnone

/-- On a new builder no set operator waits, so every verb that may start a statement does. -/
theorem opens_new (dialect : Dialect) (options : Options) (v : Verb) :
    (new dialect options).opens v = v.isStarting := by
  cases v with
  | start opening => cases opening <;> rfl
  | _ => rfl

/-- **A verb that takes up a statement does so as on a new builder.**  Whatever was called before,
verbs and terminal verbs in any order and whatever the backends answered: the verb succeeds exactly
if it does on a new builder, with the same error if it does not; and if it succeeds then the two
builders are the same, so that all that is called on them gives the same. -/
theorem starts_afresh (dialect : Dialect) (options : Options) (as : List Action) {v : Verb}
    (ho : ((new dialect options).actAll as).opens v = true) :
    (((new dialect options).actAll as).run v).error = ((new dialect options).run v).error ∧
      ((((new dialect options).actAll as).run v).error = none →
        ((new dialect options).actAll as).run v = (new dialect options).run v ∧
          ∀ more : List Action,
            (((new dialect options).actAll as).run v).transcript more =
              ((new dialect options).run v).transcript more) := by
  have hnew : (new dialect options).opens v = true := by
    obtain ⟨opening, rfl⟩ := isStarting_of_opens ho
    rw [opens_new]
    rfl
  obtain ⟨herror, hsame⟩ :=
    run_eq_run_of_opens (settings_actAll (new dialect options) as) ho hnew
  refine ⟨herror, fun hnone => ?_⟩
  have heq := hsame hnone
  exact ⟨heq, fun more => by rw [heq]⟩

/-- A SELECT that gave a row, a UNION that waits, and a limit that it does not get. -/
def brokenUnion : List Action :=
  [.verb (.select (.named "users") [.star]),
    .verb (.filter ⟨[.condition (.compare (.column "id") .equal (.value (.int32 1)))], none⟩),
    .finish .all fun _ => .ok { Reply.empty with rows := [[("name", .text "Ann")]] },
    .verb (.combine (.union false)),
    .verb (.limit 5)]

/-- The next SELECT is no part of the union, has no parameter and no row, and can be sent. -/
theorem starts_afresh_brokenUnion :
    ((new .sqlite .default).actAll brokenUnion).error =
        some (.missingSelect "QueryBuilder::limit") ∧
      ((new .sqlite .default).actAll brokenUnion).text =
        "SELECT * FROM `users` WHERE (`id` = ?) UNION" ∧
      ((new .sqlite .default).actAll brokenUnion).rowCount = some 1 ∧
      ((new .sqlite .default).actAll brokenUnion).run (.select (.named "groups") [.star]) =
        (new .sqlite .default).run (.select (.named "groups") [.star]) :=
  ⟨rfl, rfl, rfl, ((starts_afresh .sqlite .default brokenUnion rfl).2 rfl).1⟩

end Builder

end FluentSql
