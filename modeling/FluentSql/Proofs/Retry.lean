import FluentSql.Proofs.Counting

/-!
# Failures of the backend

A backend may fail with any error.  The failure is returned and kept, what was fetched before is
cleared, and the statement stays.  Whether it can be sent again is told from the error that is kept:
an execution error is dropped before the next attempt, and every other one stands in its way, also
when it came from the backend.  Only a count goes on whatever is kept, since it runs a statement of
its own.

## Main definitions

* `Action.backend?` — the backend that an action asks.
* `Outcome.Failed` — what a failure of the backend leaves behind.
* `Builder.requests` — what several actions send.

## Main results

* `Builder.failed_report` — every terminal verb leaves the same behind when the backend fails.
* `Builder.requests_of_sendable`, `Builder.requests_of_blocked` — a statement is sent as often as it
  is tried, or never.
* `Builder.resent_iff_isExecution` — **a statement that failed is sent again exactly if its failure
  is an execution error.**
-/

namespace FluentSql

/-- The backend that an action asks. -/
def Action.backend? : Action → Option Backend
  | .verb _ => none
  | .finish _ backend | .allAs _ backend | .oneAs _ backend => some backend

namespace Outcome

variable {α β : Type} {o : Outcome α} {q : Fragment} {e : Error}

/-- What a failure of the backend leaves behind: the error is returned and kept, nothing that was
fetched is left, and but for the error the statement can be sent as it was. -/
structure Failed (o : Outcome α) (q : Fragment) (e : Error) : Prop where
  failure : o.failure = some e
  error : o.builder.error = some e
  rows : o.builder.rows = []
  rowCount : o.builder.rowCount = none
  statement : { o.builder with error := none }.compile = .ok q

theorem failed_check (h : o.Failed q e) (f : α → Except Error β) : (o.check f).Failed q e :=
  ⟨errorOf_bind_of_error h.failure f, h.error, h.rows, h.rowCount, h.statement⟩

theorem failed_map (h : o.Failed q e) (f : α → β) : (o.map f).Failed q e := by
  rw [map_eq_check]
  exact failed_check h _

end Outcome

namespace Builder

variable {α : Type} {b : Builder} {backend : Backend} {r : Request} {e : Error}

/-! ### One failure -/

/-- Running a statement leaves a failure of the backend behind, whatever would be kept of a reply.
-/
theorem failed_perform {m : Method} {accept : Builder → Reply → Builder × α}
    (hsent : (b.perform backend m accept).sent = [r]) (he : backend r = .error e) :
    (b.perform backend m accept).Failed r.query e := by
  cases hc : b.clearExecution.compile with
  | error e' =>
    rw [perform_of_refused hc] at hsent
    cases hsent
  | ok q =>
    obtain ⟨hnone, hempty, hpending, hq⟩ := compile_eq_ok_iff.mp hc
    cases hreply : backend ⟨m, q⟩ with
    | ok reply =>
      rw [perform_of_reply hc hreply] at hsent
      cases hsent
      rw [he] at hreply
      cases hreply
    | error e' =>
      rw [perform_of_failed hc hreply] at hsent ⊢
      cases hsent
      rw [he] at hreply
      cases hreply
      exact ⟨rfl, rfl, rfl, rfl, compile_eq_ok_iff.mpr ⟨rfl, hempty, hpending, hq⟩⟩

theorem failed_all (hsent : (b.all backend).sent = [r]) (he : backend r = .error e) :
    (b.all backend).Failed r.query e := failed_perform hsent he

theorem failed_one (hsent : (b.one backend).sent = [r]) (he : backend r = .error e) :
    (b.one backend).Failed r.query e := failed_perform hsent he

theorem failed_go (hsent : (b.go backend).sent = [r]) (he : backend r = .error e) :
    (b.go backend).Failed r.query e := failed_perform hsent he

theorem failed_column {name : String} (hsent : (b.column backend name).sent = [r])
    (he : backend r = .error e) : (b.column backend name).Failed r.query e := by
  rw [column] at hsent ⊢
  split at hsent
  · cases hsent
  · rename_i hname
    rw [if_neg hname]
    exact Outcome.failed_map (failed_all hsent he) _

theorem failed_pluck {key name : String} (hsent : (b.pluck backend key name).sent = [r])
    (he : backend r = .error e) : (b.pluck backend key name).Failed r.query e := by
  rw [pluck] at hsent ⊢
  split at hsent
  · cases hsent
  · rename_i hname
    rw [if_neg hname]
    exact Outcome.failed_map (failed_all hsent he) _

theorem failed_count {table field : String} (hsent : (b.count backend table field).sent = [r])
    (he : backend r = .error e) : (b.count backend table field).Failed r.query e := by
  rw [count] at hsent ⊢
  cases htarget : countTarget field with
  | error e' =>
    rw [htarget] at hsent
    cases hsent
  | ok target =>
    rw [htarget] at hsent
    exact Outcome.failed_map (failed_column hsent he) _

/-- **Every terminal verb leaves the same behind** when the backend fails. -/
theorem failed_report {a : Action} (ha : a.backend? = some backend)
    (hsent : (b.report a).sent = [r]) (he : backend r = .error e) :
    (b.report a).Failed r.query e := by
  cases a with
  | verb v => cases ha
  | allAs decode backend =>
    cases ha
    exact Outcome.failed_map (Outcome.failed_check (failed_all hsent he) _) _
  | oneAs decode backend =>
    cases ha
    exact Outcome.failed_map (Outcome.failed_check (failed_one hsent he) _) _
  | finish t backend =>
    cases ha
    refine Outcome.failed_map ?_ _
    cases t with
    | all => exact Outcome.failed_map (failed_all hsent he) _
    | one => exact Outcome.failed_map (failed_one hsent he) _
    | allEntries => exact Outcome.failed_map (Outcome.failed_check (failed_all hsent he) _) _
    | oneEntry => exact Outcome.failed_map (Outcome.failed_check (failed_one hsent he) _) _
    | go => exact Outcome.failed_map (failed_go hsent he) _
    | hasRows => exact Outcome.failed_map (Outcome.failed_map (failed_one hsent he) _) _
    | column name => exact Outcome.failed_map (failed_column hsent he) _
    | pluck key name => exact Outcome.failed_map (failed_pluck hsent he) _
    | count table field => exact Outcome.failed_map (failed_count hsent he) _

/-! ### The attempts that follow -/

/-- The requests of several actions, in order. -/
def requests (b : Builder) : List Action → List Request
  | [] => []
  | a :: as => (b.report a).sent ++ (b.report a).builder.requests as

/-- **A statement that can be sent is sent as often as it is tried**, if what goes wrong goes wrong
in its execution. -/
theorem requests_of_sendable {m : Method} {q : Fragment} (hc : b.clearExecution.compile = .ok q)
    {as : List Action} (has : ∀ a ∈ as, a.method? = some m ∧ a.IsOrdinary) :
    b.requests as = List.replicate as.length ⟨m, q⟩ := by
  induction as generalizing b with
  | nil => rfl
  | cons a as ih =>
    obtain ⟨⟨hmethod, hordinary⟩, hrest⟩ := List.forall_mem_cons.mp has
    have hgate := gated_report (b := b) hmethod
    have hsent := hgate.sent q hc
    have hverb : ∀ v, a ≠ .verb v := by
      rintro v rfl
      cases hmethod
    have hx : ∀ e, (b.report a).builder.error = some e → e.isExecution = true := by
      have hfinishes := finishes_act (b := b) hordinary hverb
      rw [act_eq_report, hsent] at hfinishes
      cases hfinishes with
      | sent _ _ _ hx => exact hx
    rw [requests, hsent, ih (compile_clearExecution_of_draft hc hgate.draft hx) hrest]
    rfl

/-- **A statement with an error that is not one of execution is never sent**, and the error stays.
-/
theorem requests_of_blocked (he : b.error = some e) (hx : e.isExecution = false)
    {as : List Action} (has : ∀ a ∈ as, a.method?.isSome = true) :
    b.requests as = [] ∧ (b.actAll as).error = some e := by
  induction as generalizing b with
  | nil => exact ⟨rfl, he⟩
  | cons a as ih =>
    obtain ⟨hmethod, hrest⟩ := List.forall_mem_cons.mp has
    obtain ⟨m, hm⟩ := Option.isSome_iff_exists.mp hmethod
    obtain ⟨hsent, -, herror⟩ :=
      (gated_report (b := b) hm).refused e (compile_clearExecution_of_blocked he hx)
    obtain ⟨hnone, hkept⟩ := ih herror hrest
    refine ⟨by rw [requests, hsent, hnone, List.nil_append], ?_⟩
    show ((b.act a).1.actAll as).error = some e
    rw [act_eq_report]
    exact hkept

/-- A count that reached the backend selects once more, behind nothing. -/
theorem sent_count_again {table field : String} (hsent : (b.count backend table field).sent = [r])
    (he : backend r = .error e) (backend' : Backend) :
    ∃ sql, r = ⟨.fetchAll, terminated (b.awaiting.sql ++ sql), b.awaiting.params⟩ ∧
      ((b.count backend table field).builder.count backend' table field).sent =
        [⟨.fetchAll, terminated sql, []⟩] := by
  have herror := (failed_count hsent he).error
  generalize hb : (b.count backend table field).builder = b' at herror
  cases htarget : countTarget field with
  | error e' =>
    rw [count, htarget] at hsent
    cases hsent
  | ok target =>
    have hgate : (b.count backend table field).Gated _ .fetchAll := gated_count htarget
    have hagain : (b'.count backend' table field).Gated _ .fetchAll := gated_count htarget
    cases hc : (counterSelection (Table.parse table) target).compile with
    | error e' =>
      rw [(hgate.refused e' (compile_run_select_of_error hc)).1] at hsent
      cases hsent
    | ok selected =>
      obtain ⟨sql, projection⟩ := selected
      rw [hgate.sent _ (compile_run_select hc)] at hsent
      refine ⟨sql, (List.singleton_inj.mp hsent).symm, ?_⟩
      have hlead : b'.awaiting = .empty := awaiting_of_error herror
      rw [hagain.sent _ (compile_run_select hc), hlead, Fragment.empty, String.empty_append]

/-- **A statement that failed is sent again exactly if its failure is an execution error.**  In
every state, whatever error a backend gives to the request of a terminal verb: the verb returns it,
nothing that was fetched is left, and the statement stays.  A verb of the same kind sends the same
request again exactly if the error is one of execution, and then as often as it is tried; and if it
is not then no verb that runs the statement sends anything any more, and the error stays.  A count
selects once more in either case, but not behind the statement that waited for it the first time. -/
theorem resent_iff_isExecution {a : Action} (ha : a.backend? = some backend)
    (hsent : (b.report a).sent = [r]) (he : backend r = .error e) :
    (b.report a).Failed r.query e ∧
      (∀ m, a.method? = some m → r.method = m ∧ (b.report a).builder.draft = b.draft) ∧
      (∀ a' : Action, a'.method? = some r.method →
        (((b.report a).builder.report a').sent = [r] ↔ e.isExecution = true)) ∧
      (e.isExecution = true → ∀ as : List Action,
        (∀ a' ∈ as, a'.method? = some r.method ∧ a'.IsOrdinary) →
          (b.report a).builder.requests as = List.replicate as.length r) ∧
      (e.isExecution = false → ∀ as : List Action, (∀ a' ∈ as, a'.method?.isSome = true) →
        (b.report a).builder.requests as = [] ∧
          ((b.report a).builder.actAll as).error = some e) ∧
      ∀ table field, a = .finish (.count table field) backend → ∀ backend', ∃ sql,
        r = ⟨.fetchAll, terminated (b.awaiting.sql ++ sql), b.awaiting.params⟩ ∧
          ((b.report a).builder.report (.finish (.count table field) backend')).sent =
            [⟨.fetchAll, terminated sql, []⟩] := by
  have hfailed := failed_report ha hsent he
  have hsendable : e.isExecution = true →
      (b.report a).builder.clearExecution.compile = .ok r.query := by
    intro hx
    rw [clearExecution, hfailed.error, Option.any_some, if_pos hx]
    exact hfailed.statement
  refine ⟨hfailed, fun m hm => ?_, fun a' ha' => ?_, fun hx as has => ?_, fun hx as has => ?_, ?_⟩
  · have hgate := gated_report (b := b) hm
    refine ⟨?_, hgate.draft⟩
    cases hc : b.clearExecution.compile with
    | error e' =>
      rw [(hgate.refused e' hc).1] at hsent
      cases hsent
    | ok q =>
      rw [hgate.sent q hc] at hsent
      cases hsent
      rfl
  · have hgate := gated_report (b := (b.report a).builder) ha'
    constructor
    · intro hagain
      cases hx : e.isExecution with
      | true => rfl
      | false =>
        -- an error of another kind would have stopped it
        have hblocked := compile_clearExecution_of_blocked hfailed.error hx
        rw [(hgate.refused e hblocked).1] at hagain
        cases hagain
    · intro hx
      exact hgate.sent _ (hsendable hx)
  · exact requests_of_sendable (hsendable hx) has
  · exact requests_of_blocked hfailed.error hx has
  · rintro table field rfl backend'
    exact sent_count_again hsent he backend'

/-- A DELETE whose backend fails with some error. -/
def failingDelete (e : Error) : Outcome Unit :=
  ((new .sqlite .default).run (.start (.delete (.named "users")))).report
    (.finish .go fun _ => .error e)

/-- The DELETE fails in its execution, and is sent again as it was. -/
theorem resent_iff_isExecution_lockedUsers :
    (failingDelete (.execution "locked")).failure = some (.execution "locked") ∧
      (failingDelete (.execution "locked")).sent = [⟨.execute, "DELETE FROM `users`;", []⟩] ∧
      ((failingDelete (.execution "locked")).builder.report
          (.finish .go fun _ => .ok .empty)).sent = [⟨.execute, "DELETE FROM `users`;", []⟩] := by
  have hsent : (failingDelete (.execution "locked")).sent =
      [⟨.execute, "DELETE FROM `users`;", []⟩] := rfl
  obtain ⟨hfailed, -, hagain, -⟩ := resent_iff_isExecution rfl hsent rfl
  exact ⟨hfailed.failure, hsent, (hagain (.finish .go fun _ => .ok .empty) rfl).mpr rfl⟩

/-- The DELETE fails with an error of another kind, and is not sent again. -/
theorem closedPool_blocks :
    (failingDelete (.custom "pool closed")).sent = [⟨.execute, "DELETE FROM `users`;", []⟩] ∧
      (failingDelete (.custom "pool closed")).failure = some (.custom "pool closed") ∧
      ((failingDelete (.custom "pool closed")).builder.report
          (.finish .go fun _ => .ok .empty)).sent = [] ∧
      ((failingDelete (.custom "pool closed")).builder.report
          (.finish .go fun _ => .ok .empty)).failure = some (.custom "pool closed") :=
  ⟨rfl, rfl, rfl, rfl⟩

end Builder

end FluentSql
