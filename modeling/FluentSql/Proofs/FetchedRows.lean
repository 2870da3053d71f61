import FluentSql.Proofs.LastSelect
import FluentSql.Proofs.Retry

/-!
# The rows that a builder shows

Between two calls of its backend a builder shows the rows of the first one and their number, and it
forgets them together: when the backend fails, when everything is reset, and when another statement
is taken up.  A statement that is refused is not sent and leaves them as they were.  So the last
event of a session says what is shown, however verbs and terminal verbs took turns before it.

## Main definitions

* `Method.rows`, `Method.count` — what a call of the backend returns.
* `Event`, `Builder.events`, `Builder.history` — what touches the rows, and when it happens.
* `Builder.Shows` — the builder shows what an event left.
* `Builder.IsCoherent` — rows, count and results fit each other and the calls that were made.

## Main results

* `Builder.shows_perform`, `Builder.shows_run`, `Builder.shows_act` — what one step leaves.
* `Builder.shows_actAll` — **what is shown is what the last event left.**
* `Builder.coherent_actAll` — **rows and count are those of the last call**, or there are none.
-/

namespace FluentSql

/-! ### The calls of a session -/

/-- The rows that a call of the backend returns. -/
def Method.rows : Method → Reply → List Row
  | .fetchAll, reply => reply.rows
  | .fetchOptional, reply => reply.rows.head?.toList
  | .execute, _ => []

/-- How many rows a call fetched, or changed. -/
def Method.count : Method → Reply → Nat
  | .execute, reply => reply.affected
  | m, reply => (m.rows reply).length

/-- What touches the rows that a builder shows. -/
inductive Event where
  /-- Everything was forgotten, by a reset or for another statement. -/
  | dropped
  /-- The backend was called, and answered. -/
  | called (r : Request) (answer : Except Error Reply)

/-- The rows and the count that an event leaves. -/
def Event.leaves : Event → List Row × Option Nat
  | called r (.ok reply) => (r.method.rows reply, some (r.method.count reply))
  | called _ (.error _) => ([], none)
  | dropped => ([], none)

/-- The verb that an action calls.  To count rows is to select them first. -/
def Action.verb? : Action → Option Verb
  | .verb v => some v
  | a => a.selection?.map fun s => .start (.select s)

/-- The calls of an outcome, with the answers to them. -/
def Outcome.calls {α : Type} (o : Outcome α) (backend : Backend) : List Event :=
  o.sent.map fun r => .called r (backend r)

namespace Builder

/-- A verb drops everything: it is a reset, or it takes up a statement and succeeds. -/
def drops (b : Builder) (v : Verb) : Bool := b.restarts v && !(b.run v).hasError

/-- What a verb does to the rows. -/
def verbEvents (b : Builder) (v : Verb) : List Event := if b.drops v then [.dropped] else []

/-- What an action does to the rows, in order. -/
def events (b : Builder) (a : Action) : List Event :=
  a.verb?.elim [] b.verbEvents ++ a.backend?.elim [] (b.report a).calls

/-- What a session did to the rows, in order. -/
def history (b : Builder) : List Action → List Event
  | [] => []
  | a :: as => b.events a ++ (b.act a).1.history as

theorem history_snoc (b : Builder) (as : List Action) (a : Action) :
    b.history (as ++ [a]) = b.history as ++ (b.actAll as).events a := by
  induction as generalizing b with
  | nil => exact List.append_nil _
  | cons first as ih =>
    rw [List.cons_append, history, history, ih, List.append_assoc]
    rfl

/-- The builder shows what an event left, or nothing if there was none. -/
def Shows (b : Builder) (last : Option Event) : Prop :=
  (b.rows, b.rowCount) = last.elim ([], none) Event.leaves

end Builder

/-! ### One step -/

/-- An outcome leaves what its last call left, or what was there. -/
def Outcome.Updates {α : Type} (o : Outcome α) (b : Builder) (backend : Backend) : Prop :=
  ∀ last, b.Shows last → o.builder.Shows ((o.calls backend).getLast?.or last)

/-- What is made of the result does not matter. -/
theorem Outcome.updates_map {α β : Type} {o : Outcome α} {b : Builder} {backend : Backend}
    (h : o.Updates b backend) (f : α → β) : (o.map f).Updates b backend := h

namespace Builder

variable {α : Type} {b : Builder} {backend : Backend} {last : Option Event}

theorem shows_clearExecution (h : b.Shows last) : b.clearExecution.Shows last := by
  rw [clearExecution]
  split <;> exact h

/-- A statement that is refused leaves the rows as they were. -/
theorem updates_refuse (e : Error) : (b.refuse e : Outcome α).Updates b backend :=
  fun _ h => h

/-- **Running a statement leaves what the call returned**, if that is what is kept of a reply. -/
theorem shows_perform {m : Method} {accept : Builder → Reply → Builder × α}
    (haccept : ∀ b reply, (accept b reply).1.rows = m.rows reply ∧
      (accept b reply).1.rowCount = some (m.count reply)) :
    (b.perform backend m accept).Updates b backend := by
  intro last h
  cases hc : b.clearExecution.compile with
  | error e =>
    rw [perform_of_refused hc]
    exact shows_clearExecution h
  | ok q =>
    unfold Outcome.calls
    cases hreply : backend ⟨m, q⟩ with
    | error e =>
      rw [perform_of_failed hc hreply]
      simp [Shows, Event.leaves, hreply]
    | ok reply =>
      obtain ⟨hrows, hcount⟩ := haccept b.clearExecution reply
      rw [perform_of_reply hc hreply]
      simp [Shows, Event.leaves, hreply, hrows, hcount]

theorem updates_all : (b.all backend).Updates b backend :=
  shows_perform fun _ _ => ⟨rfl, rfl⟩

theorem updates_one : (b.one backend).Updates b backend :=
  shows_perform fun _ _ => ⟨rfl, rfl⟩

theorem updates_go : (b.go backend).Updates b backend :=
  shows_perform fun _ _ => ⟨rfl, rfl⟩

theorem updates_column (backend : Backend) (name : String) :
    (b.column backend name).Updates b backend := by
  rw [column]
  split
  · exact updates_refuse _
  · exact Outcome.updates_map updates_all _

theorem updates_pluck (key name : String) : (b.pluck backend key name).Updates b backend := by
  rw [pluck]
  split
  · exact updates_refuse _
  · exact Outcome.updates_map updates_all _

/-- A verb drops the rows or leaves them. -/
theorem shows_run (v : Verb) (h : b.Shows last) :
    (b.run v).Shows ((b.verbEvents v).getLast?.or last) := by
  have hkept : ∀ {b' : Builder}, b'.rows = b.rows → b'.rowCount = b.rowCount →
      b.drops v = false → b'.Shows ((b.verbEvents v).getLast?.or last) := by
    intro b' hrows hcount hdrops
    unfold Shows verbEvents
    rw [hrows, hcount, hdrops]
    exact h
  have hstep := b.step_run v
  have hdrops : b.drops v = (b.restarts v && !(b.run v).hasError) := rfl
  generalize b.run v = b' at hstep hdrops ⊢
  cases hstep with
  | opened ho hd =>
    have hdropped : b.drops _ = true := hdrops.trans (by rw [restarts_of_opens ho]; rfl)
    rw [verbEvents, if_pos hdropped]
    rfl
  | reset =>
    have hdropped : b.drops .reset = true := hdrops
    rw [verbEvents, if_pos hdropped]
    rfl
  | refused ho he =>
    -- a statement that could not be made leaves its error and the rows
    exact hkept rfl rfl (hdrops.trans (Bool.and_false _))
  | frozen ho hv he => exact hkept rfl rfl (by rw [hdrops, restarts_eq_opens hv, ho]; rfl)
  | edited ho hv hb hd => exact hkept rfl rfl (by rw [hdrops, restarts_eq_opens hv, ho]; rfl)
  | failed ho hv hb he => exact hkept rfl rfl (by rw [hdrops, restarts_eq_opens hv, ho]; rfl)
  | setError message =>
    have hset : (b.setError message).rows = b.rows ∧
        (b.setError message).rowCount = b.rowCount := by
      rw [setError]
      split <;> exact ⟨rfl, rfl⟩
    exact hkept hset.1 hset.2 hdrops

/-- To count is to call a SELECT, and to fetch what it gives. -/
theorem shows_count {table field target : String} (htarget : countTarget field = .ok target)
    (h : b.Shows last) :
    (b.count backend table field).builder.Shows
      (((b.verbEvents (.start (.select (counterSelection (Table.parse table) target)))) ++
        (b.count backend table field).calls backend).getLast?.or last) := by
  have htext : "COUNT(" ++ target ++ ") AS counter" =
      Field.counterCall target ++ " AS counter" := by
    rw [← String.toList_inj]
    simp [Field.counterCall]
  have hrun := shows_run (.start (.select (counterSelection (Table.parse table) target))) h
  have hfetch := updates_column backend "counter" _ hrun
  have hcount : b.count backend table field =
      ((b.run (.start (.select (counterSelection (Table.parse table) target)))).column backend
        "counter").map fun values => (values.head?.bind counter?).getD 0 := by
    simp only [count, htarget, htext]
    rfl
  rw [hcount, List.getLast?_append, Option.or_assoc]
  exact hfetch

/-- A terminal verb other than a count calls no verb. -/
theorem shows_finish {t : Terminal} (h : b.Shows last) :
    (b.act (.finish t backend)).1.Shows ((b.events (.finish t backend)).getLast?.or last) := by
  have hcalls : ∀ {o : Outcome Answer}, b.finish backend t = o → o.Updates b backend →
      (Action.finish t backend).verb? = none →
      (b.act (.finish t backend)).1.Shows ((b.events (.finish t backend)).getLast?.or last) := by
    rintro o rfl hupdates hverb
    rw [events, hverb]
    exact hupdates last h
  cases t with
  | all => exact hcalls rfl updates_all rfl
  | one => exact hcalls rfl updates_one rfl
  | allEntries => exact hcalls rfl updates_all rfl
  | oneEntry => exact hcalls rfl updates_one rfl
  | go => exact hcalls rfl updates_go rfl
  | hasRows => exact hcalls rfl updates_one rfl
  | column name => exact hcalls rfl (updates_column backend name) rfl
  | pluck key name => exact hcalls rfl (updates_pluck key name) rfl
  | count table field =>
    cases htarget : countTarget field with
    | ok target =>
      have hverb : (Action.finish (.count table field) backend).verb? =
          some (.start (.select (counterSelection (Table.parse table) target))) := by
        simp only [Action.verb?, Action.selection?, htarget]
        rfl
      rw [events, hverb]
      exact shows_count htarget h
    | error e =>
      have hverb : (Action.finish (.count table field) backend).verb? = none := by
        simp only [Action.verb?, Action.selection?, htarget]
        rfl
      refine hcalls rfl ?_ hverb
      simp only [finish, count, htarget]
      exact updates_refuse e

/-- **An action leaves what its last event leaves**, or what was there. -/
theorem shows_act (a : Action) (h : b.Shows last) :
    (b.act a).1.Shows ((b.events a).getLast?.or last) := by
  cases a with
  | verb v =>
    have hevents : b.events (.verb v) = b.verbEvents v := List.append_nil _
    rw [hevents]
    exact shows_run v h
  | finish t backend => exact shows_finish h
  | allAs decode backend => exact updates_all last h
  | oneAs decode backend => exact updates_one last h

/-! ### Sessions -/

/-- **What is shown is what the last event of the session left**, and nothing if there was none. -/
theorem shows_actAll (dialect : Dialect) (options : Options) (as : List Action) :
    ((new dialect options).actAll as).Shows ((new dialect options).history as).getLast? := by
  induction as using List.reverseRecOn with
  | nil => rfl
  | append_singleton as a ih =>
    rw [actAll_snoc, history_snoc, List.getLast?_append]
    exact shows_act a ih

/-- The rows, their count and the results of terminal verbs fit each other and the calls that were
made. -/
structure IsCoherent (b : Builder) (history : List Event) : Prop where
  /-- Without a count there are no rows. -/
  rows_of_count_none : b.rowCount = none → b.rows = []
  /-- Rows that are shown are counted, and the last event is the call that returned them: nothing
  was called or dropped since. -/
  latest : b.rows ≠ [] → b.rowCount = some b.rows.length ∧
    ∃ before r reply, history = before ++ [.called r (.ok reply)] ∧ b.rows = r.method.rows reply
  /-- All rows that are returned are shown. -/
  rows_all : ∀ backend rows, (b.all backend).result = .ok rows → (b.all backend).builder.rows = rows
  /-- So is the one row, if there is one. -/
  rows_one : ∀ backend row, (b.one backend).result = .ok row →
    (b.one backend).builder.rows = row.toList
  /-- Nothing is shown after a statement that fetches nothing. -/
  rows_go : ∀ backend n, (b.go backend).result = .ok n → (b.go backend).builder.rows = []

/-- What is shown and what is returned of a call come from the same reply. -/
theorem rows_perform {m : Method} {accept : Builder → Reply → Builder × α} (shown : α → List Row)
    (haccept : ∀ b reply, (accept b reply).1.rows = shown (accept b reply).2) {a : α}
    (h : (b.perform backend m accept).result = .ok a) :
    (b.perform backend m accept).builder.rows = shown a := by
  cases hc : b.clearExecution.compile with
  | error e =>
    rw [perform_of_refused hc] at h
    cases h
  | ok q =>
    cases hreply : backend ⟨m, q⟩ with
    | error e =>
      rw [perform_of_failed hc hreply] at h
      cases h
    | ok reply =>
      rw [perform_of_reply hc hreply] at h ⊢
      cases h
      exact haccept _ _

/-- Rows that a call left are counted. -/
theorem count_of_leaves {event : Event} (h : event.leaves.1 ≠ []) :
    event.leaves.2 = some event.leaves.1.length ∧
      ∃ r reply, event = .called r (.ok reply) ∧ event.leaves.1 = r.method.rows reply := by
  cases event with
  | dropped => exact absurd rfl h
  | called r answer =>
    cases answer with
    | error e => exact absurd rfl h
    | ok reply =>
      refine ⟨?_, r, reply, rfl, rfl⟩
      obtain ⟨m, q⟩ := r
      cases m with
      | execute => exact absurd rfl h
      | fetchAll => rfl
      | fetchOptional => rfl

/-- **Rows and count are those of the last call of the backend**, or there are none: in every state
that any verbs and terminal verbs lead to, whatever the backends answered. -/
theorem coherent_actAll (dialect : Dialect) (options : Options) (as : List Action) :
    ((new dialect options).actAll as).IsCoherent ((new dialect options).history as) := by
  have hshows := shows_actAll dialect options as
  generalize (new dialect options).actAll as = b at hshows
  generalize (new dialect options).history as = events at hshows
  obtain ⟨hrows, hcount⟩ := Prod.mk.inj hshows
  refine ⟨fun hnone => ?_, fun hne => ?_, fun backend rows => ?_, fun backend row => ?_,
    fun backend n => ?_⟩
  · -- rows that an event leaves are counted, so without a count none are left
    cases hlast : events.getLast? with
    | none =>
      rw [hlast] at hrows
      exact hrows
    | some event =>
      rw [hlast] at hrows hcount
      have hleft : event.leaves.2 = none := hcount.symm.trans hnone
      by_contra hne
      rw [hrows] at hne
      obtain ⟨hcounted, -⟩ := count_of_leaves hne
      rw [hleft] at hcounted
      cases hcounted
  · cases hlast : events.getLast? with
    | none =>
      rw [hlast] at hrows
      exact absurd hrows hne
    | some event =>
      rw [hlast] at hrows hcount
      rw [hrows] at hne
      obtain ⟨hcounted, r, reply, rfl, hreply⟩ := count_of_leaves hne
      obtain ⟨before, hbefore⟩ := List.getLast?_eq_some_iff.mp hlast
      refine ⟨?_, before, r, reply, hbefore, hrows.trans hreply⟩
      rw [hrows]
      exact hcount.trans hcounted
  · exact rows_perform (fun rows => rows) fun _ _ => rfl
  · exact rows_perform Option.toList fun _ _ => rfl
  · exact rows_perform (fun _ => []) fun _ _ => rfl

/-- Rows are fetched, then a DELETE without a table is refused, and the rows are asked for again. -/
def refusedDelete : List Action :=
  let backend : Backend := fun _ => .ok ⟨[[("name", .text "Ann")]], 0, none⟩
  [.verb (.select (.named "users") [.star]), .finish .all backend,
    .verb (.start (.delete (.named ""))), .finish .all backend]

/-- The rows that were fetched before are still shown, and counted. -/
theorem coherent_refusedDelete :
    ((new .mysql ⟨true⟩).actAll refusedDelete).hasError = true ∧
      ((new .mysql ⟨true⟩).actAll refusedDelete).rows = [[("name", .text "Ann")]] ∧
      ((new .mysql ⟨true⟩).actAll refusedDelete).rowCount = some 1 := by
  have hrows : ((new .mysql ⟨true⟩).actAll refusedDelete).rows = [[("name", .text "Ann")]] := by
    decide
  refine ⟨by decide, hrows, ?_⟩
  have hcount := ((coherent_actAll .mysql ⟨true⟩ refusedDelete).latest (by rw [hrows]; nofun)).1
  rw [hcount, hrows]
  rfl

end Builder

end FluentSql
