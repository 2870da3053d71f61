import FluentSql.Proofs.Session

/-!
# What is sent is what was called

Whenever a terminal verb sends a statement, the same statement is made by a new builder on which the
journal is replayed.  There is one gap: while an execution error is kept, a verb that extends the
statement does nothing, but the error does not keep the statement from being sent again.  So what is
replayed are the verbs that were not missed, and all of them only if none was.

## Main definitions

* `Builder.Simulates` — a builder on which the journal was replayed, beside the one in use.

## Main results

* `Journal.simulates_note`, `Builder.simulates_act` — verbs and terminal verbs preserve the
  simulation.
* `Builder.sent_eq_replay` — **what is sent is the replay of the verbs that were not missed.**
* `Builder.condition_is_lost` — a condition that is missed, and a DELETE sent without it.
-/

namespace FluentSql

namespace Builder

/-- Nothing is sent before a new statement is taken up, because of an error that is not one of
execution. -/
def IsBlocked (b : Builder) : Prop := ∃ e, b.error = some e ∧ e.isExecution = false

/-- A builder without error stands for one that may send the same statement, now or, if an execution
error is kept, once more. -/
structure StandsFor (r b : Builder) : Prop where
  error : r.error = none
  draft : r.draft = b.draft
  retry : ∀ e, b.error = some e → e.isExecution = true ∧ b.draft.needsSection = false

/-- A builder on which the journal was replayed, beside the one in use. -/
structure Simulates (r b : Builder) : Prop where
  dialect : r.dialect = b.dialect
  state : b.IsBlocked ∨ r.StandsFor b

variable {r b : Builder} {v : Verb}

theorem simulates_of_blocked (hd : r.dialect = b.dialect) (h : b.IsBlocked) : r.Simulates b :=
  ⟨hd, Or.inl h⟩

/-- A builder without error whose draft is the same stands for one without error. -/
theorem standsFor_of_error_eq_none (hr : r.error = none) (hd : r.draft = b.draft)
    (hb : b.error = none) : r.StandsFor b := by
  refine ⟨hr, hd, fun e he => ?_⟩
  rw [hb] at he
  cases he

/-- Of a builder that is not blocked the other one has the draft. -/
theorem standsFor_of_error (h : r.Simulates b) (hb : ∀ e, b.error = some e → e.isExecution = true) :
    r.StandsFor b := by
  rcases h.state with ⟨e, he, hx⟩ | hstands
  · rw [hb e he] at hx
    cases hx
  · exact hstands

/-- An opening that succeeds does the same to a new builder. -/
theorem simulates_opened {dialect : Dialect} {options : Options} {opening : Opening} {d : Draft}
    (hb : b.dialect = dialect) (hd : opening.draft = .ok d) :
    ((new dialect options).run (.start opening)).Simulates { b.reset with draft := d } := by
  have ho : (new dialect options).opens (.start opening) = true := by
    cases opening <;> rfl
  rw [run_of_opens ho, hd]
  exact ⟨hb.symm, Or.inr (standsFor_of_error_eq_none rfl rfl rfl)⟩

/-- A change that succeeds does the same to the builder of the replay. -/
theorem simulates_edited {d : Draft} (h : r.Simulates b) (ho : b.opens v = false)
    (hv : v.handlesError = false) (hb : b.error = none)
    (hd : v.edit b.dialect b.draft = .ok () d) :
    (r.run v).Simulates { b with draft := d } := by
  have hstands := standsFor_of_error h fun e he => (by rw [hb] at he; cases he)
  have hopens : r.opens v = false := by
    cases v with
    | start opening =>
      cases opening with
      | select s =>
        rw [opens, hasError, hstands.error, hstands.draft]
        rwa [opens, hasError, hb] at ho
      | _ => cases ho
    | _ => rfl
  rw [← h.dialect, ← hstands.draft] at hd
  rw [run_of_not_opens hopens hv, extend_of_ok hstands.error hd]
  exact ⟨h.dialect, Or.inr (standsFor_of_error_eq_none hstands.error rfl hb)⟩

/-- A change that fails blocks the builder, or it is missed: then no set operator waits. -/
theorem simulates_failed {e : Error} (h : r.Simulates b) (hb : b.error = none)
    (he : v.edit b.dialect b.draft = .error e b.draft) (hx : e.isExecution = true) :
    r.Simulates (b.record e) := by
  have hstands := standsFor_of_error h fun e he => (by rw [hb] at he; cases he)
  refine ⟨h.dialect, Or.inr ⟨hstands.error, hstands.draft, fun e' he' => ?_⟩⟩
  cases he'
  refine ⟨hx, Bool.of_not_eq_true fun hpending => ?_⟩
  rw [v.unsent_edit b.dialect hpending he] at hx
  cases hx

end Builder

namespace Journal

open Builder

variable {dialect : Dialect} {options : Options} {j : Journal} {b : Builder}

/-- The builder on which a journal was replayed. -/
def replay (dialect : Dialect) (options : Options) (j : Journal) : Builder :=
  (Builder.new dialect options).runAll j.taken

theorem replay_snoc_missed (v : Verb) :
    replay dialect options (j ++ [⟨v, true⟩]) = replay dialect options j := by
  rw [replay, taken_snoc_missed, replay]

theorem replay_snoc (v : Verb) :
    replay dialect options (j ++ [⟨v, false⟩]) = (replay dialect options j).run v := by
  rw [replay, taken_snoc, runAll, List.foldl_append, replay]
  rfl

theorem dialect_replay : (replay dialect options j).dialect = dialect :=
  dialect_runAll _ j.taken

/-- **A verb preserves the simulation.** -/
theorem simulates_note (h : (replay dialect options j).Simulates b) {v : Verb}
    (hv : ∀ message, v ≠ .setError message) :
    (replay dialect options (j.note b v)).Simulates (b.run v) := by
  have hdialect : dialect = b.dialect := dialect_replay.symm.trans h.dialect
  have hblocked : ∀ {j' : Journal} {e : Error}, e.isExecution = false →
      (replay dialect options j').Simulates (b.record e) := fun hx =>
    simulates_of_blocked (dialect_replay.trans hdialect) ⟨_, rfl, hx⟩
  have hstep := b.step_run v
  generalize hb' : b.run v = b' at hstep
  cases hstep with
  | setError message => exact absurd rfl (hv message)
  | reset =>
    exact ⟨hdialect, Or.inr (standsFor_of_error_eq_none rfl rfl rfl)⟩
  | opened ho hd =>
    rw [note_of_opens ho (by rw [hb']; rfl)]
    exact simulates_opened hdialect.symm hd
  | refused ho he =>
    -- whatever error was kept before, the new one is not one of execution
    exact hblocked (Opening.unsent_draft _ _ he)
  | edited ho hh hb hd =>
    -- there was no error, so the replay does the same
    have hnone : (b.run v).error = none := by
      rw [hb']
      exact hb
    rw [note_eq_snoc ho hh, hnone, Option.any_none, replay_snoc]
    exact simulates_edited h ho hh hb hd
  | failed ho hh hb he =>
    rename_i e
    cases hx : e.isExecution with
    | false => exact hblocked hx
    | true =>
      -- a condition brought an execution error along; the verb counts as missed
      rw [note_eq_snoc ho hh, hb', error_record, Option.any_some, hx, replay_snoc_missed]
      exact simulates_failed h hb he hx
  | frozen ho hh he =>
    rename_i e
    cases hx : e.isExecution with
    | false =>
      exact simulates_of_blocked (dialect_replay.trans hdialect) ⟨e, he, hx⟩
    | true =>
      -- the verb was missed: neither builder has changed
      rw [note_eq_snoc ho hh, hb', he, Option.any_some, hx, replay_snoc_missed]
      exact h

end Journal

namespace Builder

variable {dialect : Dialect} {options : Options} {r b b' : Builder} {j : Journal}

/-- A statement that is sent is that of the builder of the replay. -/
theorem compile_of_simulates {q : Fragment} (h : r.Simulates b)
    (hc : b.clearExecution.compile = .ok q) : r.StandsFor b ∧ r.compile = .ok q := by
  obtain ⟨herror, hempty, hpending, hq⟩ := compile_eq_ok_iff.mp hc
  have hstands : r.StandsFor b := by
    refine standsFor_of_error h fun e he => ?_
    rw [clearExecution, he] at herror
    by_cases hx : e.isExecution = true
    · exact hx
    · rw [Option.any_some, if_neg hx, he] at herror
      cases herror
  have hdraft : r.draft = b.clearExecution.draft := by
    rw [hstands.draft, draft_clearExecution]
  refine ⟨hstands, compile_eq_ok_iff.mpr ⟨hstands.error, ?_, ?_, ?_⟩⟩
  · rw [statement, hdraft]
    exact hempty
  · rw [hdraft]
    exact hpending
  · rw [text, params, statement, hdraft]
    exact hq

/-- **A terminal verb preserves the simulation**, and sends what the replay gives. -/
theorem simulates_finishes {sent : List Request} (h : r.Simulates b)
    (hf : b.Finishes b' sent) :
    r.Simulates b' ∧ ∀ request ∈ sent, r.compile = .ok request.query := by
  cases hf with
  | refused hdialect he hx =>
    exact ⟨simulates_of_blocked (h.dialect.trans hdialect.symm) ⟨_, he, hx⟩,
      fun _ hm => by cases hm⟩
  | sent hdialect hd hc hx =>
    -- a statement that compiles has no set operator waiting, which a retry relies on
    obtain ⟨hstands, hcompile⟩ := compile_of_simulates h hc
    obtain ⟨-, -, hpending, -⟩ := compile_eq_ok_iff.mp hc
    rw [draft_clearExecution, ← hd] at hpending
    refine ⟨⟨h.dialect.trans hdialect.symm, Or.inr ⟨hstands.error, ?_, fun e he => ?_⟩⟩,
      fun request hm => ?_⟩
    · rw [hstands.draft, hd]
    · exact ⟨hx e he, hpending⟩
    · rw [List.mem_singleton.mp hm]
      exact hcompile

/-- An action preserves the simulation, and sends what the replay gives. -/
theorem simulates_act (h : (j.replay dialect options).Simulates b) {a : Action}
    (ha : a.IsOrdinary) :
    ((j.follow b a).replay dialect options).Simulates (b.act a).1 ∧
      ∀ request ∈ (b.act a).2, (j.replay dialect options).compile = .ok request.query := by
  cases a with
  | verb v =>
    refine ⟨Journal.simulates_note h fun message hv => ?_, fun _ hm => by cases hm⟩
    rw [hv] at ha
    exact ha
  | finish t backend => exact simulates_finishes h (finishes_act ha fun v hv => by cases hv)
  | allAs decode backend => exact simulates_finishes h (finishes_act ha fun v hv => by cases hv)
  | oneAs decode backend => exact simulates_finishes h (finishes_act ha fun v hv => by cases hv)

/-- Every request of a session is the statement of the replay at its time. -/
theorem compile_replay_of_sent (h : (j.replay dialect options).Simulates b) {as : List Action}
    (has : ∀ a ∈ as, a.IsOrdinary) {p : Request × Journal} (hp : p ∈ b.sentFrom j as) :
    (p.2.replay dialect options).compile = .ok p.1.query := by
  induction as generalizing b j with
  | nil => cases hp
  | cons a as ih =>
    obtain ⟨hnext, hsent⟩ := simulates_act h (has a List.mem_cons_self)
    rw [sentFrom, List.mem_append] at hp
    rcases hp with hnow | hlater
    · obtain ⟨request, hm, rfl⟩ := List.mem_map.mp hnow
      exact hsent request hm
    · exact ih hnext (fun a' ha' => has a' (List.mem_cons_of_mem a ha')) hlater

/-- **What is sent is the replay of the verbs that were not missed.**  Whatever verbs are called on
a new builder, in any order with terminal verbs and whatever their backends answer: a request that
is sent is the statement of a new builder on which the verbs since the last opening are replayed,
without those that were called while an execution error was kept.  If there are none of these then
it is the statement of all verbs. -/
theorem sent_eq_replay (dialect : Dialect) (options options' : Options) {as : List Action}
    (has : ∀ a ∈ as, a.IsOrdinary) {request : Request} {j : Journal}
    (hp : (request, j) ∈ (new dialect options).sentFrom [] as) :
    ((new dialect options').runAll j.taken).compile = .ok request.query ∧
      ((∀ n ∈ j, n.missed = false) →
        ((new dialect options').runAll j.called).compile = .ok request.query) := by
  have hnew : (Journal.replay dialect options' []).Simulates (new dialect options) :=
    ⟨rfl, Or.inr (standsFor_of_error_eq_none rfl rfl rfl)⟩
  have h := compile_replay_of_sent hnew has hp
  refine ⟨h, fun hnone => ?_⟩
  rw [← Journal.taken_eq_called hnone]
  exact h

/-- A DELETE that fails, a condition for it, and the DELETE once more. -/
def lateCondition : List Action :=
  [.verb (.start (.delete (.named "users"))),
    .finish .go fun _ => .error (.execution "locked"),
    .verb (.filter ⟨[.condition (.compare (.column "id") .equal (.value (.int32 1)))], none⟩),
    .finish .go fun _ => .ok .empty]

theorem isOrdinary_lateCondition : ∀ a ∈ lateCondition, a.IsOrdinary := by
  have hfail : FailsInExecution fun _ => .error (.execution "locked") := by
    intro r e h
    cases h
    rfl
  have hreply : FailsInExecution fun _ => .ok .empty := by
    intro r e h
    cases h
  simp only [lateCondition, List.forall_mem_cons, List.not_mem_nil, false_implies, implies_true]
  exact ⟨trivial, hfail, trivial, hreply, trivial⟩

/-- The second request of the session. -/
def lateRequest : Request × Journal :=
  (⟨.execute, "DELETE FROM `users`;", []⟩,
    [⟨.start (.delete (.named "users")), false⟩,
      ⟨.filter ⟨[.condition (.compare (.column "id") .equal (.value (.int32 1)))], none⟩, true⟩])

theorem mem_lateRequest : lateRequest ∈ (new .sqlite .default).sentFrom [] lateCondition :=
  List.mem_of_getElem? (i := 1) rfl

/-- The DELETE is sent again without its condition, as the statement of the verbs that were not
missed. -/
theorem sent_eq_replay_lateCondition :
    ((new .sqlite .default).runAll lateRequest.2.taken).compile = .ok lateRequest.1.query :=
  (sent_eq_replay .sqlite .default .default isOrdinary_lateCondition mem_lateRequest).1

/-- It is not the statement of all verbs that were called: the condition is lost. -/
theorem condition_is_lost :
    (∀ a ∈ lateCondition, a.IsOrdinary) ∧
      lateRequest ∈ (new .sqlite .default).sentFrom [] lateCondition ∧
      ((new .sqlite .default).runAll lateRequest.2.called).compile =
        .ok ⟨"DELETE FROM `users` WHERE (`id` = ?);", [.int32 1]⟩ ∧
      lateRequest.1.query = ⟨"DELETE FROM `users`;", []⟩ :=
  ⟨isOrdinary_lateCondition, mem_lateRequest, rfl, rfl⟩

end Builder

end FluentSql
