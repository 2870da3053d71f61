import FluentSql.Proofs.Atomicity
import FluentSql.Proofs.Refusal
import FluentSql.Terminal

/-!
# Sessions with a builder

A session is a list of actions on one builder: verbs, and terminal verbs whose backends answer in
some way.  Beside the builder a journal is kept of the verbs since the last one that took up a new
statement, whether or not they took effect.

## Main definitions

* `Action`, `Builder.act` — what may be done with a builder, and what comes of it.
* `Builder.Finishes` — what a terminal verb can do.
* `Journal`, `Journal.note`, `Journal.taken` — the verbs that were called, and those that were not
  missed.
* `Builder.sentFrom` — the requests of a session, each with the journal at its time.

## Main results

* `Builder.finishes_act` — **a terminal verb does nothing else** than what is described.
-/

namespace FluentSql

/-- What may be done with a builder. -/
inductive Action : Type 1 where
  | verb (v : Verb)
  | finish (t : Terminal) (backend : Backend)
  /-- Fetch all rows as some type. -/
  | allAs {α : Type} (decode : Row → Except String α) (backend : Backend)
  /-- Fetch the first row as some type. -/
  | oneAs {α : Type} (decode : Row → Except String α) (backend : Backend)

/-- The errors of a backend are execution errors. -/
def FailsInExecution (backend : Backend) : Prop :=
  ∀ r e, backend r = .error e → e.isExecution = true

/-- The action neither sets the error nor starts a statement of its own to count rows, and its
backend fails with execution errors only. -/
def Action.IsOrdinary : Action → Prop
  | .verb (.setError _) => False
  | .verb _ => True
  | .finish (.count ..) _ => False
  | .finish _ backend | .allAs _ backend | .oneAs _ backend => FailsInExecution backend

/-- The builder after an action, and the requests that were sent. -/
def Builder.act (b : Builder) : Action → Builder × List Request
  | .verb v => (b.run v, [])
  | .finish t backend => ((b.finish backend t).builder, (b.finish backend t).sent)
  | .allAs decode backend => ((b.allAs backend decode).builder, (b.allAs backend decode).sent)
  | .oneAs decode backend => ((b.oneAs backend decode).builder, (b.oneAs backend decode).sent)

/-! ### What a terminal verb does -/

namespace Builder

/-- What a terminal verb can do to a builder, and what it sends. -/
inductive Finishes (b : Builder) : Builder → List Request → Prop where
  /-- Nothing was sent, and an error is kept that stays until a new statement is taken up. -/
  | refused {b' : Builder} {e : Error} (hdialect : b'.dialect = b.dialect)
    (he : b'.error = some e) (hx : e.isExecution = false) : Finishes b b' []
  /-- The statement was sent and is kept; if there is an error then it is one of execution. -/
  | sent {b' : Builder} {r : Request} (hdialect : b'.dialect = b.dialect)
    (hd : b'.draft = b.draft) (hc : b.clearExecution.compile = .ok r.query)
    (hx : ∀ e, b'.error = some e → e.isExecution = true) : Finishes b b' [r]

variable {b : Builder} {backend : Backend}

@[simp] theorem draft_clearExecution (b : Builder) : b.clearExecution.draft = b.draft := by
  rw [clearExecution]
  split <;> rfl

@[simp] theorem dialect_clearExecution (b : Builder) : b.clearExecution.dialect = b.dialect := by
  rw [clearExecution]
  split <;> rfl

/-- An error that is still there is no execution error. -/
theorem isExecution_clearExecution {e : Error} (h : b.clearExecution.error = some e) :
    b.error = some e ∧ e.isExecution = false := by
  rw [clearExecution] at h
  split at h
  · cases h
  · rename_i hany
    rw [h, Option.any_some] at hany
    exact ⟨h, Bool.of_not_eq_true hany⟩

/-! ### Running a statement -/

section Perform

variable {α : Type} {method : Method} {accept : Builder → Reply → Builder × α}

/-- A statement that does not compile is not sent, and the reason is kept. -/
theorem perform_of_refused {e : Error} (hc : b.clearExecution.compile = .error e) :
    b.perform backend method accept = b.clearExecution.refuse e := by
  simp only [perform, hc]

/-- A failure of the backend is kept, and clears what was fetched before. -/
theorem perform_of_failed {q : Fragment} {e : Error} (hc : b.clearExecution.compile = .ok q)
    (hreply : backend ⟨method, q⟩ = .error e) :
    b.perform backend method accept =
      ⟨{ b.clearExecution with rows := [], rowCount := none, error := some e }, [⟨method, q⟩],
        .error e⟩ := by
  simp only [perform, hc, hreply]

/-- A reply is taken up by the builder without the execution error. -/
theorem perform_of_reply {q : Fragment} {reply : Reply} (hc : b.clearExecution.compile = .ok q)
    (hreply : backend ⟨method, q⟩ = .ok reply) :
    b.perform backend method accept =
      ⟨(accept b.clearExecution reply).1, [⟨method, q⟩],
        .ok (accept b.clearExecution reply).2⟩ := by
  simp only [perform, hc, hreply]

/-- A statement that does not compile gives no execution error, since one that was kept has been
dropped. -/
theorem isExecution_of_refused {e : Error} (h : b.clearExecution.compile = .error e) :
    e.isExecution = false :=
  unsent_compile (fun _ he => (isExecution_clearExecution he).2) e h

/-- Running a statement finishes as described, whatever is kept of the reply. -/
theorem finishes_perform (hb : FailsInExecution backend)
    (haccept : ∀ b reply, (accept b reply).1.dialect = b.dialect ∧
      (accept b reply).1.draft = b.draft ∧ (accept b reply).1.error = b.error) :
    b.Finishes (b.perform backend method accept).builder
      (b.perform backend method accept).sent := by
  cases hc : b.clearExecution.compile with
  | error e =>
    rw [perform_of_refused hc]
    exact .refused b.dialect_clearExecution rfl (isExecution_of_refused hc)
  | ok query =>
    have hsent : b.clearExecution.compile = .ok (Request.mk method query).query := hc
    cases hreply : backend ⟨method, query⟩ with
    | error e =>
      rw [perform_of_failed hc hreply]
      refine .sent b.dialect_clearExecution b.draft_clearExecution hsent fun e' he' => ?_
      cases he'
      exact hb _ _ hreply
    | ok reply =>
      rw [perform_of_reply hc hreply]
      obtain ⟨hdialect, hdraft, herror⟩ := haccept b.clearExecution reply
      refine .sent (hdialect.trans b.dialect_clearExecution)
        (hdraft.trans b.draft_clearExecution) hsent fun e he => ?_
      rw [herror, (compile_eq_ok_iff.mp hc).1] at he
      cases he

end Perform

theorem finishes_all (hb : FailsInExecution backend) :
    b.Finishes (b.all backend).builder (b.all backend).sent :=
  finishes_perform hb fun _ _ => ⟨rfl, rfl, rfl⟩

theorem finishes_one (hb : FailsInExecution backend) :
    b.Finishes (b.one backend).builder (b.one backend).sent :=
  finishes_perform hb fun _ _ => ⟨rfl, rfl, rfl⟩

theorem finishes_go (hb : FailsInExecution backend) :
    b.Finishes (b.go backend).builder (b.go backend).sent :=
  finishes_perform hb fun _ _ => ⟨rfl, rfl, rfl⟩

/-- **A terminal verb does nothing else** than what is described. -/
theorem finishes_act {a : Action} (ha : a.IsOrdinary) (hv : ∀ v, a ≠ .verb v) :
    b.Finishes (b.act a).1 (b.act a).2 := by
  cases a with
  | verb v => exact absurd rfl (hv v)
  | allAs decode backend => exact finishes_all ha
  | oneAs decode backend => exact finishes_one ha
  | finish t backend =>
    cases t with
    | all => exact finishes_all ha
    | one => exact finishes_one ha
    | allEntries => exact finishes_all ha
    | oneEntry => exact finishes_one ha
    | go => exact finishes_go ha
    | hasRows => exact finishes_one ha
    | count table field => exact absurd ha id
    | column name =>
      rw [act, finish, column]
      -- a blank name is refused before the statement is looked at
      split
      · exact .refused rfl rfl rfl
      · exact finishes_all ha
    | pluck key column =>
      rw [act, finish, pluck]
      split
      · exact .refused rfl rfl rfl
      · exact finishes_all ha

end Builder

/-! ### The journal -/

/-- Whether a verb forgets everything. -/
def Verb.isReset : Verb → Bool
  | reset => true
  | _ => false

theorem Verb.isReset_of_handlesError {v : Verb} (h : v.handlesError = false) :
    v.isReset = false := by
  cases v with
  | reset => cases h
  | _ => rfl

/-- A verb that was called. -/
structure Noted where
  verb : Verb
  /-- Whether an execution error is kept after it, so that it has had no effect on a statement that
  may still be sent. -/
  missed : Bool

/-- The verbs that were called since a statement was taken up, the one that took it up included. -/
abbrev Journal := List Noted

namespace Journal

/-- The journal after one more verb. -/
def note (j : Journal) (b : Builder) (v : Verb) : Journal :=
  if v.isReset then []
  else if b.opens v && !(b.run v).hasError then [⟨v, false⟩]
  else j ++ [⟨v, (b.run v).error.any Error.isExecution⟩]

/-- The journal after an action. -/
def follow (j : Journal) (b : Builder) : Action → Journal
  | .verb v => j.note b v
  | _ => j

/-- All verbs of the journal. -/
def called (j : Journal) : List Verb := j.map Noted.verb

/-- The verbs of the journal that were not missed. -/
def taken (j : Journal) : List Verb := (j.filter fun n => !n.missed).map Noted.verb

theorem taken_snoc_missed (j : Journal) (v : Verb) : taken (j ++ [⟨v, true⟩]) = j.taken := by
  simp [taken]

theorem taken_snoc (j : Journal) (v : Verb) : taken (j ++ [⟨v, false⟩]) = j.taken ++ [v] := by
  simp [taken]

/-- If no verb was missed then all of them were taken. -/
theorem taken_eq_called {j : Journal} (h : ∀ n ∈ j, n.missed = false) : j.taken = j.called := by
  rw [taken, called, List.filter_eq_self.mpr]
  intro n hn
  rw [h n hn]
  rfl

/-- A verb that takes up a new statement begins the journal. -/
theorem note_of_opens {j : Journal} {b : Builder} {v : Verb} (ho : b.opens v = true)
    (he : (b.run v).error = none) : j.note b v = [⟨v, false⟩] := by
  have hreset : v.isReset = false := by
    cases v with
    | reset => cases ho
    | _ => rfl
  rw [note, hreset, ho, Builder.hasError, he]
  rfl

/-- A verb that does not restart is added at the end. -/
theorem note_eq_snoc {j : Journal} {b : Builder} {v : Verb} (ho : b.opens v = false)
    (hv : v.handlesError = false) :
    j.note b v = j ++ [⟨v, (b.run v).error.any Error.isExecution⟩] := by
  rw [note, Verb.isReset_of_handlesError hv, ho]
  rfl

end Journal

/-- The requests of a session that goes on from a builder, each with the journal at its time. -/
def Builder.sentFrom (b : Builder) (j : Journal) : List Action → List (Request × Journal)
  | [] => []
  | a :: as => (b.act a).2.map (·, j) ++ (b.act a).1.sentFrom (j.follow b a) as

end FluentSql
