import FluentSql.Proofs.Gate

/-!
# What is kept of the failure of a terminal verb

A terminal verb that fails returns its error and keeps it in the builder, and one that succeeds
leaves none: a blank name, a statement that does not compile and a backend that fails are all found
in the same place.  One failure is returned and not kept: a row that was fetched may not be of the
type that was asked for.

## Main definitions

* `Builder.misread` — the failure to read the rows that were fetched.
* `Outcome.Keeps` — the failure of an outcome is kept, unless it is that one.

## Main results

* `Outcome.keeps_check` — what is made of a result may fail without the builder learning of it.
* `Builder.failure_is_kept` — **every failure is kept but that of reading rows.**
* `Builder.misread_is_lost` — a row without a number, and a builder without an error.
-/

namespace FluentSql

variable {α β : Type}

/-! ### Outcomes -/

namespace Outcome

variable {o : Outcome α}

/-- The builder keeps the error that is returned, and no other, unless the error is the one that
fetched rows gave when they were read. -/
structure Keeps (o : Outcome α) (misread : Option Error) : Prop where
  kept : misread = none → o.builder.error = o.failure
  lost : ∀ e, misread = some e → o.failure = some e ∧ o.builder.error = none

theorem keeps_of_eq (h : o.builder.error = o.failure) : o.Keeps none :=
  ⟨fun _ => h, fun _ he => by cases he⟩

/-- What is made of a result may fail, and the builder does not learn of it. -/
theorem keeps_check {f : α → Except Error β} {r : Option Error}
    (h : o.builder.error = o.failure) (hok : ∀ a, o.result = .ok a → errorOf (f a) = r)
    (herr : ∀ e, o.result = .error e → r = none) : (o.check f).Keeps r := by
  have herror : (o.check f).builder.error = errorOf o.result := h
  have hfailure : (o.check f).failure = errorOf (o.result.bind f) := rfl
  constructor
  · intro hnone
    rw [herror, hfailure]
    cases hr : o.result with
    | error e => rfl
    | ok a =>
      rw [hnone] at hok
      exact (hok a hr).symm
  · intro e hsome
    rw [herror, hfailure]
    cases hr : o.result with
    | error e' =>
      rw [herr e' hr] at hsome
      cases hsome
    | ok a => exact ⟨(hok a hr).trans hsome, rfl⟩

theorem failure_map (o : Outcome α) (f : α → β) : (o.map f).failure = o.failure :=
  errorOf_map o.result f

theorem keeps_map {r : Option Error} (h : o.Keeps r) (f : α → β) : (o.map f).Keeps r := by
  constructor
  · intro hnone
    rw [failure_map]
    exact h.kept hnone
  · intro e he
    rw [failure_map]
    exact h.lost e he

end Outcome

/-! ### Reading rows -/

namespace Builder

variable {b : Builder} {backend : Backend} {decode : Row → Except String α}

/-- Why a row is not of the type that was asked for, if it is not. -/
def misreading (decode : Row → Except String α) (row : Row) : Option Error :=
  match decode row with
  | .ok _ => none
  | .error reason => some (decodingFailed reason)

/-- Why the rows that were fetched are not of the type that was asked for, if they are not. -/
def misreadAll (b : Builder) (backend : Backend) (decode : Row → Except String α) :
    Option Error :=
  match (b.all backend).result with
  | .ok rows => rows.findSome? (misreading decode)
  | .error _ => none

/-- Why the row that was fetched is not of the type that was asked for, if it is not. -/
def misreadOne (b : Builder) (backend : Backend) (decode : Row → Except String α) :
    Option Error :=
  match (b.one backend).result with
  | .ok row => row.bind (misreading decode)
  | .error _ => none

/-- The failure to read what an action fetched. -/
def misread (b : Builder) : Action → Option Error
  | .finish .allEntries backend => b.misreadAll backend Entry.ofRow
  | .finish .oneEntry backend => b.misreadOne backend Entry.ofRow
  | .allAs decode backend => b.misreadAll backend decode
  | .oneAs decode backend => b.misreadOne backend decode
  | _ => none

theorem errorOf_decodeRow (row : Row) : errorOf (decodeRow decode row) = misreading decode row := by
  rw [decodeRow, misreading]
  cases decode row <;> rfl

/-- Reading rows fails as the first row does that is not of the type. -/
theorem errorOf_decodeRows (rows : List Row) :
    errorOf (decodeRows decode rows) = rows.findSome? (misreading decode) := by
  induction rows with
  | nil => rfl
  | cons row rows ih =>
    rw [List.findSome?_cons, ← errorOf_decodeRow, ← ih, decodeRows]
    cases decodeRow decode row with
    | error e => rfl
    | ok a => cases decodeRows decode rows <;> rfl

/-! ### Terminal verbs -/

/-- Running a statement keeps its failure, if what is kept of a reply leaves the error alone. -/
theorem error_perform {m : Method} {accept : Builder → Reply → Builder × α}
    (haccept : ∀ b reply, (accept b reply).1.error = b.error) :
    (b.perform backend m accept).builder.error = (b.perform backend m accept).failure := by
  cases hc : b.clearExecution.compile with
  | error e =>
    rw [perform_of_refused hc]
    rfl
  | ok q =>
    have hnone : b.clearExecution.error = none := (compile_eq_ok_iff.mp hc).1
    cases hreply : backend ⟨m, q⟩ with
    | error e =>
      rw [perform_of_failed hc hreply]
      rfl
    | ok reply =>
      rw [perform_of_reply hc hreply]
      exact (haccept _ reply).trans hnone

theorem error_all : (b.all backend).builder.error = (b.all backend).failure :=
  error_perform fun _ _ => rfl

theorem error_one : (b.one backend).builder.error = (b.one backend).failure :=
  error_perform fun _ _ => rfl

theorem error_go : (b.go backend).builder.error = (b.go backend).failure :=
  error_perform fun _ _ => rfl

theorem keeps_allAs : (b.allAs backend decode).Keeps (b.misreadAll backend decode) := by
  refine Outcome.keeps_check error_all (fun rows hrows => ?_) fun e he => ?_
  · rw [errorOf_decodeRows, misreadAll, hrows]
  · rw [misreadAll, he]

theorem keeps_oneAs : (b.oneAs backend decode).Keeps (b.misreadOne backend decode) := by
  refine Outcome.keeps_check error_one (fun row hrow => ?_) fun e he => ?_
  · rw [misreadOne, hrow]
    cases row with
    | none => rfl
    | some row => exact (errorOf_map _ _).trans (errorOf_decodeRow row)
  · rw [misreadOne, he]

theorem keeps_column (name : String) : (b.column backend name).Keeps none := by
  rw [column]
  split
  · exact Outcome.keeps_of_eq rfl
  · exact Outcome.keeps_map (Outcome.keeps_of_eq error_all) _

theorem keeps_pluck (key name : String) : (b.pluck backend key name).Keeps none := by
  rw [pluck]
  split
  · exact Outcome.keeps_of_eq rfl
  · exact Outcome.keeps_map (Outcome.keeps_of_eq error_all) _

/-- The statement that counts may be refused as well as run; its failure is kept in either case. -/
theorem keeps_count (table field : String) : (b.count backend table field).Keeps none := by
  rw [count]
  cases countTarget field with
  | error e => exact Outcome.keeps_of_eq rfl
  | ok target => exact Outcome.keeps_map (keeps_column _) _

theorem keeps_finish (t : Terminal) :
    (b.finish backend t).Keeps (b.misread (.finish t backend)) := by
  cases t with
  | all => exact Outcome.keeps_map (Outcome.keeps_of_eq error_all) _
  | one => exact Outcome.keeps_map (Outcome.keeps_of_eq error_one) _
  | allEntries => exact Outcome.keeps_map keeps_allAs _
  | oneEntry => exact Outcome.keeps_map keeps_oneAs _
  | go => exact Outcome.keeps_map (Outcome.keeps_of_eq error_go) _
  | column name => exact Outcome.keeps_map (keeps_column name) _
  | pluck key name => exact Outcome.keeps_map (keeps_pluck key name) _
  | hasRows => exact Outcome.keeps_map (Outcome.keeps_map (Outcome.keeps_of_eq error_one) _) _
  | count table field => exact Outcome.keeps_map (keeps_count table field) _

/-- **Every failure of a terminal verb is kept but that of reading rows.**  In every state and with
any backend: if the rows that were fetched can be read, or none are to be read, then the builder has
the error that is returned, and none if none is.  If they cannot be read then that is the error that
is returned, and the builder has none. -/
theorem failure_is_kept {a : Action} (ha : ∀ v, a ≠ .verb v) :
    (b.misread a = none → (b.report a).builder.error = (b.report a).failure) ∧
      ∀ e, b.misread a = some e →
        (b.report a).failure = some e ∧ (b.report a).builder.error = none := by
  have hkeeps : (b.report a).Keeps (b.misread a) := by
    cases a with
    | verb v => exact absurd rfl (ha v)
    | finish t backend => exact Outcome.keeps_map (keeps_finish t) _
    | allAs decode backend => exact Outcome.keeps_map keeps_allAs _
    | oneAs decode backend => exact Outcome.keeps_map keeps_oneAs _
  exact ⟨hkeeps.kept, hkeeps.lost⟩

/-- A DELETE without a table, which is run nevertheless. -/
def emptyDelete : Builder × Action :=
  ((new .sqlite .default).run (.start (.delete (.named ""))), .finish .go fun _ => .ok .empty)

/-- A row of a name is fetched as a row of a number and a name. -/
def lonelyName : Builder × Action :=
  ((new .sqlite .default).run (.select (.named "users") [.star]),
    .finish .allEntries fun _ => .ok { Reply.empty with rows := [[("name", .text "Ann")]] })

/-- The refusal of the first is kept, and the failure of the second is not. -/
theorem failure_is_kept_emptyDelete :
    emptyDelete.1.misread emptyDelete.2 = none ∧
      (emptyDelete.1.report emptyDelete.2).builder.error =
        some (.emptyInput "table" "QueryBuilder::delete") ∧
      lonelyName.1.misread lonelyName.2 =
        some (.execution "row decoding failed: missing column id") ∧
      (lonelyName.1.report lonelyName.2).builder.error = none :=
  ⟨rfl, (failure_is_kept fun _ h => by cases h).1 rfl, rfl,
    ((failure_is_kept fun _ h => by cases h).2 _ rfl).2⟩

/-- The row has no number: that is returned, and the builder has no error. -/
theorem misread_is_lost :
    (lonelyName.1.report lonelyName.2).failure =
        some (.execution "row decoding failed: missing column id") ∧
      (lonelyName.1.report lonelyName.2).builder.error = none ∧
      (lonelyName.1.report lonelyName.2).sent = [⟨.fetchAll, "SELECT * FROM `users`;", []⟩] :=
  ⟨rfl, rfl, rfl⟩

end Builder

end FluentSql
