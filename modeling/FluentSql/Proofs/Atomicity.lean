import FluentSql.Proofs.Transition

/-!
# Errors freeze the builder, and verbs fail as a whole

While an error is kept, a verb that starts no statement does nothing at all.  A verb that fails,
wherever in its checks or in the writing of its text it does, leaves nothing behind but its error:
no section, no half of a clause, no parameter without a placeholder.

## Main results

* `Builder.run_of_error` — a kept error stops a verb.
* `Builder.run_eq_record` — a verb that leaves an error has changed nothing else.
* `Builder.run_frozen_and_atomic` — **both, for every verb and in every state.**
* `Builder.runAll_of_error` — a kept error stops any number of verbs.
-/

namespace FluentSql

namespace Builder

/-- While an error is kept, a verb that starts no statement does nothing. -/
theorem run_of_error {b : Builder} {v : Verb} {e : Error} (hv : v.handlesError = false)
    (he : b.error = some e) (hs : v.isStarting = false) : b.run v = b := by
  have ho : b.opens v = false := by rw [opens_of_error he, hs]
  rw [run_of_not_opens ho hv, extend_of_error he]

/-- After a verb that leaves an error nothing but the error is new. -/
theorem run_eq_record {b : Builder} {v : Verb} {e : Error} (hv : v.handlesError = false)
    (he : (b.run v).error = some e) : b.run v = b.record e := by
  have hstep := b.step_run v
  generalize b.run v = b' at hstep he ⊢
  cases hstep with
  | opened ho hd => cases he
  | edited ho hv hb hd => rw [hb] at he; cases he
  | setError message => cases hv
  | reset => cases hv
  | refused ho he' =>
    cases he
    rfl
  | failed ho hv hb he' =>
    cases he
    rfl
  | frozen ho hv he' =>
    -- the error is the old one
    rw [record, ← he]

/-- **Errors freeze the builder, and verbs fail as a whole.**  In every state, a verb other than
those that are about the error does nothing if it starts no statement and there is an error; and if
it leaves an error, that error is all that it has changed. -/
theorem run_frozen_and_atomic (b : Builder) (v : Verb) (hv : v.handlesError = false) :
    (b.hasError = true → v.isStarting = false → b.run v = b) ∧
      ∀ e, (b.run v).error = some e → b.run v = { b with error := some e } := by
  refine ⟨fun hb hs => ?_, fun e he => run_eq_record hv he⟩
  obtain ⟨e, he⟩ := Option.isSome_iff_exists.mp hb
  exact run_of_error hv he hs

/-- The users of age, waiting to be united with others. -/
def waitingAdults : Builder :=
  (new .sqlite .default).runAll [.select (.named "users") [.column "id"],
    .filter (.ofCondition (.ok (.compare (.column "age") .greater (.value (.int32 17))))),
    .combine (.union false)]

/-- There is a section with a value, and a UNION that waits.  Neither a DELETE without a table nor a
limit, which comes too soon, changes any of that; and after the limit no set operator does. -/
theorem run_frozen_and_atomic_waitingAdults :
    waitingAdults.statement =
        ⟨.select, [⟨none, "SELECT `id` FROM `users` WHERE (`age` > ?)"⟩], some .union, none,
          [.int32 17]⟩ ∧
      waitingAdults.run (.start (.delete (.named " "))) =
        { waitingAdults with error := some (.emptyInput "table" "QueryBuilder::delete") } ∧
      waitingAdults.run (.limit 1) =
        { waitingAdults with error := some (.missingSelect "QueryBuilder::limit") } ∧
      (waitingAdults.run (.limit 1)).run (.combine .intersect) = waitingAdults.run (.limit 1) :=
  ⟨by decide +kernel, (run_frozen_and_atomic _ _ rfl).2 _ (by decide +kernel),
    (run_frozen_and_atomic _ _ rfl).2 _ (by decide +kernel),
    (run_frozen_and_atomic _ _ rfl).1 (by decide +kernel) rfl⟩

/-- While an error is kept, verbs that start no statement do nothing, however many they are. -/
theorem runAll_of_error {b : Builder} {vs : List Verb} {e : Error} (he : b.error = some e)
    (hvs : ∀ v ∈ vs, v.handlesError = false ∧ v.isStarting = false) : b.runAll vs = b := by
  induction vs with
  | nil => rfl
  | cons v vs ih =>
    obtain ⟨hv, hs⟩ := hvs v List.mem_cons_self
    rw [runAll_cons, run_of_error hv he hs]
    exact ih fun w hw => hvs w (List.mem_cons_of_mem v hw)

end Builder

end FluentSql
