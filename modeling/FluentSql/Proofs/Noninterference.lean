import FluentSql.Proofs.Calls

/-!
# Bound values leave no trace in the text

Two callers make the same calls with different values: of other types, with other contents, but as
many of them and in the same places.  At no time can the two statements be told apart by their text,
by the error that is kept, or by what is sent; and a bound value differs only where the values that
the callers gave differ.  The exception is a text that is read as a test for null.

## Main definitions

* `Call.SameShape` — the same calls but for their values.
* `Call.valueAt` — the value in some place of some call.
* `Builder.Indistinguishable` — what two statements have in common.

## Main results

* `Builder.alike_snoc` — one more call keeps two builders alike.
* `Builder.indistinguishable_of_sameShape` — **calls of the same shape cannot be told apart.**
-/

namespace FluentSql

/-- The same calls but for their values. -/
def Call.SameShape (cs₁ cs₂ : List Call) : Prop :=
  cs₁.map (Call.mapValues hide) = cs₂.map (Call.mapValues hide)

/-- The value in a place of a call, both counted from zero. -/
def Call.valueAt (cs : List Call) (call place : Nat) : Option Value :=
  cs[call]?.bind fun c => c.values[place]?

namespace Builder

/-- What two statements, and the errors beside them, have in common after calls of the same
shape. -/
structure Indistinguishable (cs₁ cs₂ : List Call) (b₁ b₂ : Builder) : Prop where
  /-- The text with placeholders. -/
  text : b₁.text = b₂.text
  /-- The error. -/
  error : b₁.error = b₂.error
  /-- Whether there are several sections. -/
  isCompound : b₁.statement.isCompound = b₂.statement.isCompound
  /-- What is sent, or why nothing is. -/
  sent : b₁.compile.map Fragment.sql = b₂.compile.map Fragment.sql
  /-- The number of bound values. -/
  length : b₁.params.length = b₂.params.length
  /-- Two values bound to the same placeholder come from the same place of the same call. -/
  places : ∀ (k : Nat) (x y : Value), b₁.params[k]? = some x → b₂.params[k]? = some y →
    ∃ call place, Call.valueAt cs₁ call place = some x ∧ Call.valueAt cs₂ call place = some y

/-- Two values from the same place of the same call. -/
def SamePlace (cs₁ cs₂ : List Call) (p : Value × Value) : Prop :=
  ∃ call place, Call.valueAt cs₁ call place = some p.1 ∧ Call.valueAt cs₂ call place = some p.2

/-- What calls of the same shape preserve: two builders that are equal when all values are hidden,
and bound values in pairs of the same place. -/
structure Alike (cs₁ cs₂ : List Call) (b₁ b₂ : Builder) : Prop where
  length : cs₁.length = cs₂.length
  hidden : b₁.mapValues hide = b₂.mapValues hide
  places : ∀ p ∈ b₁.params.zip b₂.params, SamePlace cs₁ cs₂ p

variable {cs₁ cs₂ : List Call} {c₁ c₂ : Call} {b₁ b₂ : Builder}

theorem valueAt_snoc {cs : List Call} {c : Call} {call place : Nat} {x : Value}
    (h : Call.valueAt cs call place = some x) : Call.valueAt (cs ++ [c]) call place = some x := by
  rw [Call.valueAt] at h ⊢
  cases hc : cs[call]? with
  | none =>
    rw [hc] at h
    cases h
  | some d =>
    obtain ⟨hlt, -⟩ := List.getElem?_eq_some_iff.mp hc
    rw [hc] at h
    rw [List.getElem?_append_left hlt, hc]
    exact h

theorem samePlace_snoc {p : Value × Value} (h : SamePlace cs₁ cs₂ p) :
    SamePlace (cs₁ ++ [c₁]) (cs₂ ++ [c₂]) p := by
  obtain ⟨call, place, hx, hy⟩ := h
  exact ⟨call, place, valueAt_snoc hx, valueAt_snoc hy⟩

/-- The values of the last calls come in pairs of the same place. -/
theorem samePlace_last (h : cs₁.length = cs₂.length) {p : Value × Value}
    (hp : p ∈ c₁.values.zip c₂.values) : SamePlace (cs₁ ++ [c₁]) (cs₂ ++ [c₂]) p := by
  obtain ⟨k, hk, rfl⟩ := List.getElem_of_mem hp
  rw [List.length_zip, Nat.lt_min] at hk
  refine ⟨cs₁.length, k, ?_, ?_⟩
  · rw [Call.valueAt, List.getElem?_concat_length, Option.bind_some, List.getElem_zip]
    exact List.getElem?_eq_getElem hk.1
  · rw [Call.valueAt, h, List.getElem?_concat_length, Option.bind_some, List.getElem_zip]
    exact List.getElem?_eq_getElem hk.2

theorem restarts_mapValues (f : Value → Value) (b : Builder) (v : Verb) :
    (b.mapValues f).restarts (v.mapValues f) = b.restarts v := by
  cases v with
  | reset => rfl
  | start opening => exact b.opens_mapValues f (.start opening)
  | _ => rfl

/-- Builders that are equal when all values are hidden have bound equally many. -/
theorem length_params_of_hidden (h : b₁.mapValues hide = b₂.mapValues hide) :
    b₁.params.length = b₂.params.length := by
  have hparams := congrArg (fun b => (Builder.params b).length) h
  simpa only [params_mapValues, List.length_map] using hparams

/-- **One more call of the same shape keeps two builders alike.** -/
theorem alike_snoc (h : Alike cs₁ cs₂ b₁ b₂) (hc : c₁.mapValues hide = c₂.mapValues hide)
    (h₁ : c₁.asksForNull = false) (h₂ : c₂.asksForNull = false) :
    Alike (cs₁ ++ [c₁]) (cs₂ ++ [c₂]) (b₁.run c₁.toVerb) (b₂.run c₂.toVerb) := by
  have hverb : c₁.toVerb.mapValues hide = c₂.toVerb.mapValues hide := by
    rw [← Call.toVerb_hidden h₁, ← Call.toVerb_hidden h₂, hc]
  have hrun : (b₁.run c₁.toVerb).mapValues hide = (b₂.run c₂.toVerb).mapValues hide := by
    rw [← run_mapValues, ← run_mapValues, h.hidden, hverb]
  have herror := congrArg Builder.error hrun
  rw [error_mapValues, error_mapValues] at herror
  have hrestarts : b₁.restarts c₁.toVerb = b₂.restarts c₂.toVerb := by
    rw [← restarts_mapValues hide, ← restarts_mapValues hide b₂, h.hidden, hverb]
  refine ⟨by rw [List.length_append, List.length_append, h.length]; rfl, hrun, fun p hp => ?_⟩
  rw [params_run, params_run, hasError, hasError, ← herror] at hp
  cases he : (b₁.run c₁.toVerb).error with
  | some e =>
    -- nothing was bound
    rw [he] at hp
    exact samePlace_snoc (h.places p hp)
  | none =>
    -- both calls keep the values there were, or both drop them
    have he₂ : (b₂.run c₂.toVerb).error = none := by rw [← herror, he]
    have hcarried : (b₁.carriedOver c₁.toVerb).length = (b₂.carriedOver c₂.toVerb).length := by
      rw [carriedOver, carriedOver, hrestarts]
      split
      · rfl
      · exact length_params_of_hidden h.hidden
    rw [he, Call.values_toVerb h₁ he, Call.values_toVerb h₂ he₂] at hp
    simp only [Option.isSome_none, Bool.false_eq_true, if_false, List.zip_append hcarried,
      List.mem_append] at hp
    rcases hp with hold | hnew
    · rw [carriedOver, carriedOver, hrestarts] at hold
      split at hold
      · cases hold
      · exact samePlace_snoc (h.places p hold)
    · exact samePlace_last h.length hnew

/-- Calls of the same shape keep two builders alike, however many they are. -/
theorem alike_callAll {ds₁ ds₂ : List Call} (h : Alike cs₁ cs₂ b₁ b₂)
    (hds : Call.SameShape ds₁ ds₂) (h₁ : ∀ c ∈ ds₁, c.asksForNull = false)
    (h₂ : ∀ c ∈ ds₂, c.asksForNull = false) :
    Alike (cs₁ ++ ds₁) (cs₂ ++ ds₂) (b₁.callAll ds₁) (b₂.callAll ds₂) := by
  induction ds₁ generalizing ds₂ cs₁ cs₂ b₁ b₂ with
  | nil =>
    obtain rfl : ds₂ = [] := List.map_eq_nil_iff.mp hds.symm
    rw [List.append_nil, List.append_nil]
    exact h
  | cons c₁ ds₁ ih =>
    cases ds₂ with
    | nil => cases hds
    | cons c₂ ds₂ =>
      rw [Call.SameShape, List.map_cons, List.map_cons, List.cons.injEq] at hds
      have hnext := alike_snoc h hds.1 (h₁ c₁ List.mem_cons_self) (h₂ c₂ List.mem_cons_self)
      have hrest := ih hnext hds.2 (fun c hc => h₁ c (List.mem_cons_of_mem c₁ hc))
        fun c hc => h₂ c (List.mem_cons_of_mem c₂ hc)
      rw [List.append_assoc, List.append_assoc] at hrest
      exact hrest

/-- Builders that are alike cannot be told apart. -/
theorem indistinguishable_of_alike (h : Alike cs₁ cs₂ b₁ b₂) :
    Indistinguishable cs₁ cs₂ b₁ b₂ where
  text := by rw [← text_mapValues hide b₁, h.hidden, text_mapValues]
  error := by rw [← error_mapValues hide b₁, h.hidden, error_mapValues]
  isCompound := by rw [← isCompound_mapValues hide b₁, h.hidden, isCompound_mapValues]
  sent := by rw [← sql_compile_mapValues hide b₁, h.hidden, sql_compile_mapValues]
  length := length_params_of_hidden h.hidden
  places k x y hx hy := by
    have hmem : (x, y) ∈ b₁.params.zip b₂.params := by
      refine List.mem_of_getElem? (i := k) ?_
      rw [List.getElem?_zip_eq_some]
      exact ⟨hx, hy⟩
    exact h.places (x, y) hmem

/-- **Calls of the same shape cannot be told apart.**  After each step of two sequences of calls
that differ in their values only, none of which is read as a test for null, the two statements have
the same text, the same error and the same sections, the same text is sent or the same error given,
and each placeholder is bound to the values of one and the same place. -/
theorem indistinguishable_of_sameShape (dialect : Dialect) (options : Options)
    {cs₁ cs₂ : List Call} (hshape : Call.SameShape cs₁ cs₂)
    (h₁ : ∀ c ∈ cs₁, c.asksForNull = false) (h₂ : ∀ c ∈ cs₂, c.asksForNull = false) (n : Nat) :
    Indistinguishable (cs₁.take n) (cs₂.take n) ((new dialect options).callAll (cs₁.take n))
      ((new dialect options).callAll (cs₂.take n)) := by
  have hnew : Alike [] [] (new dialect options) (new dialect options) :=
    ⟨rfl, rfl, fun p hp => by cases hp⟩
  have htake : Call.SameShape (cs₁.take n) (cs₂.take n) := by
    rw [Call.SameShape, List.map_take, List.map_take, hshape]
  have h := alike_callAll hnew htake (fun c hc => h₁ c (List.mem_of_mem_take hc))
    fun c hc => h₂ c (List.mem_of_mem_take hc)
  rw [List.nil_append, List.nil_append] at h
  exact indistinguishable_of_alike h

/-- A text that tries to be more than a value, and a number in its place. -/
def quotedGuess : List Call × List Call :=
  ([.verb (.select (.named "users") [.star]),
      .filter (.one (.pair (.column "name") (.value (.text "x' OR 'a' = 'a")))) "LIMIT 1"],
    [.verb (.select (.named "users") [.star]),
      .filter (.one (.pair (.column "name") (.value (.int64 7)))) "LIMIT 1"])

theorem indistinguishable_of_sameShape_quotedGuess :
    Call.SameShape quotedGuess.1 quotedGuess.2 ∧
      Indistinguishable (quotedGuess.1.take 2) (quotedGuess.2.take 2)
        ((new .mysql .default).callAll (quotedGuess.1.take 2))
        ((new .mysql .default).callAll (quotedGuess.2.take 2)) :=
  have hshape : Call.SameShape quotedGuess.1 quotedGuess.2 := rfl
  ⟨hshape, indistinguishable_of_sameShape .mysql .default hshape (by decide) (by decide) 2⟩

end Builder

end FluentSql
