import FluentSql.Proofs.Portability

/-!
# What a builder takes from a list of fields

A list of fields reaches a statement as SQL.  Beyond that a builder asks whether the list is empty
and whether it is all columns alone, and it keeps the list for the sections that repeat it.  So
where two lists have the same SQL it does not matter which of them a verb is given: the builders
look the same then and after every verb that follows.

## Main definitions

* `Field.Akin`, `Draft.Akin`, `Builder.Akin` — lists with the same SQL; drafts and builders that
  differ in no more than the list that they keep.
* `Edit.Respects` — two changes that take drafts that are akin to drafts that are akin.
* `Verb.Respelled` — a verb with the one list or with the other.

## Main results

* `Edit.respects_bind` — changes in a row respect what each of them respects.
* `Builder.akin_run` — builders stay akin by a verb with the one list or the other.
* `Builder.agrees_respelled` — **which of two lists with the same SQL is given is not to be seen.**
-/

namespace FluentSql

/-! ### Lists, drafts and builders side by side -/

/-- The two lists have the same SQL, or none for the same reason, and neither or both are empty. -/
structure Field.Akin (fields fields' : List Field) : Prop where
  empty : fields.isEmpty = fields'.isEmpty
  sql : Field.renderList fields = Field.renderList fields'

/-- The two drafts have the same statement and repeat the same SQL. -/
structure Draft.Akin (d d' : Draft) : Prop where
  statement : d.statement = d'.statement
  projection : Field.Akin d.projection d'.projection

/-- The two results have the same error, or contents that are related. -/
inductive Matching {α β : Type} (R : α → β → Prop) : Except Error α → Except Error β → Prop where
  | ok {a : α} {b : β} (h : R a b) : Matching R (.ok a) (.ok b)
  | error (e : Error) : Matching R (.error e) (.error e)

theorem Field.akin_refl (fields : List Field) : Akin fields fields := ⟨rfl, rfl⟩

theorem Draft.akin_refl (d : Draft) : Akin d d := ⟨rfl, Field.akin_refl _⟩

theorem matching_of_refl {α : Type} {R : α → α → Prop} (h : ∀ a, R a a) (r : Except Error α) :
    Matching R r r := by
  cases r with
  | ok a => exact .ok (h a)
  | error e => exact .error e

theorem Draft.renderList_repeatedFields {d d' : Draft} (h : d.Akin d') :
    Field.renderList d.repeatedFields = Field.renderList d'.repeatedFields := by
  rw [repeatedFields, repeatedFields, h.projection.empty]
  split
  · rfl
  · exact h.projection.sql

theorem Draft.needsSection_akin {d d' : Draft} (h : d.Akin d') :
    d.needsSection = d'.needsSection := by
  rw [needsSection, needsSection, h.statement]

/-! ### Changes side by side -/

namespace Edit

variable {α β γ δ : Type} {R : α → β → Prop} {S : γ → δ → Prop}

/-- The two changes end in the same way: with contents that are related or with the same error,
and in drafts that are akin. -/
inductive EndAkin (R : α → β → Prop) :
    EStateM.Result Error Draft α → EStateM.Result Error Draft β → Prop where
  | ok {a : α} {b : β} {d d' : Draft} (h : R a b) (hd : d.Akin d') :
    EndAkin R (.ok a d) (.ok b d')
  | error (e : Error) {d d' : Draft} (hd : d.Akin d') : EndAkin R (.error e d) (.error e d')

/-- From drafts that are akin the two changes end akin. -/
def Respects (R : α → β → Prop) (x : Edit α) (y : Edit β) : Prop :=
  ∀ d d', d.Akin d' → EndAkin R (x d) (y d')

/-- **Changes in a row respect what each of them respects.** -/
theorem respects_bind {x : Edit α} {y : Edit β} {k : α → Edit γ} {l : β → Edit δ}
    (hxy : Respects R x y) (hkl : ∀ a b, R a b → Respects S (k a) (l b)) :
    Respects S (x >>= k) (y >>= l) := by
  intro d d' hd
  have hend := hxy d d' hd
  rw [bind_apply, bind_apply]
  generalize x d = r at hend ⊢
  generalize y d' = r' at hend ⊢
  cases hend with
  | ok h hd => exact hkl _ _ h _ _ hd
  | error e hd => exact .error e hd

theorem respects_get : Respects Draft.Akin get get := fun _ _ hd => .ok hd hd

theorem respects_pure (a : α) : Respects Eq (pure a : Edit α) (pure a) := fun _ _ hd => .ok rfl hd

theorem respects_check {r : Except Error α} {r' : Except Error β} (h : Matching R r r') :
    Respects R (check r) (check r') := by
  intro d d' hd
  cases h with
  | ok h => exact .ok h hd
  | error e => exact .error e hd

theorem respects_check_self (r : Except Error α) : Respects Eq (check r) (check r) :=
  respects_check (matching_of_refl (fun _ => rfl) r)

theorem respects_failIf (p : Prop) [Decidable p] (e : Error) :
    Respects Eq (failIf p e) (failIf p e) := by
  intro d d' hd
  rw [failIf_apply, failIf_apply]
  split
  · exact .error e hd
  · exact .ok rfl hd

theorem respects_onStatement (change : Statement → Statement) :
    Respects Eq (onStatement change) (onStatement change) :=
  fun _ _ hd => .ok rfl ⟨congrArg change hd.statement, hd.projection⟩

theorem respects_remember {fields fields' : List Field} (h : Field.Akin fields fields') :
    Respects Eq (remember fields) (remember fields') :=
  fun _ _ hd => .ok rfl ⟨hd.statement, h⟩

/-- Two changes after each other, the second of which takes nothing from the first. -/
theorem respects_seq {x x' y y' : Edit Unit} (hx : Respects Eq x x') (hy : Respects Eq y y') :
    Respects Eq (do x; y) (do x'; y') :=
  respects_bind hx fun _ _ _ => hy

end Edit

/-! ### The changes of the verbs -/

section Changes

open Edit

variable {fields fields' : List Field}

/-- A grouping by the one list is a grouping by the other. -/
theorem Clause.compile_groupBy (h : Field.Akin fields fields') (dialect : Dialect) :
    (groupBy fields).compile dialect = (groupBy fields').compile dialect := by
  rw [compile, compile, h.empty, h.sql]
  rfl

/-- A SELECT of the one list is a SELECT of the other, unless one of them is all columns alone. -/
theorem Selection.compile_akin (h : Field.Akin fields fields')
    (hstar : fields = [.star] ↔ fields' = [.star]) (table : Table) (distinct : Bool) :
    Matching (fun p p' => p.1 = p'.1 ∧ Field.Akin p.2 p'.2)
      (Selection.compile ⟨table, fields, distinct⟩)
      (Selection.compile ⟨table, fields', distinct⟩) := by
  have hstar' : (fields == [.star]) = (fields' == [.star]) := by
    rw [Bool.eq_iff_iff, beq_iff_eq, beq_iff_eq]
    exact hstar
  simp only [compile, context, h.empty, hstar', h.sql]
  split
  · exact .error _
  · split
    · exact matching_of_refl (fun p => ⟨rfl, Field.akin_refl p.2⟩) _
    · cases Field.renderList fields' with
      | error e => exact .error e
      | ok sql =>
        cases table.render with
        | error e => exact .error e
        | ok source => exact .ok ⟨rfl, h⟩

namespace Draft

/-- A clause looks at the statement of a draft only. -/
theorem respects_addClause {dialect : Dialect} {c c' : Clause} (hcontext : c.context = c'.context)
    (hskipped : ∀ s, c.isSkipped dialect s = c'.isSkipped dialect s)
    (hcompile : c.compile dialect = c'.compile dialect) :
    Respects Eq (addClause dialect c) (addClause dialect c') := by
  refine respects_bind respects_get fun d d' hd => ?_
  rw [needsSection_akin hd, hd.statement, hcontext, hskipped d'.statement, hcompile]
  refine respects_bind (respects_failIf _ _) fun _ _ _ => ?_
  split
  · exact respects_pure ()
  · refine respects_bind (respects_check_self _) ?_
    rintro f _ rfl
    exact respects_seq (respects_onStatement _) (respects_onStatement _)

theorem respects_addSelection {s s' : Selection}
    (h : Matching (fun p p' => p.1 = p'.1 ∧ Field.Akin p.2 p'.2) s.compile s'.compile) :
    Respects Eq (addSelection s) (addSelection s') := by
  refine respects_bind (respects_check h) ?_
  rintro ⟨sql, fields⟩ ⟨_, fields'⟩ ⟨rfl, hfields⟩
  exact respects_seq (respects_onStatement _) (respects_remember hfields)

theorem respects_combine (c : Combination) : Respects Eq (combine c) (combine c) := by
  refine respects_bind respects_get fun d d' hd => ?_
  rw [needsSection_akin hd, hd.statement]
  exact respects_seq (respects_failIf _ _) (respects_onStatement _)

/-- A section of the same fields has the same SQL. -/
theorem respects_combineSelect (c : Combination) (table : Table) :
    Respects Eq (combineSelect c table) (combineSelect c table) := by
  refine respects_bind respects_get fun d d' hd => ?_
  rw [needsSection_akin hd, hd.statement, renderList_repeatedFields hd]
  refine respects_bind (respects_failIf _ _) fun _ _ _ => ?_
  refine respects_bind (respects_failIf _ _) fun _ _ _ => ?_
  refine respects_bind (respects_failIf _ _) fun _ _ _ => ?_
  refine respects_bind (respects_failIf _ _) fun _ _ _ => ?_
  refine respects_bind (respects_check_self _) ?_
  rintro sql _ rfl
  refine respects_bind (respects_check_self _) ?_
  rintro source _ rfl
  exact respects_seq (respects_onStatement _) (respects_onStatement _)

theorem respects_createView (name : String) (ifNotExists : Bool) :
    Respects Eq (createView name ifNotExists) (createView name ifNotExists) := by
  refine respects_bind (respects_check_self _) ?_
  rintro name _ rfl
  refine respects_bind respects_get fun d d' hd => ?_
  rw [needsSection_akin hd, hd.statement]
  exact respects_seq (respects_failIf _ _) (respects_onStatement _)

end Draft

end Changes

/-! ### Verbs and builders -/

/-- The two verbs are the same, but that one is given the one list and the other the other. -/
inductive Verb.Respelled (fields fields' : List Field) : Verb → Verb → Prop where
  | same (v : Verb) : Respelled fields fields' v v
  | select (table : Table) (distinct : Bool) :
    Respelled fields fields' (.start (.select ⟨table, fields, distinct⟩))
      (.start (.select ⟨table, fields', distinct⟩))
  | groupBy : Respelled fields fields' (.groupBy fields) (.groupBy fields')

section Verbs

variable {fields fields' : List Field} {v v' : Verb}

/-- Verbs that are the same but for their lists make the same change. -/
theorem Verb.respects_edit (h : Field.Akin fields fields')
    (hstar : fields = [.star] ↔ fields' = [.star]) (hv : v.Respelled fields fields' v')
    (dialect : Dialect) : Edit.Respects Eq (v.edit dialect) (v'.edit dialect) := by
  cases hv with
  | select table distinct =>
    exact Draft.respects_addSelection (Selection.compile_akin h hstar table distinct)
  | groupBy => exact Draft.respects_addClause rfl (fun _ => rfl) (Clause.compile_groupBy h dialect)
  | same =>
    cases v with
    | start opening =>
      cases opening with
      | select s =>
        exact Draft.respects_addSelection
          (matching_of_refl (fun p => ⟨rfl, Field.akin_refl p.2⟩) _)
      | _ => exact Edit.respects_pure ()
    | clause c => exact Draft.respects_addClause rfl (fun _ => rfl) rfl
    | like field pattern negated =>
      exact Edit.respects_seq (Edit.respects_failIf _ _)
        (Draft.respects_addClause rfl (fun _ => rfl) rfl)
    | nullTest field negated =>
      exact Edit.respects_seq (Edit.respects_failIf _ _)
        (Draft.respects_addClause rfl (fun _ => rfl) rfl)
    | combine c => exact Draft.respects_combine c
    | combineSelect c table => exact Draft.respects_combineSelect c table
    | createView name ifNotExists => exact Draft.respects_createView name ifNotExists
    | setError message => exact Edit.respects_pure ()
    | reset => exact Edit.respects_pure ()

/-- And they start statements that are akin. -/
theorem Verb.draft_akin {opening opening' : Opening} (h : Field.Akin fields fields')
    (hstar : fields = [.star] ↔ fields' = [.star])
    (hv : Respelled fields fields' (.start opening) (.start opening')) :
    Matching Draft.Akin opening.draft opening'.draft := by
  cases hv with
  | same => exact matching_of_refl Draft.akin_refl _
  | select table distinct =>
    have hcompile := Selection.compile_akin h hstar table distinct
    rw [Opening.draft, Opening.draft]
    generalize Selection.compile ⟨table, fields, distinct⟩ = r at hcompile ⊢
    generalize Selection.compile ⟨table, fields', distinct⟩ = r' at hcompile ⊢
    cases hcompile with
    | ok hp => exact .ok ⟨congrArg (Statement.start .select) hp.1, hp.2⟩
    | error e => exact .error e

end Verbs

namespace Builder

variable {b b' : Builder} {fields fields' : List Field} {v v' : Verb}

/-- The two builders differ in no more than the list that they keep. -/
structure Akin (b b' : Builder) : Prop where
  dialect : b.dialect = b'.dialect
  draft : b.draft.Akin b'.draft
  error : b.error = b'.error

/-- Builders that are akin look the same. -/
theorem agrees_of_akin (h : Akin b b') : Agrees b b' :=
  agrees_of_statement h.draft.statement h.error

theorem akin_record (h : Akin b b') (e : Error) : Akin (b.record e) (b'.record e) :=
  ⟨h.dialect, h.draft, rfl⟩

theorem akin_start (h : Akin b b') {r r' : Except Error Draft} (hr : Matching Draft.Akin r r') :
    Akin (b.start r) (b'.start r') := by
  cases hr with
  | ok hd => exact ⟨h.dialect, hd, rfl⟩
  | error e => exact akin_record h e

theorem akin_extend (h : Akin b b') {edit edit' : Edit Unit}
    (hedit : Edit.Respects Eq edit edit') : Akin (b.extend edit) (b'.extend edit') := by
  cases hb : b.error with
  | some e =>
    rw [extend_of_error hb, extend_of_error (h.error.symm.trans hb)]
    exact h
  | none =>
    have hend := hedit _ _ h.draft
    rw [extend, extend, ← h.error, hb]
    generalize edit b.draft = r at hend ⊢
    generalize edit' b'.draft = r' at hend ⊢
    cases hend with
    | ok _ hd => exact ⟨h.dialect, hd, rfl⟩
    | error e hd => exact ⟨h.dialect, hd, rfl⟩

theorem opens_akin (h : Akin b b') (hv : v.Respelled fields fields' v') :
    b.opens v = b'.opens v' := by
  have hwait : (b.draft.needsSection && !b.hasError) = (b'.draft.needsSection && !b'.hasError) := by
    rw [hasError, hasError, Draft.needsSection_akin h.draft, h.error]
  cases hv with
  | select table distinct => rw [opens, opens, hwait]
  | groupBy => rfl
  | same =>
    cases v with
    | start opening =>
      cases opening with
      | select s => rw [opens, opens, hwait]
      | _ => rfl
    | _ => rfl

/-- **Builders stay akin** by a verb with the one list or the other. -/
theorem akin_run (hfields : Field.Akin fields fields')
    (hstar : fields = [.star] ↔ fields' = [.star]) (h : Akin b b')
    (hv : v.Respelled fields fields' v') : Akin (b.run v) (b'.run v') := by
  have hopens := opens_akin h hv
  cases ho : b.opens v with
  | true =>
    rw [ho] at hopens
    obtain ⟨opening, rfl⟩ := isStarting_of_opens ho
    obtain ⟨opening', rfl⟩ := isStarting_of_opens hopens.symm
    rw [run_of_opens ho, run_of_opens hopens.symm]
    exact akin_start h (Verb.draft_akin hfields hstar hv)
  | false =>
    rw [ho] at hopens
    have hhandles : v.handlesError = v'.handlesError := by cases hv <;> rfl
    cases hh : v.handlesError with
    | false =>
      rw [hh] at hhandles
      rw [run_of_not_opens ho hh, run_of_not_opens hopens.symm hhandles.symm, ← h.dialect]
      exact akin_extend h (Verb.respects_edit hfields hstar hv b.dialect)
    | true =>
      cases hv with
      | same =>
        cases v with
        | setError message =>
          rw [run, run, setError, setError]
          split
          · exact ⟨h.dialect, h.draft, rfl⟩
          · exact akin_record h _
        | reset => exact ⟨h.dialect, Draft.akin_refl _, rfl⟩
        | _ => cases hh
      | _ => cases hh

/-- Builders stay akin by all verbs, each with the one list or the other. -/
theorem akin_runAll (hfields : Field.Akin fields fields')
    (hstar : fields = [.star] ↔ fields' = [.star]) (h : Akin b b') {vs vs' : List Verb}
    (hvs : List.Forall₂ (Verb.Respelled fields fields') vs vs') :
    Akin (b.runAll vs) (b'.runAll vs') := by
  induction hvs generalizing b b' with
  | nil => exact h
  | cons hv _ ih => exact ih (akin_run hfields hstar h hv)

/-- **Which of two lists with the same SQL is given is not to be seen**: not by the verb that is
given it, nor by those that follow, be it a section that repeats the fields. -/
theorem agrees_respelled (hfields : Field.Akin fields fields')
    (hstar : fields = [.star] ↔ fields' = [.star]) (b : Builder) {vs vs' : List Verb}
    (hvs : List.Forall₂ (Verb.Respelled fields fields') vs vs') :
    Agrees (b.runAll vs) (b.runAll vs') :=
  agrees_of_akin (akin_runAll hfields hstar ⟨rfl, Draft.akin_refl _, rfl⟩ hvs)

end Builder

end FluentSql
