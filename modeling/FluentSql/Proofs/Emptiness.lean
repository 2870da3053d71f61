import FluentSql.Proofs.TableNames

/-!
# Rendering fails only on emptiness

A table has SQL exactly if nothing in it is missing, however deep it is nested, and the only error
is that something is.  The verbs that take a table look for this first and report it as their own
error, so the one of rendering never shows.  A field has SQL exactly if there is text under its
aliases; one that a text names has some exactly if the text is not blank, since no part of it that
goes under an alias is.

## Main definitions

* `Field.innermost` — what stands under the aliases of a field.
* `Table.Guarded`, `Edit.Guarded` — a result, and a change, that does not fail by rendering a table.

## Main results

* `Table.exists_render_iff`, `Field.exists_render_iff`, `Field.exists_render_parse_iff` — what has
  SQL.
* `Builder.error_run_on` — no verb that takes a table leaves the error of rendering one.
* `rendering_fails_only_on_emptiness` — **all of these.**
-/

namespace FluentSql

/-! ### Tables -/

mutual

/-- A table in which something is missing has no SQL. -/
theorem Table.render_of_isEmpty {table : Table} (h : table.isEmpty = true) :
    table.render = .error blankError := by
  cases table with
  | named name =>
    rw [isEmpty] at h
    rw [render, if_pos h]
  | subquery sql =>
    rw [isEmpty] at h
    rw [render, if_pos h]
  | expression sql =>
    rw [isEmpty] at h
    rw [render, if_pos h]
  | aliased table label =>
    rw [isEmpty] at h
    rw [render, Table.render_of_isEmpty h]
    rfl
  | list tables =>
    rw [isEmpty] at h
    rw [render]
    by_cases hnil : tables.isEmpty = true
    · rw [if_pos hnil]
    · rw [Bool.of_not_eq_true hnil, Bool.false_or] at h
      rw [if_neg hnil, Table.renderEach_of_anyEmpty h]
      rfl

/-- The first table of a list in which something is missing ends the rendering. -/
theorem Table.renderEach_of_anyEmpty {tables : List Table} (h : Table.anyEmpty tables = true) :
    Table.renderEach tables = .error blankError := by
  cases tables with
  | nil =>
    rw [anyEmpty] at h
    cases h
  | cons table tables =>
    rw [anyEmpty] at h
    rw [renderEach]
    by_cases hfirst : table.isEmpty = true
    · rw [Table.render_of_isEmpty hfirst]
      rfl
    · have hrest := Bool.of_not_eq_true hfirst
      obtain ⟨s, hs⟩ := Table.exists_render hrest
      rw [hrest, Bool.false_or] at h
      rw [hs, Table.renderEach_of_anyEmpty h]
      rfl

end

/-- **A table has SQL exactly if nothing in it is missing.** -/
theorem Table.exists_render_iff {table : Table} :
    (∃ s, table.render = .ok s) ↔ table.isEmpty = false := by
  constructor
  · rintro ⟨s, hs⟩
    rw [← Bool.not_eq_true]
    intro hempty
    rw [Table.render_of_isEmpty hempty] at hs
    cases hs
  · exact Table.exists_render

/-! ### Fields -/

namespace Field

/-- What stands under the aliases of a field. -/
def innermost : Field → Field
  | aliased field _ => field.innermost
  | field => field

/-- **A field has SQL exactly if there is text under its aliases**, or it is all columns. -/
theorem exists_render_iff {field : Field} :
    (∃ s, field.render = .ok s) ↔ field.innermost = .star ∨
      ∃ text, (field.innermost = .column text ∨ field.innermost = .expression text) ∧
        isBlankText text = false := by
  induction field with
  | star => simp [render, innermost]
  | column name =>
    cases hblank : isBlankText name <;> simp [render, innermost, hblank]
  | expression sql =>
    cases hblank : isBlankText sql <;> simp [render, innermost, hblank]
  | aliased field label ih =>
    rw [innermost, ← ih]
    constructor
    · rintro ⟨s, hs⟩
      simp only [render, bind_eq_ok_iff] at hs
      obtain ⟨inner, hinner, -⟩ := hs
      exact ⟨inner, hinner⟩
    · rintro ⟨s, hs⟩
      exact ⟨_, render_aliased hs label⟩

/-- **A text names a field that has SQL exactly if it is not blank.** -/
theorem exists_render_parse_iff {s : String} :
    (∃ t, (parse s).render = .ok t) ↔ ∃ c ∈ s.toList, isBlank c = false := by
  have hblank : (∃ c ∈ s.toList, isBlank c = false) ↔ isBlankText s = false := by
    simp [isBlankText, Text.allBlank]
  rw [hblank]
  constructor
  · rintro ⟨t, ht⟩
    rw [← Bool.not_eq_true]
    intro hempty
    rw [render_parse_of_isBlankText hempty] at ht
    cases ht
  · exact exists_render_parse

end Field

/-! ### Results that do not fail by rendering a table -/

namespace Table

variable {α β : Type}

/-- The result is not the error of rendering a table in which something is missing. -/
def Guarded (r : Except Error α) : Prop := r ≠ .error blankError

theorem guarded_ok (a : α) : Guarded (.ok a : Except Error α) := nofun

theorem guarded_error {e : Error} (he : e ≠ blankError) : Guarded (.error e : Except Error α) :=
  fun h => he (Except.error.inj h)

theorem guarded_bind {r : Except Error α} {k : α → Except Error β} (hr : Guarded r)
    (hk : ∀ a, Guarded (k a)) : Guarded (r >>= k) := by
  intro h
  rcases bind_eq_error_iff.mp h with h | ⟨a, -, h⟩
  · exact hr h
  · exact hk a h

/-- What is behind a check may rely on it. -/
theorem guarded_guard {p : Prop} [Decidable p] {e : Error} {r : Except Error α}
    (he : e ≠ blankError) (hr : ¬p → Guarded r) : Guarded (if p then .error e else r) := by
  by_cases hp : p
  · rw [if_pos hp]
    exact guarded_error he
  · rw [if_neg hp]
    exact hr hp

theorem guarded_ite {p : Prop} [Decidable p] {r r' : Except Error α} (hr : Guarded r)
    (hr' : Guarded r') : Guarded (if p then r else r') := by
  split
  · exact hr
  · exact hr'

/-- What a verb makes of a table behind its own check, which asks for more than the table. -/
theorem guarded_of_check {table : Table} {missing : Bool} {e : Error} {r : Except Error α}
    (he : e ≠ blankError) (hr : table.isEmpty = false → Guarded r) :
    Guarded (if table.isEmpty || missing then .error e else r) := by
  apply guarded_guard he
  intro hpresent
  rw [Bool.or_eq_true, not_or] at hpresent
  exact hr (Bool.of_not_eq_true hpresent.1)

/-! ### What is made of tables and fields -/

/-- A table in which nothing is missing has SQL. -/
theorem guarded_render {table : Table} (h : table.isEmpty = false) : Guarded table.render := by
  obtain ⟨s, hs⟩ := exists_render h
  rw [hs]
  exact guarded_ok s

theorem guarded_renderField (field : Field) : Guarded field.render := by
  intro h
  exact absurd (Field.error_render h) (by decide)

theorem guarded_renderFields (fields : List Field) : Guarded (Field.renderList fields) := by
  have heach : ∀ fields, Guarded (Field.renderEach fields) := by
    intro fields
    induction fields with
    | nil => exact guarded_ok _
    | cons field fields ih =>
      apply guarded_bind (guarded_renderField field)
      intro sql
      exact guarded_bind ih fun _ => guarded_ok _
  apply guarded_guard (by decide)
  intro _
  exact guarded_bind (heach fields) fun _ => guarded_ok _

theorem guarded_selection (s : Selection) : Guarded s.compile := by
  apply guarded_of_check (by simp [blankError])
  intro htable
  apply guarded_ite
  · exact guarded_bind (guarded_render htable) fun _ => guarded_ok _
  · apply guarded_bind (guarded_renderFields _)
    intro fields
    exact guarded_bind (guarded_render htable) fun _ => guarded_ok _

theorem guarded_insert (table : Table) (batch : Batch) : Guarded (insertFragment table batch) := by
  unfold insertFragment
  rw [Bool.or_assoc]
  apply guarded_of_check (by decide)
  intro htable
  apply guarded_guard (by decide)
  intro _
  apply guarded_bind (guarded_render htable)
  intro sql
  exact guarded_bind (guarded_renderFields _) fun _ => guarded_ok _

theorem guarded_update (table : Table) (assignments : List Assignment) :
    Guarded (updateFragment table assignments) := by
  have htexts : ∀ rest, Guarded (assignmentTexts rest) := by
    intro rest
    induction rest with
    | nil => exact guarded_ok _
    | cons assignment rest ih =>
      apply guarded_bind (guarded_renderField _)
      intro column
      exact guarded_bind ih fun _ => guarded_ok _
  apply guarded_of_check (by decide)
  intro htable
  apply guarded_bind (htexts assignments)
  intro sets
  exact guarded_bind (guarded_render htable) fun _ => guarded_ok _

theorem guarded_delete (table : Table) : Guarded (deleteFragment table) := by
  apply guarded_guard (by decide)
  intro htable
  exact guarded_bind (guarded_render (Bool.of_not_eq_true htable)) fun _ => guarded_ok _

theorem guarded_resolveJoin (dialect : Dialect) (request : JoinRequest) :
    Guarded (dialect.resolveJoin request) := by
  cases request with
  | known type =>
    have hcheck : Guarded (dialect.checkJoin type) := by
      unfold Dialect.checkJoin
      exact guarded_ite (guarded_ok _) (guarded_error nofun)
    exact guarded_bind hcheck fun _ => guarded_ok _
  | unknown token => exact guarded_guard (by decide) fun _ => guarded_error nofun

theorem guarded_join (dialect : Dialect) (table : Table) (on : JoinOn) (request : JoinRequest) :
    Guarded ((Clause.join table on request).compile dialect) := by
  have hon : Guarded (Clause.onText on) := by
    cases on with
    | nothing => exact guarded_ok _
    | columns left right =>
      apply guarded_bind (guarded_renderField _)
      intro sql
      exact guarded_bind (guarded_renderField _) fun _ => guarded_ok _
    | raw sql => exact guarded_ok _
  apply guarded_guard (e := .emptyInput "table" "QueryBuilder::join") (by decide)
  intro htable
  apply guarded_bind (guarded_resolveJoin dialect request)
  intro type
  apply guarded_bind (guarded_render (Bool.of_not_eq_true htable))
  intro sql
  exact guarded_bind hon fun _ => guarded_ok _

end Table

/-! ### Changes in place -/

namespace Edit

variable {α β : Type}

/-- The change does not fail by rendering a table in which something is missing. -/
def Guarded (x : Edit α) : Prop := ∀ d d', x d ≠ .error Table.blankError d'

theorem guarded_check {r : Except Error α} (h : Table.Guarded r) : (check r).Guarded := by
  intro d d' hx
  cases r with
  | ok a => cases hx
  | error e =>
    cases hx
    exact h rfl

theorem guarded_of_writes {x : Edit α} (hx : Writes x) : x.Guarded := by
  intro d d' h
  obtain ⟨a, d'', hd⟩ := hx d
  rw [hd] at h
  cases h

theorem guarded_bind {x : Edit α} {k : α → Edit β} (hx : x.Guarded) (hk : ∀ a, (k a).Guarded) :
    (x >>= k).Guarded := by
  intro d d' h
  rw [bind_apply] at h
  cases hd : x d with
  | ok a d'' =>
    rw [hd] at h
    exact hk a d'' d' h
  | error e d'' =>
    rw [hd] at h
    cases h
    exact hx d d' hd

/-- What is behind a check may rely on it. -/
theorem guarded_failIf {p : Prop} [Decidable p] {e : Error} {k : Unit → Edit β}
    (he : e ≠ Table.blankError) (hk : ¬p → (k ()).Guarded) : (failIf p e >>= k).Guarded := by
  intro d d' h
  rw [bind_apply, failIf_apply] at h
  by_cases hp : p
  · rw [if_pos hp] at h
    cases h
    exact he rfl
  · rw [if_neg hp] at h
    exact hk hp d d' h

end Edit

/-- No verb that takes a table fails by rendering it when it changes a statement. -/
theorem TableVerb.guarded_edit (v : TableVerb) (dialect : Dialect) (table : Table) :
    ((v.on table).edit dialect).Guarded := by
  have hget : (get : Edit Draft).Guarded := Edit.guarded_of_writes fun d => ⟨d, d, rfl⟩
  cases v with
  | select fields distinct =>
    apply Edit.guarded_bind (Edit.guarded_check (Table.guarded_selection _))
    intro made
    apply Edit.guarded_of_writes
    exact Edit.writes_bind (Edit.writes_onStatement _) fun _ => Edit.writes_remember _
  | join on request =>
    apply Edit.guarded_bind hget
    intro d
    refine Edit.guarded_failIf nofun ?_
    intro _
    apply Edit.guarded_bind (Edit.guarded_check (Table.guarded_join dialect table on request))
    intro f
    apply Edit.guarded_of_writes
    exact Edit.writes_bind (Edit.writes_onStatement _) fun _ => Edit.writes_onStatement _
  | combineSelect c =>
    apply Edit.guarded_bind hget
    intro d
    have hown : Error.emptyInput "table" c.selectContext ≠ Table.blankError := by
      cases c <;> simp [Combination.selectContext, Table.blankError]
    apply Edit.guarded_failIf hown
    intro htable
    -- the other checks have errors of other kinds
    refine Edit.guarded_failIf nofun fun _ => Edit.guarded_failIf nofun fun _ => ?_
    refine Edit.guarded_failIf nofun ?_
    intro _
    apply Edit.guarded_bind (Edit.guarded_check (Table.guarded_renderFields _))
    intro fields
    have hrender := Table.guarded_render (Bool.of_not_eq_true htable)
    apply Edit.guarded_bind (Edit.guarded_check hrender)
    intro sql
    apply Edit.guarded_of_writes
    exact Edit.writes_bind (Edit.writes_onStatement _) fun _ => Edit.writes_onStatement _
  | insert batch => exact Edit.guarded_of_writes (Edit.writes_pure _)
  | update assignments => exact Edit.guarded_of_writes (Edit.writes_pure _)
  | delete => exact Edit.guarded_of_writes (Edit.writes_pure _)

/-! ### Verbs -/

/-- A statement that such a verb starts does not fail by it either. -/
theorem TableVerb.guarded_draft {v : TableVerb} {table : Table} {opening : Opening}
    (h : v.on table = .start opening) : Table.Guarded opening.draft := by
  cases v with
  | select fields distinct =>
    cases h
    exact Table.guarded_bind (Table.guarded_selection _) fun _ => Table.guarded_ok _
  | insert batch =>
    cases h
    exact Table.guarded_bind (Table.guarded_insert table batch) fun _ => Table.guarded_ok _
  | update assignments =>
    cases h
    exact Table.guarded_bind (Table.guarded_update table assignments) fun _ => Table.guarded_ok _
  | delete =>
    cases h
    exact Table.guarded_bind (Table.guarded_delete table) fun _ => Table.guarded_ok _
  | join on request => cases h
  | combineSelect c => cases h

/-- **No verb that takes a table leaves the error of rendering one**: it has looked before whether
anything is missing. -/
theorem Builder.error_run_on {b : Builder} {v : TableVerb} {table : Table}
    (h : (b.run (v.on table)).error = some Table.blankError) : b.error = some Table.blankError := by
  have hstep := b.step_run (v.on table)
  generalize hv : v.on table = verb at hstep h
  generalize b.run verb = b' at hstep h
  cases hstep with
  | opened ho hd => cases h
  | refused ho he =>
    cases h
    exact absurd he (TableVerb.guarded_draft hv)
  | frozen ho hhandles he => exact h
  | edited ho hhandles hb hd => exact h
  | failed ho hhandles hb he =>
    cases h
    subst hv
    exact absurd he (v.guarded_edit b.dialect table _ _)
  | setError message => cases v <;> cases hv
  | reset => cases h

/-- **Rendering fails only on emptiness.**  A table has SQL exactly if nothing in it is missing, and
no verb that takes a table leaves the error of rendering it.  A field has SQL exactly if there is
text under its aliases or it is all columns, and one that a text names exactly if the text is not
blank. -/
theorem rendering_fails_only_on_emptiness :
    (∀ table : Table, (∃ s, table.render = .ok s) ↔ table.isEmpty = false) ∧
    (∀ (b : Builder) (v : TableVerb) (table : Table),
      (b.run (v.on table)).error = some Table.blankError → b.error = some Table.blankError) ∧
    (∀ field : Field, (∃ s, field.render = .ok s) ↔ field.innermost = .star ∨
      ∃ text, (field.innermost = .column text ∨ field.innermost = .expression text) ∧
        isBlankText text = false) ∧
    ∀ s : String, (∃ t, (Field.parse s).render = .ok t) ↔ ∃ c ∈ s.toList, isBlank c = false :=
  ⟨fun _ => Table.exists_render_iff, fun _ _ _ => Builder.error_run_on,
    fun _ => Field.exists_render_iff, fun _ => Field.exists_render_parse_iff⟩

/-- A nested table with a text everywhere has SQL, a DELETE of a blank one fails by its own check, a
blank column has no SQL under any alias, and a no-break space names nothing. -/
theorem nested_rendering_fails_only_on_emptiness :
    (∃ s, (Table.list [.named "users",
      .aliased (.list [.named "roles", .subquery "SELECT 1"]) "r"]).render = .ok s) ∧
    ((Builder.new .mysql ⟨true⟩).run (TableVerb.delete.on (.named " "))).error ≠
      some Table.blankError ∧
    (¬∃ s, (Field.aliased (.aliased (.column " ") "a") "b").render = .ok s) ∧
    ¬∃ t, (Field.parse "\u00a0").render = .ok t := by
  obtain ⟨htable, hverb, hfield, hparse⟩ := rendering_fails_only_on_emptiness
  refine ⟨(htable _).mpr rfl, fun h => absurd (hverb _ .delete (.named " ") h) nofun, ?_, ?_⟩
  · rw [hfield]
    rintro (h | ⟨text, h | h, hblank⟩)
    · cases h
    · cases h
      exact absurd hblank (by decide)
    · cases h
  · rw [hparse]
    rintro ⟨c, hc, hblank⟩
    obtain rfl : c = '\u00a0' := by simpa using hc
    exact absurd hblank (by decide)

end FluentSql
