import FluentSql.Proofs.Values

/-!
# Other values in the same places

A function from values to values may be applied to everything that a verb carries, or to everything
that a builder has bound.  It makes no difference which comes first, the replacement or the verb: no
verb looks at the values that it carries.

## Main definitions

* `Verb.mapValues`, `Builder.mapValues` — other values in a verb, and in a builder.
* `Edit.Natural` — a change that commutes with the replacement.

## Main results

* `Clause.compile_mapValues`, `Opening.draft_mapValues` — compiling commutes with the replacement.
* `Builder.run_mapValues` — **so does every verb.**
* `Builder.text_mapValues`, `Builder.sql_compile_mapValues` — the replacement is not to be seen in
  the text of a statement.
-/

namespace FluentSql

/-! ### Replacing values -/

def Operand.mapValues (f : Value → Value) : Operand → Operand
  | value v => value (f v)
  | list vs => list (vs.map f)
  | column field => column field
  | raw sql => raw sql

def Condition.mapValues (f : Value → Value) : Condition → Condition
  | compare field operator operand => compare field operator (operand.mapValues f)
  | null field negated => null field negated
  | raw sql => raw sql

def Filter.Node.mapValues (f : Value → Value) : Filter.Node → Filter.Node
  | condition c => condition (c.mapValues f)
  | connective c => connective c

def Filter.mapValues (f : Value → Value) (c : Filter) : Filter :=
  { c with nodes := c.nodes.map (Node.mapValues f) }

def Clause.mapValues (f : Value → Value) : Clause → Clause
  | filter conditions extra => filter (conditions.mapValues f) extra
  | having conditions => having (conditions.mapValues f)
  | join table on request => join table on request
  | limit n => limit n
  | offset n => offset n
  | orderBy keys => orderBy keys
  | groupBy fields => groupBy fields

def Batch.mapValues (f : Value → Value) (b : Batch) : Batch := ⟨b.columns, b.rows.map (List.map f)⟩

def Assignment.mapValue (f : Value → Value) (a : Assignment) : Assignment := (a.1, f a.2)

def Opening.mapValues (f : Value → Value) : Opening → Opening
  | insert table batch => insert table (batch.mapValues f)
  | update table assignments => update table (assignments.map (Assignment.mapValue f))
  | raw sql params => raw sql (params.map f)
  | select selection => select selection
  | delete table => delete table
  | dropView name ifExists => dropView name ifExists
  | dropTable name ifExists => dropTable name ifExists
  | truncate name => truncate name

/-- Other values in a verb. -/
def Verb.mapValues (f : Value → Value) : Verb → Verb
  | start opening => start (opening.mapValues f)
  | clause c => clause (c.mapValues f)
  | like field pattern negated => like field (f pattern) negated
  | nullTest field negated => nullTest field negated
  | combine c => combine c
  | combineSelect c table => combineSelect c table
  | createView name ifNotExists => createView name ifNotExists
  | setError message => setError message
  | reset => reset

def Fragment.mapValues (f : Value → Value) (g : Fragment) : Fragment := ⟨g.sql, g.params.map f⟩

def Statement.mapValues (f : Value → Value) (s : Statement) : Statement :=
  { s with params := s.params.map f }

def Draft.mapValues (f : Value → Value) (d : Draft) : Draft :=
  { d with statement := d.statement.mapValues f }

/-- Other values bound in a builder. -/
def Builder.mapValues (f : Value → Value) (b : Builder) : Builder :=
  { b with draft := b.draft.mapValues f }

/-! ### Compiling commutes with the replacement -/

section Compiling

variable (f : Value → Value)

theorem Condition.operandFragment_mapValues (operand : Operand) :
    operandFragment (operand.mapValues f) =
      (operandFragment operand).map (Fragment.mapValues f) := by
  cases operand with
  | value v => rfl
  | raw sql => rfl
  | column field =>
    rw [Operand.mapValues, operandFragment]
    cases field.render <;> rfl
  | list vs =>
    rw [Operand.mapValues, operandFragment, operandFragment, List.isEmpty_map, List.length_map]
    split <;> rfl

theorem Condition.compile_mapValues (c : Condition) :
    (c.mapValues f).compile = c.compile.map (Fragment.mapValues f) := by
  cases c with
  | compare field operator operand =>
    rw [mapValues, compile, compile, operandFragment_mapValues]
    cases field.render with
    | error e => rfl
    | ok left => cases operandFragment operand <;> rfl
  | null field negated =>
    rw [mapValues, compile]
    cases field.render <;> rfl
  | raw sql =>
    rw [mapValues, compile]
    split <;> rfl

theorem Filter.compileNodes_mapValues (ns : List Filter.Node) :
    compileNodes (ns.map (Node.mapValues f)) =
      (compileNodes ns).map (Fragment.mapValues f) := by
  induction ns with
  | nil => rfl
  | cons n ns ih =>
    have hn : (n.mapValues f).compile = n.compile.map (Fragment.mapValues f) := by
      cases n with
      | condition c => exact c.compile_mapValues f
      | connective c => rfl
    rw [List.map_cons, compileNodes, compileNodes, hn, ih]
    cases n.compile with
    | error e => rfl
    | ok first =>
      cases compileNodes ns with
      | error e => rfl
      | ok rest =>
        show Except.ok (Fragment.mk _ _) = Except.ok (Fragment.mk _ _)
        rw [Fragment.params_append, List.map_append]
        rfl

theorem Filter.isEmpty_mapValues (c : Filter) : (c.mapValues f).isEmpty = c.isEmpty := by
  rw [mapValues, isEmpty, isEmpty, List.isEmpty_map]

theorem Filter.compile_mapValues (c : Filter) :
    (c.mapValues f).compile = c.compile.map (Fragment.mapValues f) := by
  rw [compile, compile, mapValues]
  cases c.error with
  | some e => rfl
  | none =>
    simp only [List.isEmpty_map, compileNodes_mapValues]
    split <;> rfl

/-- Compiling a clause commutes with the replacement. -/
theorem Clause.compile_mapValues (dialect : Dialect) (c : Clause) :
    (c.mapValues f).compile dialect = (c.compile dialect).map (Fragment.mapValues f) := by
  cases c with
  | filter conditions extra =>
    rw [mapValues, compile, compile, Filter.isEmpty_mapValues, Filter.compile_mapValues]
    split
    · rfl
    · cases conditions.compile <;> rfl
  | having conditions =>
    rw [mapValues, compile, compile, Filter.isEmpty_mapValues, Filter.compile_mapValues]
    split
    · rfl
    · cases conditions.compile <;> rfl
  | limit n => rfl
  | offset n => rfl
  | join table on request =>
    rw [mapValues, compile]
    split
    · rfl
    · cases dialect.resolveJoin request with
      | error e => rfl
      | ok type =>
        cases table.render with
        | error e => rfl
        | ok source => cases onText on <;> rfl
  | orderBy keys =>
    rw [mapValues, compile]
    split
    · rfl
    · cases keyTexts keys <;> rfl
  | groupBy fields =>
    rw [mapValues, compile]
    split
    · rfl
    · cases Field.renderList fields <;> rfl

/-! ### Openings commute with the replacement -/

theorem Batch.values_mapValues (b : Batch) : (b.mapValues f).values = b.values.map f := by
  rw [mapValues, values, values, List.map_flatten]

theorem Batch.isRectangular_mapValues (b : Batch) :
    (b.mapValues f).isRectangular = b.isRectangular := by
  rw [mapValues, isRectangular, isRectangular, List.all_map]
  congr 1
  funext row
  rw [Function.comp_apply, List.length_map]

theorem insertFragment_mapValues (table : Table) (batch : Batch) :
    insertFragment table (batch.mapValues f) =
      (insertFragment table batch).map (Fragment.mapValues f) := by
  have hcolumns : (batch.mapValues f).columns = batch.columns := rfl
  have hempty : (batch.mapValues f).rows.isEmpty = batch.rows.isEmpty := List.isEmpty_map
  have hlength : (batch.mapValues f).rows.length = batch.rows.length := List.length_map _
  simp only [insertFragment, hcolumns, hempty, hlength, Batch.isRectangular_mapValues,
    Batch.values_mapValues]
  split
  · rfl
  · split
    · rfl
    · cases table.render with
      | error e => rfl
      | ok source => cases Field.renderList (batch.columns.map Field.parse) <;> rfl

theorem assignmentTexts_mapValues (assignments : List Assignment) :
    assignmentTexts (assignments.map (Assignment.mapValue f)) = assignmentTexts assignments := by
  induction assignments with
  | nil => rfl
  | cons a assignments ih =>
    obtain ⟨column, v⟩ := a
    rw [List.map_cons, Assignment.mapValue, assignmentTexts, assignmentTexts, ih]

theorem updateFragment_mapValues (table : Table) (assignments : List Assignment) :
    updateFragment table (assignments.map (Assignment.mapValue f)) =
      (updateFragment table assignments).map (Fragment.mapValues f) := by
  have hvalues : (assignments.map (Assignment.mapValue f)).map Prod.snd =
      (assignments.map Prod.snd).map f := by
    rw [List.map_map, List.map_map]
    rfl
  rw [updateFragment, updateFragment, List.isEmpty_map, assignmentTexts_mapValues, hvalues]
  split
  · rfl
  · cases assignmentTexts assignments with
    | error e => rfl
    | ok sets => cases table.render <;> rfl

theorem rawFragment_mapValues (sql : String) (params : List Value) :
    rawFragment sql (params.map f) = (rawFragment sql params).map (Fragment.mapValues f) := by
  simp only [rawFragment, List.length_map]
  split
  · rfl
  · split <;> rfl

/-- The statement that an opening starts commutes with the replacement. -/
theorem Opening.draft_mapValues (o : Opening) :
    (o.mapValues f).draft = o.draft.map (Draft.mapValues f) := by
  cases o with
  | select selection =>
    rw [mapValues, draft]
    cases selection.compile <;> rfl
  | insert table batch =>
    rw [mapValues, draft, draft, insertFragment_mapValues]
    cases insertFragment table batch <;> rfl
  | update table assignments =>
    rw [mapValues, draft, draft, updateFragment_mapValues]
    cases updateFragment table assignments <;> rfl
  | delete table =>
    rw [mapValues, draft, deleteFragment]
    split
    · rfl
    · cases table.render <;> rfl
  | raw sql params =>
    rw [mapValues, draft, draft, rawFragment_mapValues]
    cases rawFragment sql params <;> rfl
  | dropView name ifExists =>
    rw [mapValues, draft, namedFragment]
    cases requireName name "view_name" "QueryBuilder::drop_view" <;> rfl
  | dropTable name ifExists =>
    rw [mapValues, draft, namedFragment]
    cases requireName name "table" "QueryBuilder::drop" <;> rfl
  | truncate name =>
    rw [mapValues, draft, namedFragment]
    cases requireName name "table" "QueryBuilder::truncate" <;> rfl

end Compiling

/-! ### Changes in place commute with the replacement -/

namespace Edit

variable {α β γ δ : Type}

/-- A change commutes with the replacement if the other one does the same to the draft with other
values, and gives the same result but for some function of it. -/
def Natural (f : Value → Value) (g : α → β) (x : Edit α) (y : Edit β) : Prop :=
  ∀ d, y (d.mapValues f) = match x d with
    | .ok a d' => .ok (g a) (d'.mapValues f)
    | .error e d' => .error e (d'.mapValues f)

variable {f : Value → Value} {g : α → β} {h : γ → δ}

theorem natural_bind {x : Edit α} {y : Edit β} {k : α → Edit γ} {k' : β → Edit δ}
    (hx : Natural f g x y) (hk : ∀ a, Natural f h (k a) (k' (g a))) :
    Natural f h (x >>= k) (y >>= k') := by
  intro d
  rw [bind_apply, bind_apply, hx d]
  cases x d with
  | ok a d' => exact hk a d'
  | error e d' => rfl

theorem natural_get : Natural f (Draft.mapValues f) get get := fun _ => rfl

theorem natural_pure (u : Unit) : Natural f id (pure u) (pure u) := fun _ => rfl

theorem natural_failIf (p : Prop) [Decidable p] (e : Error) :
    Natural f id (failIf p e) (failIf p e) := by
  intro d
  by_cases hp : p
  · simp only [failIf_apply, if_pos hp]
  · simp only [failIf_apply, if_neg hp, id]

theorem natural_check (r : Except Error α) : Natural f g (check r) (check (r.map g)) := by
  intro d
  cases r <;> rfl

theorem natural_check_self (r : Except Error α) : Natural f id (check r) (check r) := by
  intro d
  cases r <;> rfl

theorem natural_onStatement {change change' : Statement → Statement}
    (hc : ∀ s, change' (s.mapValues f) = (change s).mapValues f) :
    Natural f id (onStatement change) (onStatement change') := by
  intro d
  simp only [onStatement_apply, id]
  congr 1
  show Draft.mk _ _ = Draft.mk _ _
  rw [← hc]
  rfl

theorem natural_remember (projection : List Field) :
    Natural f id (remember projection) (remember projection) := fun _ => rfl

end Edit

namespace Draft

open Edit

variable (f : Value → Value)

theorem isSkipped_mapValues (dialect : Dialect) (s : Statement) (c : Clause) :
    (c.mapValues f).isSkipped dialect (s.mapValues f) = c.isSkipped dialect s := by
  cases c <;> rfl

theorem context_mapValues (c : Clause) : (c.mapValues f).context = c.context := by
  cases c <;> rfl

theorem append_mapValues (s : Statement) (sql : String) :
    (s.mapValues f).append sql = (s.append sql).mapValues f := by
  have hsections : (s.mapValues f).sections = s.sections := rfl
  rw [Statement.append, Statement.append, hsections]
  split <;> rfl

theorem extendParams_mapValues (s : Statement) (vs : List Value) :
    (s.mapValues f).extendParams (vs.map f) = (s.extendParams vs).mapValues f := by
  show Statement.mk _ _ _ _ (s.params.map f ++ vs.map f) = Statement.mk _ _ _ _ _
  rw [← List.map_append]
  rfl

theorem natural_addClause (dialect : Dialect) (c : Clause) :
    Natural f id (addClause dialect c) (addClause dialect (c.mapValues f)) := by
  refine natural_bind natural_get fun d => ?_
  rw [context_mapValues]
  refine natural_bind (natural_failIf _ _) fun _ => ?_
  rw [show (d.mapValues f).statement = d.statement.mapValues f from rfl, isSkipped_mapValues]
  split
  · exact natural_pure ()
  · rw [Clause.compile_mapValues]
    refine natural_bind (natural_check _) fun g => ?_
    refine natural_bind (natural_onStatement fun s => append_mapValues f s g.sql) fun _ => ?_
    exact natural_onStatement fun s => extendParams_mapValues f s g.params

theorem natural_addSelection (s : Selection) :
    Natural f id (addSelection s) (addSelection s) := by
  refine natural_bind (natural_check_self _) fun p => ?_
  refine natural_bind (natural_onStatement fun s => rfl) fun _ => ?_
  exact natural_remember _

theorem natural_combine (c : Combination) : Natural f id (combine c) (combine c) := by
  refine natural_bind natural_get fun d => ?_
  refine natural_bind (natural_failIf _ _) fun _ => ?_
  exact natural_onStatement fun s => rfl

theorem natural_combineSelect (c : Combination) (table : Table) :
    Natural f id (combineSelect c table) (combineSelect c table) := by
  refine natural_bind natural_get fun d => ?_
  refine natural_bind (natural_failIf _ _) fun _ => ?_
  refine natural_bind (natural_failIf _ _) fun _ => ?_
  refine natural_bind (natural_failIf _ _) fun _ => ?_
  refine natural_bind (natural_failIf _ _) fun _ => ?_
  refine natural_bind (natural_check_self _) fun fields => ?_
  refine natural_bind (natural_check_self _) fun source => ?_
  refine natural_bind (natural_onStatement fun s => rfl) fun _ => ?_
  exact natural_onStatement fun s => rfl

theorem natural_createView (name : String) (ifNotExists : Bool) :
    Natural f id (createView name ifNotExists) (createView name ifNotExists) := by
  refine natural_bind (natural_check_self _) fun name => ?_
  refine natural_bind natural_get fun d => ?_
  refine natural_bind (natural_failIf _ _) fun _ => ?_
  exact natural_onStatement fun s => rfl

end Draft

/-- The change of a verb commutes with the replacement. -/
theorem Verb.natural_edit (f : Value → Value) (dialect : Dialect) (v : Verb) :
    Edit.Natural f id (v.edit dialect) ((v.mapValues f).edit dialect) := by
  cases v with
  | start opening =>
    cases opening with
    | select s => exact Draft.natural_addSelection f s
    | _ => exact Edit.natural_pure ()
  | clause c => exact Draft.natural_addClause f dialect c
  | like field pattern negated =>
    exact Edit.natural_bind (Edit.natural_failIf _ _) fun _ => Draft.natural_addClause f dialect _
  | nullTest field negated =>
    exact Edit.natural_bind (Edit.natural_failIf _ _) fun _ => Draft.natural_addClause f dialect _
  | combine c => exact Draft.natural_combine f c
  | combineSelect c table => exact Draft.natural_combineSelect f c table
  | createView name ifNotExists => exact Draft.natural_createView f name ifNotExists
  | setError message => exact Edit.natural_pure ()
  | reset => exact Edit.natural_pure ()

/-! ### Verbs commute with the replacement -/

namespace Builder

variable (f : Value → Value)

@[simp] theorem error_mapValues (b : Builder) : (b.mapValues f).error = b.error := rfl

@[simp] theorem dialect_mapValues (b : Builder) : (b.mapValues f).dialect = b.dialect := rfl

@[simp] theorem params_mapValues (b : Builder) : (b.mapValues f).params = b.params.map f := rfl

/-- The replacement is not to be seen in the text. -/
@[simp] theorem text_mapValues (b : Builder) : (b.mapValues f).text = b.text := rfl

@[simp] theorem isCompound_mapValues (b : Builder) :
    (b.mapValues f).statement.isCompound = b.statement.isCompound := rfl

theorem compile_mapValues (b : Builder) :
    (b.mapValues f).compile = b.compile.map (Fragment.mapValues f) := by
  have hcheck : (b.mapValues f).check = b.check := rfl
  have hempty : (b.mapValues f).statement.isEmpty = b.statement.isEmpty := rfl
  have hpending : (b.mapValues f).draft.needsSection = b.draft.needsSection := rfl
  rw [compile, compile, hcheck, hempty, hpending]
  cases b.check with
  | error e => rfl
  | ok u => cases b.statement.isEmpty <;> cases b.draft.needsSection <;> rfl

/-- Nor is it in the text that is sent. -/
theorem sql_compile_mapValues (b : Builder) :
    (b.mapValues f).compile.map Fragment.sql = b.compile.map Fragment.sql := by
  rw [compile_mapValues]
  cases b.compile <;> rfl

theorem start_mapValues (b : Builder) (d : Except Error Draft) :
    (b.mapValues f).start (d.map (Draft.mapValues f)) = (b.start d).mapValues f := by
  cases d <;> rfl

theorem extend_mapValues (b : Builder) {x y : Edit Unit} (h : Edit.Natural f id x y) :
    (b.mapValues f).extend y = (b.extend x).mapValues f := by
  rw [extend, extend, error_mapValues]
  cases b.error with
  | some e => rfl
  | none =>
    have hdraft : (b.mapValues f).draft = b.draft.mapValues f := rfl
    simp only [hdraft, h b.draft]
    cases x b.draft <;> rfl

theorem opens_mapValues (b : Builder) (v : Verb) :
    (b.mapValues f).opens (v.mapValues f) = b.opens v := by
  cases v with
  | start opening => cases opening <;> rfl
  | _ => rfl

theorem handlesError_mapValues (v : Verb) : (v.mapValues f).handlesError = v.handlesError := by
  cases v <;> rfl

theorem setError_mapValues (b : Builder) (message : String) :
    (b.mapValues f).setError message = (b.setError message).mapValues f := by
  rw [setError, setError]
  split <;> rfl

/-- **A verb commutes with the replacement.** -/
theorem run_mapValues (b : Builder) (v : Verb) :
    (b.mapValues f).run (v.mapValues f) = (b.run v).mapValues f := by
  have hopens := b.opens_mapValues f v
  have hhandles := handlesError_mapValues f v
  cases ho : b.opens v with
  | true =>
    obtain ⟨opening, rfl⟩ := isStarting_of_opens ho
    rw [ho] at hopens
    rw [run_of_opens ho, Verb.mapValues, run_of_opens hopens, Opening.draft_mapValues,
      start_mapValues]
  | false =>
    cases hv : v.handlesError with
    | false =>
      rw [ho] at hopens
      rw [hv] at hhandles
      rw [run_of_not_opens ho hv, run_of_not_opens hopens hhandles, dialect_mapValues]
      exact b.extend_mapValues f (v.natural_edit f b.dialect)
    | true =>
      cases v with
      | setError message => exact b.setError_mapValues f message
      | reset => rfl
      | _ => cases hv

end Builder

end FluentSql
