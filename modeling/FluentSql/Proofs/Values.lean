import FluentSql.Proofs.Transition

/-!
# The values that verbs carry

What is bound to the placeholders of a statement comes from the verbs and from nowhere else: a verb
that takes effect adds the values it carries at the end, in the order in which it carries them, and
a verb that opens a statement begins the list anew.

## Main definitions

* `Condition.values`, `Clause.values`, `Opening.values`, `Verb.values` — the values carried.
* `Builder.carriedOver` — the values that a verb finds and keeps.

## Main results

* `Clause.params_compile`, `Opening.params_draft` — compiling binds exactly the values carried.
* `Builder.params_run` — **what a verb does to the bound values.**
-/

namespace FluentSql

section Results

variable {α β ε : Type}

theorem bind_eq_ok_iff {x : Except ε α} {f : α → Except ε β} {b : β} :
    (x >>= f) = .ok b ↔ ∃ a, x = .ok a ∧ f a = .ok b := by
  cases x with
  | ok a => exact ⟨fun h => ⟨a, rfl, h⟩, fun ⟨_, ha, h⟩ => by cases ha; exact h⟩
  | error e => exact ⟨fun h => (by cases h), fun ⟨_, ha, _⟩ => (by cases ha)⟩

/-- A failure of two steps is a failure of the first, or of the second after the first. -/
theorem bind_eq_error_iff {x : Except ε α} {f : α → Except ε β} {e : ε} :
    (x >>= f) = .error e ↔ x = .error e ∨ ∃ a, x = .ok a ∧ f a = .error e := by
  cases x with
  | ok a => simp [bind, Except.bind]
  | error e' => simp [bind, Except.bind]

theorem pure_eq_ok_iff {a b : α} : (pure a : Except ε α) = .ok b ↔ a = b := by
  rw [pure, Except.instMonad]
  exact ⟨fun h => (by cases h; rfl), fun h => (by rw [h]; rfl)⟩

theorem ite_error_eq_ok_iff {p : Prop} [Decidable p] {e : ε} {x : Except ε α} {a : α} :
    (if p then .error e else x) = .ok a ↔ ¬p ∧ x = .ok a := by
  by_cases h : p
  · rw [if_pos h]
    exact ⟨fun hx => (by cases hx), fun hx => absurd h hx.1⟩
  · rw [if_neg h]
    exact ⟨fun hx => ⟨h, hx⟩, fun hx => hx.2⟩

end Results

/-! ### The values carried -/

def Operand.values : Operand → List Value
  | value v => [v]
  | list vs => vs
  | column _ | raw _ => []

def Condition.values : Condition → List Value
  | compare _ _ operand => operand.values
  | null .. | raw _ => []

def Filter.Node.values : Filter.Node → List Value
  | condition c => c.values
  | connective _ => []

def Filter.values (f : Filter) : List Value := f.nodes.flatMap Filter.Node.values

def Clause.values : Clause → List Value
  | filter conditions _ | having conditions => conditions.values
  | _ => []

/-- The values of an opening: those of all rows, of all assignments, or those given with a text. -/
def Opening.values : Opening → List Value
  | insert _ batch => batch.values
  | update _ assignments => assignments.map Prod.snd
  | raw _ params => params
  | _ => []

/-- The values of a verb. -/
def Verb.values : Verb → List Value
  | start opening => opening.values
  | clause c => c.values
  | like _ pattern _ => [pattern]
  | _ => []

/-! ### Compiling binds the values carried -/

theorem Condition.params_operandFragment {operand : Operand} {f : Fragment}
    (h : operandFragment operand = .ok f) : f.params = operand.values := by
  cases operand with
  | value v => cases h; rfl
  | raw sql => cases h; rfl
  | column field =>
    simp only [operandFragment, bind_eq_ok_iff, pure_eq_ok_iff] at h
    obtain ⟨_, -, rfl⟩ := h
    rfl
  | list vs =>
    simp only [operandFragment, ite_error_eq_ok_iff] at h
    cases h.2
    rfl

theorem Condition.params_compile {c : Condition} {f : Fragment} (h : c.compile = .ok f) :
    f.params = c.values := by
  cases c with
  | compare field operator operand =>
    simp only [compile, bind_eq_ok_iff, pure_eq_ok_iff] at h
    obtain ⟨_, -, right, hright, rfl⟩ := h
    show right.params = operand.values
    exact params_operandFragment hright
  | null field negated =>
    simp only [compile, bind_eq_ok_iff, pure_eq_ok_iff] at h
    obtain ⟨_, -, rfl⟩ := h
    rfl
  | raw sql =>
    simp only [compile, ite_error_eq_ok_iff] at h
    cases h.2
    rfl

theorem Filter.params_compileNodes {ns : List Filter.Node} {f : Fragment}
    (h : compileNodes ns = .ok f) : f.params = ns.flatMap Node.values := by
  induction ns generalizing f with
  | nil =>
    cases h
    rfl
  | cons n ns ih =>
    simp only [compileNodes, bind_eq_ok_iff, pure_eq_ok_iff] at h
    obtain ⟨first, hfirst, rest, hrest, rfl⟩ := h
    have hn : first.params = n.values := by
      cases n with
      | condition c => exact c.params_compile hfirst
      | connective c => cases hfirst; rfl
    rw [Fragment.params_append, hn, ih hrest, List.flatMap_cons]

/-- A filter that compiles has no error, and its parts compile. -/
theorem Filter.compile_eq_ok {c : Filter} {f : Fragment} (h : c.compile = .ok f) :
    c.error = none ∧ compileNodes c.nodes = .ok f := by
  cases he : c.error with
  | some e =>
    rw [compile, he] at h
    cases h
  | none =>
    simp only [compile, he, ite_error_eq_ok_iff] at h
    exact ⟨rfl, h.2⟩

/-- Compiling a filter binds the values of its parts, in their order. -/
theorem Filter.params_compile {c : Filter} {f : Fragment} (h : c.compile = .ok f) :
    f.params = c.values :=
  params_compileNodes (compile_eq_ok h).2

/-- Compiling a clause binds the values that it carries. -/
theorem Clause.params_compile {dialect : Dialect} {c : Clause} {f : Fragment}
    (h : c.compile dialect = .ok f) : f.params = c.values := by
  cases c with
  | filter conditions extra =>
    simp only [compile, ite_error_eq_ok_iff, bind_eq_ok_iff, pure_eq_ok_iff] at h
    obtain ⟨-, g, hg, rfl⟩ := h
    show g.params = conditions.values
    exact conditions.params_compile hg
  | having conditions =>
    simp only [compile, ite_error_eq_ok_iff, bind_eq_ok_iff, pure_eq_ok_iff] at h
    obtain ⟨-, g, hg, rfl⟩ := h
    show g.params = conditions.values
    exact conditions.params_compile hg
  | limit n => cases h; rfl
  | offset n => cases h; rfl
  | join table on request =>
    simp only [compile, ite_error_eq_ok_iff, bind_eq_ok_iff, pure_eq_ok_iff] at h
    obtain ⟨-, _, -, _, -, _, -, rfl⟩ := h
    rfl
  | orderBy keys =>
    simp only [compile, ite_error_eq_ok_iff, bind_eq_ok_iff, pure_eq_ok_iff] at h
    obtain ⟨-, _, -, rfl⟩ := h
    rfl
  | groupBy fields =>
    simp only [compile, ite_error_eq_ok_iff, bind_eq_ok_iff, pure_eq_ok_iff] at h
    obtain ⟨-, _, -, rfl⟩ := h
    rfl

/-- A clause that is left out carries no values. -/
theorem Clause.values_of_isSkipped {dialect : Dialect} {s : Statement} {c : Clause}
    (h : c.isSkipped dialect s = true) : c.values = [] := by
  cases c with
  | limit n => rfl
  | _ => cases h

theorem params_insertFragment {table : Table} {batch : Batch} {f : Fragment}
    (h : insertFragment table batch = .ok f) : f.params = batch.values := by
  simp only [insertFragment, ite_error_eq_ok_iff, bind_eq_ok_iff, pure_eq_ok_iff] at h
  obtain ⟨-, -, _, -, _, -, rfl⟩ := h
  rfl

theorem params_updateFragment {table : Table} {assignments : List Assignment} {f : Fragment}
    (h : updateFragment table assignments = .ok f) : f.params = assignments.map Prod.snd := by
  simp only [updateFragment, ite_error_eq_ok_iff, bind_eq_ok_iff, pure_eq_ok_iff] at h
  obtain ⟨-, _, -, _, -, rfl⟩ := h
  rfl

theorem params_deleteFragment {table : Table} {f : Fragment} (h : deleteFragment table = .ok f) :
    f.params = [] := by
  simp only [deleteFragment, ite_error_eq_ok_iff, bind_eq_ok_iff, pure_eq_ok_iff] at h
  obtain ⟨-, _, -, rfl⟩ := h
  rfl

theorem params_namedFragment {keywords name argument context : String} {f : Fragment}
    (h : namedFragment keywords name argument context = .ok f) : f.params = [] := by
  simp only [namedFragment, bind_eq_ok_iff, pure_eq_ok_iff] at h
  obtain ⟨_, -, rfl⟩ := h
  rfl

theorem params_rawFragment {sql : String} {params : List Value} {f : Fragment}
    (h : rawFragment sql params = .ok f) : f.params = params := by
  simp only [rawFragment, ite_error_eq_ok_iff] at h
  cases h.2.2
  rfl

/-- A new statement binds the values of its opening. -/
theorem Opening.params_draft {o : Opening} {d : Draft} (h : o.draft = .ok d) :
    d.statement.params = o.values := by
  cases o with
  | select selection =>
    simp only [draft, bind_eq_ok_iff, pure_eq_ok_iff] at h
    obtain ⟨_, -, rfl⟩ := h
    rfl
  | insert table batch =>
    simp only [draft, bind_eq_ok_iff, pure_eq_ok_iff] at h
    obtain ⟨f, hf, rfl⟩ := h
    exact params_insertFragment hf
  | update table assignments =>
    simp only [draft, bind_eq_ok_iff, pure_eq_ok_iff] at h
    obtain ⟨f, hf, rfl⟩ := h
    exact params_updateFragment hf
  | delete table =>
    simp only [draft, bind_eq_ok_iff, pure_eq_ok_iff] at h
    obtain ⟨f, hf, rfl⟩ := h
    exact params_deleteFragment hf
  | raw sql params =>
    simp only [draft, bind_eq_ok_iff, pure_eq_ok_iff] at h
    obtain ⟨f, hf, rfl⟩ := h
    exact params_rawFragment hf
  | _ =>
    simp only [draft, bind_eq_ok_iff, pure_eq_ok_iff] at h
    obtain ⟨f, hf, rfl⟩ := h
    exact params_namedFragment hf

/-! ### What verbs do to the bound values -/

/-- A clause that is added binds the values that it carries. -/
theorem Draft.params_addClause {dialect : Dialect} {c : Clause} {d d' : Draft}
    (h : addClause dialect c d = .ok () d') :
    d'.statement.params = d.statement.params ++ c.values := by
  obtain ⟨-, ⟨hskip, rfl⟩ | ⟨f, hf, rfl⟩⟩ := addClause_eq_ok h
  · rw [Clause.values_of_isSkipped hskip, List.append_nil]
  · rw [← Clause.params_compile hf]
    exact Statement.params_extend _ _

namespace Builder

variable {b : Builder} {v : Verb}

/-- A change adds the values of its verb. -/
theorem params_edit {d : Draft} (ho : b.opens v = false)
    (h : v.edit b.dialect b.draft = .ok () d) : d.statement.params = b.params ++ v.values := by
  cases v with
  | start opening =>
    cases opening with
    | select s =>
      obtain ⟨_, _, -, rfl⟩ := Draft.addSelection_eq_ok h
      exact (List.append_nil _).symm
    | _ => cases ho
  | clause c => exact Draft.params_addClause h
  | like field pattern negated => exact Draft.params_addClause (Verb.edit_clause rfl h)
  | nullTest field negated => exact Draft.params_addClause (Verb.edit_clause rfl h)
  | combine c =>
    obtain ⟨-, -, rfl⟩ := Draft.combine_eq_ok h
    exact (List.append_nil _).symm
  | combineSelect c table =>
    obtain ⟨-, -, _, _, -, -, rfl⟩ := Draft.combineSelect_eq_ok h
    exact (List.append_nil _).symm
  | createView name ifNotExists =>
    obtain ⟨-, -, rfl⟩ := Draft.createView_eq_ok h
    exact (List.append_nil _).symm
  | setError _ =>
    cases h
    exact (List.append_nil _).symm
  | reset =>
    cases h
    exact (List.append_nil _).symm

/-- The bound values that a verb finds and keeps: none if it drops the statement. -/
def carriedOver (b : Builder) (v : Verb) : List Value := if b.restarts v then [] else b.params

/-- **What a verb does to the bound values.**  If it leaves an error they stay as they are, and
otherwise its own values come after those that it keeps. -/
theorem params_run (b : Builder) (v : Verb) :
    (b.run v).params =
      if (b.run v).hasError then b.params else b.carriedOver v ++ v.values := by
  have hstep := b.step_run v
  generalize b.run v = b' at hstep ⊢
  cases hstep with
  | opened ho hd =>
    rw [carriedOver, restarts_of_opens ho]
    exact Opening.params_draft hd
  | refused ho he => rfl
  | failed ho hv hb he => rfl
  | reset => rfl
  | frozen ho hv he =>
    -- the error from before is still there
    rw [hasError, he]
    rfl
  | edited ho hv hb hd =>
    rw [carriedOver, restarts_eq_opens hv, ho, hasError, hb]
    exact params_edit ho hd
  | setError message =>
    rw [Builder.setError]
    split
    · exact (List.append_nil _).symm
    · rfl

end Builder

end FluentSql
