import FluentSql.Proofs.Growth

/-!
# Extending a statement

As long as no verb takes up a new statement, what was written stays written: the text and the
parameters are only added to at the end, through any number of sections, while a set operator waits
and after it has got its section, and whether a verb succeeds or fails.  The definition of a view is
put in front of the text, and it changes nothing else.

## Main definitions

* `Statement.Extends` — one statement is another with more at its end.
* `Builder.Extending` — a run of verbs none of which takes up a statement or defines a view.
* `Builder.withView` — a builder with another header.

## Main results

* `Builder.extends_run`, `Builder.extends_runAll` — a verb that takes up no statement, and a run of
  such verbs, add at the end.
* `Builder.run_createView` — the definition of a view touches the header and the error alone.
* `Builder.only_appends` — **both, for every verb and in every state.**
-/

namespace FluentSql

namespace Statement

/-- A statement has the text and the parameters of another one in front, and adds to both at the
end, be it nothing. -/
structure Extends (s s' : Statement) : Prop where
  text : ∃ added, s'.render = s.render ++ added
  params : ∃ added, s'.params = s.params ++ added

variable {s s' s'' : Statement}

theorem Extends.refl (s : Statement) : s.Extends s :=
  ⟨⟨"", String.append_empty.symm⟩, ⟨[], (List.append_nil _).symm⟩⟩

theorem Extends.trans (h : s.Extends s') (h' : s'.Extends s'') : s.Extends s'' := by
  obtain ⟨⟨text, htext⟩, ⟨params, hparams⟩⟩ := h
  obtain ⟨⟨text', htext'⟩, ⟨params', hparams'⟩⟩ := h'
  constructor
  · exact ⟨text ++ text', by rw [htext', htext, String.append_assoc]⟩
  · exact ⟨params ++ params', by rw [hparams', hparams, List.append_assoc]⟩

/-- Where the header stays, what is added to the sections is added to the whole. -/
theorem render_of_body {added : String} (hheader : s'.header = s.header)
    (hbody : s'.body = s.body ++ added) : s'.render = s.render ++ added := by
  rw [render_eq, render_eq, hheader, hbody, String.append_assoc]

end Statement

namespace Builder

variable {b : Builder} {v : Verb}

/-! ### Verbs that add at the end -/

/-- A change that is no definition of a view adds at the end. -/
theorem extends_edit {d : Draft} (ho : b.opens v = false) (hv : v.handlesError = false)
    (hview : v.isView = false) (h : v.edit b.dialect b.draft = .ok () d) :
    b.statement.Extends d.statement := by
  obtain ⟨added, hgrows⟩ := Draft.grows_edit ho hv h
  have htext : d.statement.render = b.statement.render ++ added :=
    Statement.render_of_body (hgrows.header hview) hgrows.body
  have hparams : d.statement.params = b.statement.params ++ v.values := params_edit ho h
  exact ⟨⟨added, htext⟩, ⟨v.values, hparams⟩⟩

/-- **A verb that takes up no statement adds at the end**, or leaves what there is. -/
theorem extends_run (hr : b.restarts v = false) (hview : v.isView = false) :
    b.statement.Extends (b.run v).statement := by
  have hsame := Statement.Extends.refl b.statement
  have hstep := b.step_run v
  generalize b.run v = b' at hstep ⊢
  cases hstep with
  | opened ho hd =>
    rw [restarts_of_opens ho] at hr
    cases hr
  | edited ho hv hb hd => exact extends_edit ho hv hview hd
  | reset => cases hr
  | setError message =>
    rw [setError]
    split <;> exact hsame
  | refused ho he => exact hsame
  | frozen ho hv he => exact hsame
  | failed ho hv hb he => exact hsame

/-- No verb of a run takes up a statement or forgets the one there is, and none puts a view in front
of it. -/
def Extending (b : Builder) : List Verb → Prop
  | [] => True
  | v :: vs => b.restarts v = false ∧ v.isView = false ∧ (b.run v).Extending vs

/-- **A run that takes up no statement adds at the end.** -/
theorem extends_runAll {vs : List Verb} (h : b.Extending vs) :
    b.statement.Extends (b.runAll vs).statement := by
  induction vs generalizing b with
  | nil => exact Statement.Extends.refl b.statement
  | cons v vs ih =>
    obtain ⟨hr, hview, hrest⟩ := h
    have hfirst : b.statement.Extends (b.run v).statement := extends_run hr hview
    exact hfirst.trans (ih hrest)

/-! ### The definition of a view -/

/-- The builder with another view in its header and another error. -/
def withView (b : Builder) (view : Option ViewHeader) (error : Option Error) : Builder :=
  { b with draft := ⟨{ b.statement with view := view }, b.draft.projection⟩, error := error }

/-- **The definition of a view touches the header and the error alone**; and it leaves the header
that it names unless it leaves an error. -/
theorem run_createView (b : Builder) (name : String) (ifNotExists : Bool) :
    ∃ view error, b.run (.createView name ifNotExists) = b.withView view error ∧
      (error = none → view = some ⟨trimmed name, ifNotExists⟩) := by
  have hstep := b.step_run (.createView name ifNotExists)
  generalize b.run (.createView name ifNotExists) = b' at hstep ⊢
  cases hstep with
  | frozen ho hv he =>
    refine ⟨b.statement.view, b.error, rfl, fun hnone => ?_⟩
    rw [he] at hnone
    cases hnone
  | failed ho hv hb he => exact ⟨b.statement.view, some _, rfl, fun hnone => by cases hnone⟩
  | edited ho hv hb hd =>
    obtain ⟨-, -, rfl⟩ := Draft.createView_eq_ok hd
    refine ⟨some ⟨trimmed (trimmed name), ifNotExists⟩, b.error, rfl, fun _ => ?_⟩
    -- the name is trimmed where it is checked and where it is written
    rw [trimmed_trimmed]

/-- **Verbs that take up no statement only add to it.**  In every state, a verb that neither takes
up a statement nor forgets the one there is leaves the text and the parameters as they were, with
something at the end or nothing, whether it succeeds or fails.  The definition of a view changes the
text in front of the sections and no part of the builder but the header and the error. -/
theorem only_appends (b : Builder) (v : Verb) (hr : b.restarts v = false) :
    (v.isView = false →
      (∃ added, (b.run v).text = b.text ++ added) ∧
        ∃ added, (b.run v).params = b.params ++ added) ∧
    (v.isView = true →
      (∃ view error, b.run v = b.withView view error) ∧
        b.text = b.statement.header ++ b.statement.body ∧
        (b.run v).text = (b.run v).statement.header ++ b.statement.body) := by
  constructor
  · intro hview
    have hextends : b.statement.Extends (b.run v).statement := extends_run hr hview
    exact ⟨hextends.text, hextends.params⟩
  · intro hview
    cases v with
    | createView name ifNotExists =>
      obtain ⟨view, error, heq, -⟩ := b.run_createView name ifNotExists
      refine ⟨⟨view, error, heq⟩, Statement.render_eq _, ?_⟩
      rw [heq]
      exact Statement.render_eq _
    | _ => cases hview

/-- A SELECT with a condition, and a UNION that waits. -/
def waitingUnion : Builder :=
  (new .sqlite .default).runAll
    [.select (.named "users") [.star],
      .filter ⟨[.condition (.compare (.column "id") .equal (.value (.int32 1)))], none⟩,
      .combine (.union false)]

/-- The SELECT that the UNION waits for adds at the end, and so does a limit that fails; the view is
put in front of the two sections. -/
theorem only_appends_waitingUnion :
    waitingUnion.text = "SELECT * FROM `users` WHERE (`id` = ?) UNION" ∧
      (∃ added, (waitingUnion.run (.select (.named "groups") [.star])).text =
        waitingUnion.text ++ added) ∧
      (∃ added, (waitingUnion.run (.limit 5)).params = waitingUnion.params ++ added) ∧
      ∃ view error,
        ((waitingUnion.run (.select (.named "groups") [.star])).run (.createView "v" true)) =
          (waitingUnion.run (.select (.named "groups") [.star])).withView view error :=
  ⟨rfl, ((only_appends waitingUnion (.select (.named "groups") [.star]) rfl).1 rfl).1,
    ((only_appends waitingUnion (.limit 5) rfl).1 rfl).2,
    ((only_appends (waitingUnion.run (.select (.named "groups") [.star])) (.createView "v" true)
      rfl).2 rfl).1⟩

end Builder

end FluentSql
