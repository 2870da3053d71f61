import FluentSql.Proofs.Composition
import Mathlib.Data.List.Induction

/-!
# Set operators that a statement holds once

EXCEPT and INTERSECT are meant to stand in a statement at most once.  The verb that adds the
operator together with its SELECT checks that; the verb that asks for the operator alone does not.
So the operator stands there once as long as nobody asks for it alone a second time.

## Main definitions

* `Statement.occurrences` — how often a statement holds an operator, the one that waits included.
* `Builder.Repeats` — a verb is taken though the statement holds its operator already.
* `Builder.RefusesAgain` — what comes of asking for an operator that the statement holds.

## Main results

* `Builder.occurrences_run` — how often an operator is held after a verb.
* `Builder.occurrences_le_one_iff` — **an operator is held once exactly if no verb repeats it**, and
  what comes of asking again.
* `Builder.exceptTwice_is_taken` — a second EXCEPT that is not refused.
-/

namespace FluentSql

namespace Statement

/-! ### Counting -/

/-- What stands in front of the sections, and what waits for one. -/
def operators (s : Statement) : List (Option SetOperator) :=
  s.sections.map Section.operator ++ [s.pending]

/-- How often an operator stands before a section or waits for one. -/
def occurrences (s : Statement) (operator : SetOperator) : Nat := s.operators.count (some operator)

variable {s : Statement} {operator : SetOperator} {sql : String}

theorem holdsOperator_iff_pos : s.holdsOperator operator = true ↔ 0 < s.occurrences operator := by
  simp only [occurrences, operators, holdsOperator, List.count_pos_iff, List.mem_append,
    List.mem_map, List.mem_singleton, Bool.or_eq_true, List.any_eq_true, beq_iff_eq]
  rw [or_comm, @eq_comm _ s.pending]

theorem operators_pushSection (s : Statement) (sql : String) :
    (s.pushSection sql).operators = s.operators ++ [none] := by
  simp [operators, pushSection]

/-- A section takes up the operator that waited for it. -/
theorem occurrences_pushSection (s : Statement) (sql : String) :
    (s.pushSection sql).occurrences operator = s.occurrences operator := by
  simp [occurrences, operators_pushSection]

theorem map_operator_appendLast (sql : String) (parts : List Section) :
    (appendLast sql parts).map Section.operator = parts.map Section.operator := by
  induction parts with
  | nil => rfl
  | cons first rest ih =>
    cases rest with
    | nil => rfl
    | cons second rest => rw [appendLast, List.map_cons, ih, ← List.map_cons]

theorem occurrences_append (s : Statement) (sql : String) :
    (s.append sql).occurrences operator = s.occurrences operator := by
  rw [append]
  split
  · exact occurrences_pushSection s sql
  · rw [occurrences, operators, map_operator_appendLast]
    rfl

theorem occurrences_extend (s : Statement) (f : Fragment) :
    (s.extend f).occurrences operator = s.occurrences operator :=
  occurrences_append s f.sql

/-- An operator that begins to wait is held once more. -/
theorem occurrences_beginCompound (hp : s.pending = none) (asked : SetOperator) :
    (s.beginCompound asked).occurrences operator =
      s.occurrences operator + if asked = operator then 1 else 0 := by
  simp only [occurrences, operators, beginCompound, hp, List.count_append, List.count_singleton]
  by_cases h : asked = operator <;> simp [h]

end Statement

/-- The set operator that a verb asks for. -/
def Verb.operator? : Verb → Option SetOperator
  | .combine c | .combineSelect c _ => some c.operator
  | _ => none

/-- A new statement holds no operator. -/
theorem Opening.occurrences_draft {o : Opening} {d : Draft} (h : o.draft = .ok d)
    (operator : SetOperator) : d.statement.occurrences operator = 0 := by
  cases o with
  | _ =>
    simp only [draft, bind_eq_ok_iff, pure_eq_ok_iff] at h
    obtain ⟨_, -, rfl⟩ := h
    rfl

namespace Draft

variable {dialect : Dialect} {clause : Clause} {c : Combination} {table : Table} {d d' : Draft}

theorem occurrences_addClause (h : addClause dialect clause d = .ok () d')
    (operator : SetOperator) :
    d'.statement.occurrences operator = d.statement.occurrences operator := by
  obtain ⟨-, ⟨-, rfl⟩ | ⟨f, -, rfl⟩⟩ := addClause_eq_ok h
  · rfl
  · exact Statement.occurrences_extend d.statement f

/-- An operator with its SELECT is refused where it may stand only once and does. -/
theorem holdsOperator_of_combineSelect (h : combineSelect c table d = .ok () d')
    (hc : c.operator.isSingle = true) : d.statement.holdsOperator c.operator = false := by
  simp only [combineSelect, Edit.bind_eq_ok, Edit.get_eq_ok, Edit.failIf_eq_ok] at h
  obtain ⟨_, _, ⟨rfl, rfl⟩, _, _, ⟨-, rfl⟩, _, _, ⟨-, rfl⟩, _, _, ⟨hsingle, rfl⟩, -⟩ := h
  simpa [hc] using hsingle

end Draft

/-! ### What verbs do to the count -/

namespace Builder

variable {b : Builder} {v : Verb} {d : Draft} {operator : SetOperator}

/-- A change adds the operator that its verb asks for, and no other. -/
theorem occurrences_edit (ho : b.opens v = false) (h : v.edit b.dialect b.draft = .ok () d) :
    d.statement.occurrences operator =
      b.statement.occurrences operator + if v.operator? = some operator then 1 else 0 := by
  cases v with
  | start opening =>
    cases opening with
    | select s =>
      obtain ⟨sql, _, -, rfl⟩ := Draft.addSelection_eq_ok h
      exact Statement.occurrences_pushSection _ sql
    | _ => cases ho
  | clause c => exact Draft.occurrences_addClause h operator
  | like field pattern negated =>
    exact Draft.occurrences_addClause (Verb.edit_clause rfl h) operator
  | nullTest field negated =>
    exact Draft.occurrences_addClause (Verb.edit_clause rfl h) operator
  | combine c =>
    obtain ⟨-, hp, rfl⟩ := Draft.combine_eq_ok h
    simp only [Verb.operator?, Option.some.injEq]
    exact Statement.occurrences_beginCompound hp c.operator
  | combineSelect c table =>
    obtain ⟨-, hp, _, _, -, -, rfl⟩ := Draft.combineSelect_eq_ok h
    simp only [Verb.operator?, Option.some.injEq, Statement.occurrences_pushSection]
    exact Statement.occurrences_beginCompound hp c.operator
  | createView name ifNotExists =>
    obtain ⟨-, -, rfl⟩ := Draft.createView_eq_ok h
    rfl
  | setError _ =>
    cases h
    rfl
  | reset =>
    cases h
    rfl

/-- How often an operator was held before a verb, in what the verb keeps of the statement. -/
def keptOccurrences (b : Builder) (v : Verb) (operator : SetOperator) : Nat :=
  if b.restarts v then 0 else b.statement.occurrences operator

/-- **How often an operator is held after a verb** that leaves no error: the one that it asks for
once more. -/
theorem occurrences_run (h : (b.run v).error = none) (operator : SetOperator) :
    (b.run v).statement.occurrences operator =
      b.keptOccurrences v operator + if v.operator? = some operator then 1 else 0 := by
  have hstep := b.step_run v
  generalize b.run v = b' at hstep h ⊢
  cases hstep with
  | opened ho hd =>
    rw [keptOccurrences, restarts_of_opens ho]
    exact Opening.occurrences_draft hd operator
  | refused ho he => cases h
  | failed ho hv hb he => cases h
  | reset => rfl
  | frozen ho hv he =>
    rw [he] at h
    cases h
  | edited ho hv hb hd =>
    rw [keptOccurrences, restarts_eq_opens hv, ho]
    exact occurrences_edit ho hd
  | setError message =>
    rw [setError]
    split <;> rfl

/-! ### Asking again -/

/-- The verb asks for an operator alone that the statement holds already, and is taken. -/
def Repeats (b : Builder) (operator : SetOperator) (v : Verb) : Prop :=
  ∃ c : Combination, v = .combine c ∧ c.operator = operator ∧
    b.statement.holdsOperator operator = true ∧ (b.run v).error = none

/-- An operator that is repeated is held once more. -/
theorem occurrences_of_repeats (h : b.Repeats operator v) :
    (b.run v).statement.occurrences operator = b.statement.occurrences operator + 1 := by
  obtain ⟨c, rfl, hc, -, hnone⟩ := h
  rw [occurrences_run hnone, keptOccurrences, Verb.operator?, hc]
  simp [restarts, opens]

/-- Where a verb that asks for an operator of its own is taken and does not repeat it, the statement
did not hold it. -/
theorem holdsOperator_of_not_repeats (hop : operator.isSingle = true)
    (hnone : (b.run v).error = none) (hasks : v.operator? = some operator)
    (hv : ¬b.Repeats operator v) : b.statement.holdsOperator operator = false := by
  cases v with
  | combine c =>
    refine Bool.of_not_eq_true fun hholds => hv ⟨c, rfl, ?_, hholds, hnone⟩
    exact Option.some.inj hasks
  | combineSelect c table =>
    cases hasks
    have hstep := b.step_run (.combineSelect c table)
    generalize b.run (.combineSelect c table) = b' at hstep hnone
    cases hstep with
    | edited ho hh hb hd => exact Draft.holdsOperator_of_combineSelect hd hop
    | failed ho hh hb he => cases hnone
    | frozen ho hh he =>
      rw [he] at hnone
      cases hnone
  | _ => cases hasks

/-- A verb that does not repeat the operator leaves it held once at most. -/
theorem occurrences_run_le_one (hop : operator.isSingle = true)
    (hb : b.statement.occurrences operator ≤ 1) (hv : ¬b.Repeats operator v) :
    (b.run v).statement.occurrences operator ≤ 1 := by
  cases herror : (b.run v).error with
  | some e =>
    rw [statement, draft_run_of_error herror]
    exact hb
  | none =>
    have hkept : b.keptOccurrences v operator ≤ b.statement.occurrences operator := by
      rw [keptOccurrences]
      split <;> omega
    rw [occurrences_run herror]
    by_cases hasks : v.operator? = some operator
    · have hnot := holdsOperator_of_not_repeats hop herror hasks hv
      have hzero : ¬0 < b.statement.occurrences operator := by
        rw [← Statement.holdsOperator_iff_pos, hnot]
        exact Bool.false_ne_true
      rw [if_pos hasks]
      omega
    · rw [if_neg hasks]
      omega

/-- So does an action, since a terminal verb asks for no operator. -/
theorem occurrences_act_le_one (hop : operator.isSingle = true)
    (hb : b.statement.occurrences operator ≤ 1) (a : Action)
    (ha : ∀ v, a = .verb v → ¬b.Repeats operator v) :
    (b.act a).1.statement.occurrences operator ≤ 1 := by
  by_cases hverb : ∃ v, a = .verb v
  · obtain ⟨v, rfl⟩ := hverb
    exact occurrences_run_le_one hop hb (ha v rfl)
  · have hnot : ∀ v, a ≠ .verb v := fun v hv => hverb ⟨v, hv⟩
    rcases draft_act_of_ne_verb b hnot with hsame | ⟨o, ho⟩
    · rw [statement, hsame]
      exact hb
    · rw [statement, ho]
      refine occurrences_run_le_one hop hb ?_
      rintro ⟨c, hc, -⟩
      cases hc

/-- Any actions leave the operator held once at most, if no verb among them repeats it. -/
theorem occurrences_actAll_le_one (hop : operator.isSingle = true)
    (hb : b.statement.occurrences operator ≤ 1) {as : List Action}
    (has : ∀ before v, before ++ [.verb v] <+: as → ¬(b.actAll before).Repeats operator v)
    (before : List Action) (hbefore : before <+: as) :
    (b.actAll before).statement.occurrences operator ≤ 1 := by
  induction before using List.reverseRecOn with
  | nil => exact hb
  | append_singleton before a ih =>
    have hle := ih ((List.prefix_append before [a]).trans hbefore)
    rw [actAll_snoc]
    refine occurrences_act_le_one hop hle a fun v hv => has before v ?_
    rw [← hv]
    exact hbefore

/-- What comes of asking for an operator that a statement holds and may hold once. -/
structure AskedAgain (b : Builder) (operator : SetOperator) : Prop where
  /-- With a SELECT it is refused, and the statement stays. -/
  withSelect : ∀ (c : Combination) (table : Table), c.operator = operator →
    b.run (.combineSelect c table) = b.record (b.error.getD
      (if table.isEmpty then .emptyInput "table" c.selectContext
        else .duplicateSetOperator operator.text))
  /-- Alone it is refused only where an error is kept or an operator waits. -/
  refused : ∀ c : Combination, b.hasError = true ∨ b.draft.needsSection = true →
    b.run (.combine c) = b.record (b.error.getD (.missingSelect c.context))
  /-- Everywhere else it is taken. -/
  taken : ∀ c : Combination, c.operator = operator → b.error = none →
    b.draft.needsSection = false → b.Repeats operator (.combine c)

/-- A statement that holds an operator is a SELECT. -/
theorem kind_of_holdsOperator (h : b.draft.IsComposed)
    (hholds : b.statement.holdsOperator operator = true) : b.statement.kind = .select := by
  have hcompound : b.statement.isCompound = true :=
    (Statement.isCompound_iff_holdsOperator h.statement).mpr ⟨operator, hholds⟩
  rw [Statement.isCompound, Bool.or_eq_true, decide_eq_true_eq] at hcompound
  rcases hcompound with hlength | hpending
  · exact h.statement.kind (Or.inr (Or.inr hlength))
  · exact h.statement.kind (Or.inl hpending)

/-- A change that fails leaves the error that was kept, and its own if there was none. -/
theorem extend_eq_record {edit : Edit Unit} {e : Error} (h : edit b.draft = .error e b.draft) :
    b.extend edit = b.record (b.error.getD e) := by
  cases hb : b.error with
  | some kept => rw [extend_of_error hb, Option.getD_some, record, ← hb]
  | none =>
    rw [extend_of_failure hb h]
    rfl

/-- A verb that combines does nothing while an error is kept, and fails while an operator waits. -/
theorem run_combine_of_refused (c : Combination)
    (h : b.hasError = true ∨ b.draft.needsSection = true) :
    b.run (.combine c) = b.record (b.error.getD (.missingSelect c.context)) := by
  rcases h with herror | hwait
  · obtain ⟨e, he⟩ := Option.isSome_iff_exists.mp herror
    rw [run, extend_of_error he, he, Option.getD_some, record, ← he]
  · have hedit : Draft.combine c b.draft = .error (.missingSelect c.context) b.draft := by
      simp [Draft.combine, hwait]
    exact extend_eq_record hedit

theorem askedAgain_of_holdsOperator (hop : operator.isSingle = true) (h : b.draft.IsComposed)
    (hholds : b.statement.holdsOperator operator = true) : b.AskedAgain operator where
  withSelect c table hc := by
    subst hc
    have hk := kind_of_holdsOperator h hholds
    rw [statement] at hk hholds
    have hedit : Draft.combineSelect c table b.draft =
        .error (if table.isEmpty then .emptyInput "table" c.selectContext
          else .duplicateSetOperator c.operator.text) b.draft := by
      by_cases htable : table.isEmpty = true <;>
        simp [Draft.combineSelect, hk, hop, hholds, htable]
    exact extend_eq_record hedit
  refused c hwhy := run_combine_of_refused c hwhy
  taken c hc herror hwait := by
    have hk := kind_of_holdsOperator h hholds
    rw [statement] at hk
    have hedit : Draft.combine c b.draft =
        .ok () { b.draft with statement := b.draft.statement.beginCompound c.operator } := by
      simp [Draft.combine, hk, hwait]
    refine ⟨c, rfl, hc, hholds, ?_⟩
    rw [run, extend_of_ok herror hedit]
    exact herror

/-- **An operator is held once exactly if no verb repeats it.**  This is so in every state that
verbs and terminal verbs lead to, for each of the operators that a statement may hold once.  To ask
for an operator again together with its SELECT is refused; to ask for it alone is taken, unless an
error is kept or an operator waits. -/
theorem occurrences_le_one_iff (dialect : Dialect) (options : Options) {operator : SetOperator}
    (hop : operator.isSingle = true) (as : List Action) :
    ((∀ before, before <+: as →
        ((new dialect options).actAll before).statement.occurrences operator ≤ 1) ↔
      ∀ before v, before ++ [.verb v] <+: as →
        ¬((new dialect options).actAll before).Repeats operator v) ∧
    (((new dialect options).actAll as).statement.holdsOperator operator = true →
      ((new dialect options).actAll as).AskedAgain operator) := by
  refine ⟨⟨fun hle before v hpre hrepeats => ?_, fun has => ?_⟩, fun hholds => ?_⟩
  · -- the operator was there, and then once more
    have hafter := hle _ hpre
    rw [actAll_snoc, act, occurrences_of_repeats hrepeats] at hafter
    obtain ⟨c, -, -, hholds, -⟩ := hrepeats
    have hpos := Statement.holdsOperator_iff_pos.mp hholds
    omega
  · have hnew : (new dialect options).statement.occurrences operator ≤ 1 := Nat.zero_le 1
    exact occurrences_actAll_le_one hop hnew has
  · have hcomposed : ((new dialect options).actAll as).draft.IsComposed :=
      draft_actAll Draft.isComposed_empty isComposed_run dialect options as
    exact askedAgain_of_holdsOperator hop hcomposed hholds

/-- Two tables, one without the rows of the other. -/
def oneExcept : List Action :=
  [.verb (.select (.named "a") [.star]), .verb (.combine .except),
    .verb (.select (.named "b") [.star])]

/-- A second EXCEPT with its SELECT is refused, and nothing else has changed. -/
theorem occurrences_le_one_iff_oneExcept :
    SetOperator.except.isSingle = true ∧
      ((new .sqlite .default).actAll oneExcept).run (.combineSelect .except (.named "c")) =
        ((new .sqlite .default).actAll oneExcept).record (.duplicateSetOperator "EXCEPT") := by
  refine ⟨rfl, ?_⟩
  have hop : SetOperator.except.isSingle = true := rfl
  exact ((occurrences_le_one_iff .sqlite .default hop oneExcept).2 rfl).withSelect .except
    (.named "c") rfl

/-- EXCEPT asked for alone, twice. -/
def exceptTwice : List Verb :=
  [.select (.named "a") [.star], .combine .except, .select (.named "b") [.star], .combine .except]

/-- The second EXCEPT leaves no error and waits for its section beside the first. -/
theorem exceptTwice_is_taken :
    ((new .sqlite .default).runAll exceptTwice).error = none ∧
      ((new .sqlite .default).runAll exceptTwice).text =
        "SELECT * FROM `a` EXCEPT SELECT * FROM `b` EXCEPT" ∧
      ((new .sqlite .default).runAll exceptTwice).statement.occurrences .except = 2 :=
  ⟨rfl, rfl, rfl⟩

end Builder

end FluentSql
