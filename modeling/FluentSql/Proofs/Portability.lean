import FluentSql.Proofs.Transition
import Mathlib.Data.List.Induction

/-!
# What a dialect decides

The dialect of a builder is looked at in two places: a join asks which types there are, and a limit
asks whether a DELETE may have one.  Two builders that are given the same verbs, none of which comes
to one of these places, go in step, whatever their dialects.

## Main definitions

* `JoinRequest.isCommon`, `JoinRequest.isNamed` — requests for a join that every dialect has, and
  those for a join that some dialect has.
* `Verb.isPortable` — a verb for which the dialect does not matter.
* `Builder.InStep` — two builders with the same draft and the same error.
* `Builder.Agrees` — two builders that look the same.

## Main results

* `Builder.inStep_run` — two builders stay in step as long as the clauses are the same for both.
* `Builder.agrees_runAll` — **the dialect decides nothing but joins and limits of a DELETE**, and
  between MySQL and the dialect of other databases nothing but the name in a message.
-/

namespace FluentSql

/-! ### Joins -/

namespace JoinRequest

/-- The request is for a join that every dialect has, or for none at all. -/
def isCommon : JoinRequest → Bool
  | known .rightOuter | known .fullOuter => false
  | known _ => true
  | unknown token => token.isEmpty

/-- The request is for a join that some dialect has, or for none at all. -/
def isNamed : JoinRequest → Bool
  | known _ => true
  | unknown token => token.isEmpty

end JoinRequest

namespace Dialect

variable {request : JoinRequest}

/-- No dialect refuses a common join, and all refuse a blank one with the same error. -/
theorem resolveJoin_of_isCommon (h : request.isCommon = true) (d₁ d₂ : Dialect) :
    d₁.resolveJoin request = d₂.resolveJoin request := by
  cases request with
  | known type =>
    have hknown : ∀ d : Dialect, d.resolveJoin (.known type) = .ok type := by
      intro d
      cases type with
      | rightOuter => cases h
      | fullOuter => cases h
      | _ => cases d <;> rfl
    rw [hknown d₁, hknown d₂]
  | unknown token =>
    rw [JoinRequest.isCommon] at h
    rw [resolveJoin, resolveJoin, if_pos h, if_pos h]

/-- MySQL and the dialect of other databases have the same joins. -/
theorem resolveJoin_of_isNamed (h : request.isNamed = true) :
    mysql.resolveJoin request = generic.resolveJoin request := by
  cases request with
  | known type => cases type <;> rfl
  | unknown token =>
    rw [JoinRequest.isNamed] at h
    rw [resolveJoin, resolveJoin, if_pos h, if_pos h]

end Dialect

/-! ### Clauses -/

namespace Clause

variable {d₁ d₂ : Dialect} {s : Statement} {c : Clause}

/-- The clause does not ask for what only some dialects have: a join, or a limit of a DELETE. -/
def isPortable (s : Statement) : Clause → Bool
  | join _ _ request => request.isCommon
  | limit _ => !s.isDelete
  | _ => true

/-- The clause asks for no join that no dialect has. -/
def isNamed : Clause → Bool
  | join _ _ request => request.isNamed
  | _ => true

/-- The clause is the same for two dialects: it has the same text or the same error, and it is left
out by both or by none. -/
structure IsAlike (d₁ d₂ : Dialect) (s : Statement) (c : Clause) : Prop where
  compile : c.compile d₁ = c.compile d₂
  skipped : c.isSkipped d₁ s = c.isSkipped d₂ s

/-- A clause looks at the dialect for the type of a join only. -/
theorem compile_congr (h : ∀ table on request, c = .join table on request →
    d₁.resolveJoin request = d₂.resolveJoin request) : c.compile d₁ = c.compile d₂ := by
  cases c with
  | join table on request => rw [compile, compile, h table on request rfl]
  | _ => rfl

theorem isAlike_of_isPortable (h : c.isPortable s = true) (d₁ d₂ : Dialect) :
    c.IsAlike d₁ d₂ s where
  compile := by
    refine compile_congr fun table on request hc => ?_
    subst hc
    exact Dialect.resolveJoin_of_isCommon h d₁ d₂
  skipped := by
    cases c with
    | limit n =>
      rw [isPortable, Bool.not_eq_true'] at h
      rw [isSkipped, isSkipped, h, Bool.false_and, Bool.false_and]
    | _ => rfl

theorem isAlike_of_isNamed (h : c.isNamed = true) (s : Statement) :
    c.IsAlike .mysql .generic s where
  compile := by
    refine compile_congr fun table on request hc => ?_
    subst hc
    exact Dialect.resolveJoin_of_isNamed h
  skipped := by
    cases c <;> rfl

end Clause

/-! ### Verbs -/

namespace Verb

/-- The clause that the verb adds, if it adds one, does not ask for what only some dialects have. -/
def isPortable (s : Statement) (v : Verb) : Bool := v.clause?.all (Clause.isPortable s)

/-- The verb asks for no join that no dialect has. -/
def isNamed (v : Verb) : Bool := v.clause?.all Clause.isNamed

/-- The clause that the verb adds, if it adds one, is the same for two dialects. -/
def IsAlike (d₁ d₂ : Dialect) (s : Statement) (v : Verb) : Prop :=
  ∀ c ∈ v.clause?, c.IsAlike d₁ d₂ s

variable {d₁ d₂ : Dialect} {s : Statement} {v : Verb}

theorem isAlike_of_isPortable (h : v.isPortable s = true) (d₁ d₂ : Dialect) :
    v.IsAlike d₁ d₂ s := by
  intro c hc
  rw [isPortable, hc, Option.all_some] at h
  exact Clause.isAlike_of_isPortable h d₁ d₂

theorem isAlike_of_isNamed (h : v.isNamed = true) (s : Statement) :
    v.IsAlike .mysql .generic s := by
  intro c hc
  rw [isNamed, hc, Option.all_some] at h
  exact Clause.isAlike_of_isNamed h s

end Verb

/-! ### Two builders -/

/-- A clause that is the same for two dialects changes a draft in the same way. -/
theorem Draft.addClause_congr {d₁ d₂ : Dialect} {c : Clause} {d : Draft}
    (h : c.IsAlike d₁ d₂ d.statement) : addClause d₁ c d = addClause d₂ c d := by
  simp [addClause, h.compile, h.skipped]

namespace Builder

variable {b₁ b₂ : Builder} {v : Verb}

/-- The two builders have the same draft and the same error. -/
structure InStep (b₁ b₂ : Builder) : Prop where
  draft : b₁.draft = b₂.draft
  error : b₁.error = b₂.error

/-- The two builders look the same: in text and parameters, in the error, in whether the statement
is combined, and in what is sent or why nothing is. -/
structure Agrees (b₁ b₂ : Builder) : Prop where
  text : b₁.text = b₂.text
  params : b₁.params = b₂.params
  error : b₁.error = b₂.error
  isCompound : b₁.statement.isCompound = b₂.statement.isCompound
  compile : b₁.compile = b₂.compile

/-- What can be seen of a builder is its statement and its error. -/
theorem agrees_of_statement (hstatement : b₁.statement = b₂.statement)
    (herror : b₁.error = b₂.error) : Agrees b₁ b₂ := by
  have hneeds : b₁.draft.needsSection = b₂.draft.needsSection :=
    congrArg (fun s => s.pending.isSome) hstatement
  refine ⟨?_, ?_, herror, ?_, ?_⟩
  · rw [text, text, hstatement]
  · rw [params, params, hstatement]
  · rw [hstatement]
  · simp only [compile, check, text, params, hstatement, hneeds, herror]

/-- Builders in step look the same. -/
theorem agrees_of_inStep (h : InStep b₁ b₂) : Agrees b₁ b₂ :=
  agrees_of_statement (congrArg Draft.statement h.draft) h.error

theorem inStep_record (h : InStep b₁ b₂) (e : Error) : InStep (b₁.record e) (b₂.record e) :=
  ⟨h.draft, rfl⟩

theorem inStep_start (h : InStep b₁ b₂) (d : Except Error Draft) :
    InStep (b₁.start d) (b₂.start d) := by
  cases d with
  | ok d => exact ⟨rfl, rfl⟩
  | error e => exact inStep_record h e

/-- Changes that do the same to the draft there is keep builders in step. -/
theorem inStep_extend (h : InStep b₁ b₂) {edit₁ edit₂ : Edit Unit}
    (hedit : edit₁ b₁.draft = edit₂ b₁.draft) : InStep (b₁.extend edit₁) (b₂.extend edit₂) := by
  cases hb : b₁.error with
  | some e =>
    rw [extend_of_error hb, extend_of_error (h.error.symm.trans hb)]
    exact h
  | none =>
    have hb' : b₂.error = none := h.error.symm.trans hb
    have hedit' : edit₂ b₂.draft = edit₁ b₁.draft := by rw [← h.draft, hedit]
    cases hd : edit₁ b₁.draft with
    | ok _ d =>
      rw [extend_of_ok hb hd, extend_of_ok hb' (hedit'.trans hd)]
      exact ⟨rfl, h.error⟩
    | error e d =>
      rw [extend_of_failure hb hd, extend_of_failure hb' (hedit'.trans hd)]
      exact ⟨rfl, rfl⟩

/-- **Two builders stay in step** by a verb whose clause is the same for both. -/
theorem inStep_run (h : InStep b₁ b₂) (hv : v.IsAlike b₁.dialect b₂.dialect b₁.statement) :
    InStep (b₁.run v) (b₂.run v) := by
  cases v with
  | start opening =>
    cases opening with
    | select s =>
      have hwait : (b₂.draft.needsSection && !b₂.hasError) =
          (b₁.draft.needsSection && !b₁.hasError) := by
        rw [hasError, hasError, h.draft, h.error]
      rw [run, run, runOpening, runOpening, hwait]
      split
      · exact inStep_extend h rfl
      · exact inStep_start h _
    | _ => exact inStep_start h _
  | clause c => exact inStep_extend h (Draft.addClause_congr (hv c rfl))
  -- conditions do not look at the dialect
  | like field pattern negated => exact inStep_extend h rfl
  | nullTest field negated => exact inStep_extend h rfl
  | combine c => exact inStep_extend h rfl
  | combineSelect c table => exact inStep_extend h rfl
  | createView name ifNotExists => exact inStep_extend h rfl
  | setError message =>
    rw [run, run, setError, setError]
    split
    · exact ⟨h.draft, rfl⟩
    · exact inStep_record h _
  | reset => exact ⟨rfl, rfl⟩

/-- Two builders stay in step by verbs whose clauses are the same for both, in the states in which
they are called. -/
theorem inStep_runAll (h : InStep b₁ b₂) {vs : List Verb}
    (hvs : ∀ before v, before ++ [v] <+: vs →
      v.IsAlike b₁.dialect b₂.dialect (b₁.runAll before).statement) (before : List Verb)
    (hbefore : before <+: vs) : InStep (b₁.runAll before) (b₂.runAll before) := by
  induction before using List.reverseRecOn with
  | nil => exact h
  | append_singleton before v ih =>
    have hstep := ih ((List.prefix_append before [v]).trans hbefore)
    have hv := hvs before v hbefore
    rw [runAll_append, runAll_append]
    refine inStep_run hstep ?_
    rw [dialect_runAll, dialect_runAll]
    exact hv

/-- **The dialect decides nothing but joins and limits of a DELETE.**  Two builders of any dialects
that are given the same verbs look the same after every one of them, as long as no verb asks for a
join that some dialect does not have, and none for a limit while the statement is a DELETE.  Between
MySQL and the dialect of other databases this is so as long as no verb asks for a join that has no
name. -/
theorem agrees_runAll (options₁ options₂ : Options) (vs : List Verb) :
    (∀ d₁ d₂ : Dialect,
      (∀ before v, before ++ [v] <+: vs →
        v.isPortable ((new d₁ options₁).runAll before).statement = true) →
      ∀ before, before <+: vs →
        Agrees ((new d₁ options₁).runAll before) ((new d₂ options₂).runAll before)) ∧
    ((∀ v ∈ vs, v.isNamed = true) →
      ∀ before, before <+: vs →
        Agrees ((new .mysql options₁).runAll before) ((new .generic options₂).runAll before)) := by
  have hnew : ∀ d₁ d₂ : Dialect, InStep (new d₁ options₁) (new d₂ options₂) :=
    fun _ _ => ⟨rfl, rfl⟩
  refine ⟨fun d₁ d₂ hvs before hbefore => ?_, fun hvs before hbefore => ?_⟩
  · refine agrees_of_inStep (inStep_runAll (hnew d₁ d₂) (fun earlier v hv => ?_) before hbefore)
    exact Verb.isAlike_of_isPortable (hvs earlier v hv) d₁ d₂
  · refine agrees_of_inStep
      (inStep_runAll (hnew .mysql .generic) (fun earlier v hv => ?_) before hbefore)
    have hmem : v ∈ vs := hv.subset (List.mem_append_right earlier List.mem_cons_self)
    exact Verb.isAlike_of_isNamed (hvs v hmem) _

/-- The first rows of a join. -/
def joinedUsers : List Verb :=
  [.select (.named "users") [.star],
    .innerJoin (.named "clients") (.raw "users.id = clients.user"), .limit 5]

/-- A DELETE of one row. -/
def limitedDelete : List Verb := [.start (.delete (.named "users")), .limit 1]

/-- The join is the same for SQLite and MySQL, and the DELETE for MySQL and other databases. -/
theorem agrees_runAll_joinedUsers :
    Agrees ((new .sqlite .default).runAll joinedUsers) ((new .mysql .default).runAll joinedUsers) ∧
      Agrees ((new .mysql .default).runAll limitedDelete)
        ((new .generic .default).runAll limitedDelete) := by
  constructor
  · have hportable : ∀ before v, before ++ [v] <+: joinedUsers →
        v.isPortable ((new .sqlite .default).runAll before).statement = true := by
      rintro before v ⟨rest, h⟩
      rcases before with _ | ⟨_, _ | ⟨_, _ | ⟨_, before⟩⟩⟩
      · cases h
        rfl
      · cases h
        rfl
      · cases h
        rfl
      · simp [joinedUsers] at h
    exact (agrees_runAll .default .default joinedUsers).1 .sqlite .mysql hportable joinedUsers
      (List.prefix_refl _)
  · have hnamed : ∀ v ∈ limitedDelete, v.isNamed = true := by
      simp [limitedDelete, Verb.isNamed, Verb.clause?, Verb.limit, Clause.isNamed]
    exact (agrees_runAll .default .default limitedDelete).2 hnamed limitedDelete
      (List.prefix_refl _)

end Builder

end FluentSql
