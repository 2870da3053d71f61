import FluentSql.Proofs.Composition
import Mathlib.Data.List.Induction

/-!
# Statements without a head

A clause extends a statement that some verb has taken up.  Nothing checks that there is one: a
clause that is called on a builder without a statement becomes a section of its own, and what is
sent then consists of clauses only.  So a statement that compiles has a head, or there was such a
clause.

## Main definitions

* `Builder.Since` — something happened in a run, and no reset after it.
* `Builder.TakesUp`, `Builder.AddsLoose` — a verb takes up a statement; a verb adds a clause though
  there is none.
* `Statement.IsHeaded`, `Statement.IsLoose` — a statement has a head, or it is made of clauses only.
* `Builder.HeadKnown`, `Builder.HeadToldBy` — what a run of verbs tells about the head of the
  statement that it leaves.

## Main results

* `Builder.headKnown_runAll` — a statement has a head exactly if one was taken up.
* `Builder.headToldBy_runAll` — **what compiles was taken up, or is made of loose clauses.**
* `Builder.looseCondition_compiles` — a condition without a statement, which can be sent.
-/

namespace FluentSql

namespace Builder

/-! ### Since the last reset -/

/-- Some verb was called of which something holds, in the state that it was called in, and no reset
came after it. -/
def Since (b : Builder) (vs : List Verb) (P : Builder → Verb → Prop) : Prop :=
  ∃ before v after, vs = before ++ v :: after ∧ P (b.runAll before) v ∧
    ∀ w ∈ after, w.isReset = false

section Since

variable {b : Builder} {vs : List Verb} {v : Verb} {P : Builder → Verb → Prop}

theorem not_since_nil : ¬b.Since [] P := by
  rintro ⟨before, v, after, h, -⟩
  cases before <;> cases h

/-- It happened by the last verb, or before it if that is no reset. -/
theorem since_snoc :
    b.Since (vs ++ [v]) P ↔ P (b.runAll vs) v ∨ (b.Since vs P ∧ v.isReset = false) := by
  constructor
  · rintro ⟨before, w, after, h, hP, hafter⟩
    rcases List.eq_nil_or_concat after with rfl | ⟨after, u, rfl⟩
    · obtain ⟨rfl, hlast⟩ := List.append_inj' h rfl
      cases hlast
      exact Or.inl hP
    · rw [List.concat_eq_append, ← List.cons_append, ← List.append_assoc] at h
      obtain ⟨rfl, hlast⟩ := List.append_inj' h rfl
      cases hlast
      rw [List.concat_eq_append] at hafter
      refine Or.inr ⟨⟨before, w, after, rfl, hP, fun x hx => ?_⟩, ?_⟩
      · exact hafter x (List.mem_append_left _ hx)
      · exact hafter v (List.mem_append_right _ List.mem_cons_self)
  · rintro (hP | ⟨⟨before, w, after, rfl, hP, hafter⟩, hv⟩)
    · exact ⟨vs, v, [], rfl, hP, fun _ hw => by cases hw⟩
    · refine ⟨before, w, after ++ [v], List.append_assoc _ _ _, hP, fun x hx => ?_⟩
      rcases List.mem_append.mp hx with hold | hnew
      · exact hafter x hold
      · rw [List.mem_singleton.mp hnew]
        exact hv

end Since

/-- A verb takes up a statement. -/
def TakesUp (b : Builder) (v : Verb) : Prop := b.opens v = true ∧ (b.run v).error = none

/-- A verb adds a clause though no statement was taken up. -/
def AddsLoose (b : Builder) (v : Verb) : Prop :=
  b.statement.kind = .empty ∧ v.clause?.isSome = true ∧ b.error = none ∧ (b.run v).error = none

end Builder

/-! ### Statements with and without a head -/

namespace Statement

/-- The statement has a head. -/
structure IsHeaded (s : Statement) : Prop where
  kind : s.kind ≠ .empty
  nonempty : s.isEmpty = false

/-- Clauses one after the other, without a head. -/
def ofClauses (fs : List Fragment) : Statement where
  kind := .empty
  sections := if fs.isEmpty then [] else [⟨none, String.join (fs.map Fragment.sql)⟩]
  pending := none
  view := none
  params := fs.flatMap Fragment.params

/-- The statement is made of clauses only, or of nothing. -/
def IsLoose (dialect : Dialect) (s : Statement) : Prop :=
  ∃ fs : List Fragment, (∀ f ∈ fs, ∃ c : Clause, c.compile dialect = .ok f) ∧ s = ofClauses fs

variable {dialect : Dialect} {s : Statement} {fs : List Fragment} {f : Fragment} {c : Clause}

theorem isEmpty_pushSection (s : Statement) (sql : String) :
    (s.pushSection sql).isEmpty = false := by
  simp [isEmpty, pushSection]

theorem isEmpty_append (s : Statement) (sql : String) : (s.append sql).isEmpty = false := by
  rw [append]
  split
  · exact isEmpty_pushSection s sql
  · rename_i hne
    show (appendLast sql s.sections).isEmpty = false
    rw [List.isEmpty_eq_false_iff, ← List.length_pos_iff, length_appendLast, List.length_pos_iff]
    simpa using hne

theorem isEmpty_ofClauses (fs : List Fragment) : (ofClauses fs).isEmpty = fs.isEmpty := by
  cases fs <;> rfl

theorem render_ofClauses (fs : List Fragment) :
    (ofClauses fs).render = String.join (fs.map Fragment.sql) := by
  cases fs <;> simp [ofClauses, render, Section.render]

/-- One more clause. -/
theorem extend_ofClauses (fs : List Fragment) (f : Fragment) :
    (ofClauses fs).extend f = ofClauses (fs ++ [f]) := by
  cases fs with
  | nil => simp [ofClauses, extend, append, pushSection, extendParams]
  | cons first rest =>
    simp [ofClauses, extend, append, appendLast, extendParams, String.append_assoc]

theorem isLoose_empty : Statement.empty.IsLoose dialect :=
  ⟨[], fun _ hf => (by cases hf), rfl⟩

theorem isLoose_extend (h : s.IsLoose dialect) (hc : c.compile dialect = .ok f) :
    (s.extend f).IsLoose dialect := by
  obtain ⟨fs, hfs, rfl⟩ := h
  refine ⟨fs ++ [f], fun g hg => ?_, extend_ofClauses fs f⟩
  rcases List.mem_append.mp hg with hold | hnew
  · exact hfs g hold
  · cases List.mem_singleton.mp hnew
    exact ⟨c, hc⟩

theorem kind_of_isLoose (h : s.IsLoose dialect) : s.kind = .empty := by
  obtain ⟨fs, -, rfl⟩ := h
  rfl

theorem pending_of_isLoose (h : s.IsLoose dialect) : s.pending = none := by
  obtain ⟨fs, -, rfl⟩ := h
  rfl

end Statement

/-! ### What a change does to a head -/

/-- A new statement has a head. -/
theorem Opening.isHeaded_draft {o : Opening} {d : Draft} (h : o.draft = .ok d) :
    d.statement.IsHeaded := by
  cases o with
  | _ =>
    simp only [draft, bind_eq_ok_iff, pure_eq_ok_iff] at h
    obtain ⟨_, -, rfl⟩ := h
    exact ⟨fun hk => (by cases hk), rfl⟩

/-- Without a statement no clause is left out. -/
theorem Clause.isSkipped_of_empty {s : Statement} (hk : s.kind = .empty) (dialect : Dialect)
    (c : Clause) : c.isSkipped dialect s = false := by
  cases c with
  | limit n =>
    rw [isSkipped, Statement.isDelete, hk]
    rfl
  | _ => rfl

namespace Draft

variable {dialect : Dialect} {c : Clause} {d d' : Draft}

theorem isHeaded_addClause (hd : d.statement.IsHeaded) (h : addClause dialect c d = .ok () d') :
    d'.statement.IsHeaded := by
  obtain ⟨-, ⟨-, rfl⟩ | ⟨f, -, rfl⟩⟩ := addClause_eq_ok h
  · exact hd
  · refine ⟨?_, Statement.isEmpty_append d.statement f.sql⟩
    show (d.statement.append f.sql).kind ≠ .empty
    rw [Statement.kind_append]
    exact hd.kind

/-- Without a statement a clause that is added has compiled. -/
theorem addClause_of_empty (hk : d.statement.kind = .empty)
    (h : addClause dialect c d = .ok () d') :
    ∃ f, c.compile dialect = .ok f ∧ d'.statement = d.statement.extend f := by
  obtain ⟨-, ⟨hskip, -⟩ | ⟨f, hf, rfl⟩⟩ := addClause_eq_ok h
  · rw [Clause.isSkipped_of_empty hk] at hskip
    cases hskip
  · exact ⟨f, hf, rfl⟩

end Draft

namespace Builder

variable {b : Builder} {v : Verb} {d : Draft}

/-- A change keeps the head. -/
theorem isHeaded_edit (hb : b.statement.IsHeaded) (ho : b.opens v = false)
    (hv : v.handlesError = false) (h : v.edit b.dialect b.draft = .ok () d) :
    d.statement.IsHeaded := by
  cases v with
  | start opening =>
    cases opening with
    | select s =>
      obtain ⟨sql, _, -, rfl⟩ := Draft.addSelection_eq_ok h
      exact ⟨hb.kind, Statement.isEmpty_pushSection _ sql⟩
    | _ => cases ho
  | clause c => exact Draft.isHeaded_addClause hb h
  | like field pattern negated => exact Draft.isHeaded_addClause hb (Verb.edit_clause rfl h)
  | nullTest field negated => exact Draft.isHeaded_addClause hb (Verb.edit_clause rfl h)
  | combine c =>
    obtain ⟨-, -, rfl⟩ := Draft.combine_eq_ok h
    exact ⟨hb.kind, hb.nonempty⟩
  | combineSelect c table =>
    obtain ⟨-, -, _, _, -, -, rfl⟩ := Draft.combineSelect_eq_ok h
    exact ⟨hb.kind, Statement.isEmpty_pushSection _ _⟩
  | createView name ifNotExists =>
    obtain ⟨-, -, rfl⟩ := Draft.createView_eq_ok h
    exact ⟨hb.kind, hb.nonempty⟩
  | setError _ => cases hv
  | reset => cases hv

/-- Without a statement the only change there is adds a clause. -/
theorem clause_of_edit (hk : b.statement.kind = .empty) (hp : b.statement.pending = none)
    (ho : b.opens v = false) (hv : v.handlesError = false)
    (h : v.edit b.dialect b.draft = .ok () d) :
    ∃ c f, v.clause? = some c ∧ c.compile b.dialect = .ok f ∧
      d.statement = b.statement.extend f := by
  have hclause : ∀ c, v.clause? = some c → ∃ c f, v.clause? = some c ∧
      c.compile b.dialect = .ok f ∧ d.statement = b.statement.extend f := fun c hc => by
    obtain ⟨f, hf, hd⟩ := Draft.addClause_of_empty hk (Verb.edit_clause hc h)
    exact ⟨c, f, hc, hf, hd⟩
  have hselect : b.statement.kind ≠ .select := by
    rw [hk]
    decide
  cases v with
  | start opening =>
    cases opening with
    | select s =>
      -- no set operator waits, so the SELECT would open
      have hwait : b.draft.needsSection = false :=
        Bool.of_not_eq_true (Draft.needsSection_eq_false_iff.mpr hp)
      rw [opens, hwait] at ho
      cases ho
    | _ => cases ho
  | clause c => exact hclause c rfl
  | like field pattern negated => exact hclause _ rfl
  | nullTest field negated => exact hclause _ rfl
  | combine c => exact absurd (Draft.combine_eq_ok h).1 hselect
  | combineSelect c table => exact absurd (Draft.combineSelect_eq_ok h).1 hselect
  | createView name ifNotExists => exact absurd (Draft.createView_eq_ok h).1 hselect
  | setError _ => cases hv
  | reset => cases hv

/-! ### Runs -/

/-- Every verb but a reset keeps the head. -/
theorem isHeaded_run (hb : b.statement.IsHeaded) (hv : v.isReset = false) :
    (b.run v).statement.IsHeaded := by
  have hstep := b.step_run v
  generalize b.run v = b' at hstep ⊢
  cases hstep with
  | opened ho hd => exact Opening.isHeaded_draft hd
  | edited ho hh he hd => exact isHeaded_edit hb ho hh hd
  | reset => cases hv
  | setError message =>
    rw [setError]
    split <;> exact hb
  | _ => exact hb

/-- A statement that was taken up has a head. -/
theorem isHeaded_of_takesUp (h : b.TakesUp v) : (b.run v).statement.IsHeaded := by
  obtain ⟨ho, hnone⟩ := h
  obtain ⟨opening, rfl⟩ := isStarting_of_opens ho
  rw [run_of_opens ho] at hnone ⊢
  cases hd : opening.draft with
  | ok d => exact Opening.isHeaded_draft hd
  | error e =>
    rw [hd] at hnone
    cases hnone

/-- A verb that takes up no statement leaves loose clauses loose, and there are some if it has
added one. -/
theorem isLoose_run (hb : b.statement.IsLoose b.dialect) (hv : ¬b.TakesUp v) :
    (b.run v).statement.IsLoose b.dialect ∧
      ((b.run v).statement.isEmpty = false ↔
        b.AddsLoose v ∨ (b.statement.isEmpty = false ∧ v.isReset = false)) := by
  have hk := Statement.kind_of_isLoose hb
  -- where nothing is added the statement stays
  have hsame : (b.run v).statement = b.statement → ¬b.AddsLoose v → v.isReset = false →
      (b.run v).statement.IsLoose b.dialect ∧
        ((b.run v).statement.isEmpty = false ↔
          b.AddsLoose v ∨ (b.statement.isEmpty = false ∧ v.isReset = false)) := by
    intro hs hadds hreset
    rw [hs]
    exact ⟨hb, fun h => Or.inr ⟨h, hreset⟩, fun h => h.elim (absurd · hadds) And.left⟩
  rw [TakesUp] at hv
  rw [AddsLoose] at hsame ⊢
  have hstep := b.step_run v
  generalize b.run v = b' at hstep hv hsame ⊢
  cases hstep with
  | opened ho hd => exact absurd ⟨ho, rfl⟩ hv
  | refused ho he => exact hsame rfl (fun h => by cases h.2.1) rfl
  | frozen ho hh he =>
    refine hsame rfl (fun h => ?_) (Verb.isReset_of_handlesError hh)
    rw [he] at h
    cases h.2.2.1
  | failed ho hh he hd =>
    exact hsame rfl (fun h => by cases h.2.2.2) (Verb.isReset_of_handlesError hh)
  | edited ho hh he hd =>
    obtain ⟨c, f, hc, hf, hs⟩ := clause_of_edit hk (Statement.pending_of_isLoose hb) ho hh hd
    refine ⟨?_, fun _ => Or.inl ⟨hk, ?_, he, he⟩, fun _ => ?_⟩
    · show Statement.IsLoose b.dialect (Draft.statement _)
      rw [hs]
      exact Statement.isLoose_extend hb hf
    · rw [hc]
      rfl
    · show Statement.isEmpty (Draft.statement _) = false
      rw [hs]
      exact Statement.isEmpty_append _ _
  | setError message =>
    refine hsame ?_ (fun h => by cases h.2.1) rfl
    rw [setError]
    split <;> rfl
  | reset =>
    refine ⟨Statement.isLoose_empty, fun h => (by cases h), fun h => ?_⟩
    rcases h with h | h
    · cases h.2.1
    · cases h.2

/-- A statement has a head exactly if one was taken up.  Otherwise it is made of loose clauses, and
there are some exactly if one was added. -/
def HeadKnown (b : Builder) (taken added : Prop) : Prop :=
  (taken ∧ b.statement.IsHeaded) ∨
    (¬taken ∧ b.statement.IsLoose b.dialect ∧ (b.statement.isEmpty = false ↔ added))

/-- One verb tells as much of the head as several do. -/
theorem headKnown_run {taken added : Prop} (h : b.HeadKnown taken added) (v : Verb) :
    (b.run v).HeadKnown (b.TakesUp v ∨ (taken ∧ v.isReset = false))
      (b.AddsLoose v ∨ (added ∧ v.isReset = false)) := by
  by_cases htakes : b.TakesUp v
  · exact Or.inl ⟨Or.inl htakes, isHeaded_of_takesUp htakes⟩
  · rcases h with ⟨htaken, hhead⟩ | ⟨htaken, hloose, hadded⟩
    · cases hreset : v.isReset with
      | false => exact Or.inl ⟨Or.inr ⟨htaken, rfl⟩, isHeaded_run hhead hreset⟩
      | true =>
        -- a reset leaves nothing
        cases v with
        | reset =>
          refine Or.inr ⟨?_, Statement.isLoose_empty, fun h => (by cases h), fun h => ?_⟩
          · rintro (h | ⟨-, h⟩)
            · exact htakes h
            · cases h
          · rcases h with h | ⟨-, h⟩
            · cases h.2.1
            · cases h
        | _ => cases hreset
    · obtain ⟨hloose', hempty⟩ := isLoose_run hloose htakes
      rw [hadded] at hempty
      rw [HeadKnown, dialect_run]
      refine Or.inr ⟨?_, hloose', hempty⟩
      rintro (h | ⟨h, -⟩)
      · exact htakes h
      · exact htaken h

/-- **A statement has a head exactly if one was taken up** since the last reset.  Otherwise it is
made of loose clauses, and there are some exactly if one was added since then. -/
theorem headKnown_runAll (dialect : Dialect) (options : Options) (vs : List Verb) :
    ((new dialect options).runAll vs).HeadKnown ((new dialect options).Since vs TakesUp)
      ((new dialect options).Since vs AddsLoose) := by
  -- from the right, since the last verb decides
  induction vs using List.reverseRecOn with
  | nil =>
    refine Or.inr ⟨not_since_nil, Statement.isLoose_empty, fun h => (by cases h), fun h => ?_⟩
    exact absurd h not_since_nil
  | append_singleton vs v ih =>
    rw [since_snoc, since_snoc, runAll_append]
    exact headKnown_run ih v

/-! ### What compiles -/

/-- What a clause leaves as the error where there is no statement: nothing checks that there is
one. -/
theorem error_run_clause (hb : b.error = none) (hk : b.statement.kind = .empty)
    (hp : b.statement.pending = none) (c : Clause) :
    (b.run (.clause c)).error = errorOf (c.compile b.dialect) := by
  have hskip := Clause.isSkipped_of_empty (s := b.draft.statement) hk b.dialect c
  have hwait : b.draft.needsSection = false :=
    Bool.of_not_eq_true (Draft.needsSection_eq_false_iff.mpr hp)
  rw [run, extend, hb]
  cases hc : c.compile b.dialect <;>
    simp [Draft.addClause, hskip, hwait, hc, errorOf]

/-- What a run of verbs tells about the head of the statement that it leaves. -/
structure HeadToldBy (b start : Builder) (vs : List Verb) : Prop where
  /-- There is a head exactly if a statement was taken up. -/
  kind : b.statement.kind ≠ .empty ↔ start.Since vs TakesUp
  /-- The statement compiles if there is no error, no set operator waits, and a statement was taken
  up or a loose clause was added. -/
  compiles : (∃ q, b.compile = .ok q) ↔
    b.error = none ∧ b.draft.needsSection = false ∧
      (start.Since vs TakesUp ∨ start.Since vs AddsLoose)
  /-- No terminal verb that runs the statement sends anything else. -/
  sends : ∀ (a : Action) (m : Method), a.method? = some m → (b.report a).sent ≠ [] →
    start.Since vs TakesUp ∨ start.Since vs AddsLoose
  /-- What compiles though no statement was taken up consists of clauses. -/
  loose : ∀ q, b.compile = .ok q → ¬start.Since vs TakesUp →
    ∃ fs : List Fragment, fs ≠ [] ∧ (∀ f ∈ fs, ∃ c : Clause, c.compile b.dialect = .ok f) ∧
      q = ⟨terminated (String.join (fs.map Fragment.sql)), fs.flatMap Fragment.params⟩
  /-- Without a statement a clause fails only where it would fail with one. -/
  accepts : b.error = none → b.statement.kind = .empty →
    ∀ c : Clause, (b.run (.clause c)).error = errorOf (c.compile b.dialect)

theorem isEmpty_eq_false_iff {taken added : Prop} (h : b.HeadKnown taken added) :
    b.statement.isEmpty = false ↔ taken ∨ added := by
  rcases h with ⟨htaken, hhead⟩ | ⟨htaken, -, hadded⟩
  · exact ⟨fun _ => Or.inl htaken, fun _ => hhead.nonempty⟩
  · rw [hadded, or_iff_right htaken]

theorem headToldBy_of_headKnown {start : Builder} {vs : List Verb}
    (h : b.HeadKnown (start.Since vs TakesUp) (start.Since vs AddsLoose)) :
    b.HeadToldBy start vs where
  kind := by
    rcases h with ⟨htaken, hhead⟩ | ⟨htaken, hloose, -⟩
    · exact ⟨fun _ => htaken, fun _ => hhead.kind⟩
    · exact ⟨fun hk => absurd (Statement.kind_of_isLoose hloose) hk, fun ht => absurd ht htaken⟩
  compiles := by
    rw [← isEmpty_eq_false_iff h]
    constructor
    · rintro ⟨q, hq⟩
      obtain ⟨herror, hempty, hwait, -⟩ := compile_eq_ok_iff.mp hq
      exact ⟨herror, hwait, hempty⟩
    · rintro ⟨herror, hwait, hempty⟩
      exact ⟨_, compile_eq_ok_iff.mpr ⟨herror, hempty, hwait, rfl⟩⟩
  sends a m ha hsent := by
    rw [← isEmpty_eq_false_iff h]
    have hgate := gated_report (b := b) ha
    cases hc : b.clearExecution.compile with
    | error e => exact absurd (hgate.refused e hc).1 hsent
    | ok q =>
      obtain ⟨-, hempty, -, -⟩ := compile_eq_ok_iff.mp hc
      rw [statement, draft_clearExecution] at hempty
      exact hempty
  loose q hq htaken := by
    rcases h with ⟨htaken', -⟩ | ⟨-, ⟨fs, hfs, hs⟩, -⟩
    · exact absurd htaken' htaken
    · obtain ⟨-, hempty, -, rfl⟩ := compile_eq_ok_iff.mp hq
      rw [hs, Statement.isEmpty_ofClauses, List.isEmpty_eq_false_iff] at hempty
      refine ⟨fs, hempty, hfs, ?_⟩
      rw [text, params, hs, Statement.render_ofClauses]
      rfl
  accepts herror hk := by
    rcases h with ⟨-, hhead⟩ | ⟨-, hloose, -⟩
    · exact absurd hk hhead.kind
    · exact error_run_clause herror hk (Statement.pending_of_isLoose hloose)

/-- **What compiles was taken up, or is made of loose clauses.**  After any verbs on a new builder,
there is a head exactly if a statement was taken up since the last reset.  If none was, the
statement still compiles, and is sent, exactly if a clause was added without one; it then consists
of such clauses. -/
theorem headToldBy_runAll (dialect : Dialect) (options : Options) (vs : List Verb) :
    ((new dialect options).runAll vs).HeadToldBy (new dialect options) vs :=
  headToldBy_of_headKnown (headKnown_runAll dialect options vs)

/-- A condition, and nothing that it is a condition on. -/
def looseCondition : List Verb :=
  [.filter ⟨[.condition (.compare (.column "id") .equal (.value (.int32 1)))], none⟩]

/-- No verb started a statement, and yet there is no error and something can be sent. -/
theorem looseCondition_compiles :
    (∀ v ∈ looseCondition, v.isStarting = false) ∧
      ((new .sqlite .default).runAll looseCondition).error = none ∧
      ((new .sqlite .default).runAll looseCondition).statement.kind = .empty ∧
      ((new .sqlite .default).runAll looseCondition).compile =
        .ok ⟨" WHERE (`id` = ?);", [.int32 1]⟩ := by
  refine ⟨fun v hv => ?_, rfl, rfl, rfl⟩
  cases List.mem_singleton.mp hv
  rfl

end Builder

end FluentSql
