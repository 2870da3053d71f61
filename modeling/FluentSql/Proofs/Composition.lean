import FluentSql.Proofs.Gate
import FluentSql.Proofs.Values

/-!
# How statements are composed

Whatever is called on a builder, its statement keeps one form.  The first section has no set
operator and every later one has its own.  Only a SELECT is combined with others, waits for one or
defines a view; a SELECT has a section, all its sections are SELECTs, and their fields are
remembered.  A clause that is called before any statement leaves a section without a head, and even
that keeps the form.

## Main definitions

* `Statement.Joined` — set operators stand between sections.
* `Statement.IsComposed`, `Draft.IsComposed` — the form of statements and drafts.
* `Statement.RendersInOrder` — the text is made of the parts of the statement.

## Main results

* `Draft.isComposed_edit`, `Builder.isComposed_run` — every change and every verb keeps the form.
* `Builder.isComposed_actAll` — **so do all actions**, and the text of a SELECT is made of its parts
  in order.
-/

namespace FluentSql

namespace Statement

/-! ### Sections -/

/-- The first section has no set operator and every later one has one. -/
structure Joined (parts : List Section) : Prop where
  head : ∀ part ∈ parts.head?, part.operator = none
  later : ∀ part ∈ parts.tail, part.operator.isSome = true

/-- The sections are SELECTs. -/
def Selects (parts : List Section) : Prop := ∀ part ∈ parts, ∃ rest, part.sql = "SELECT " ++ rest

variable {sql : String} {parts : List Section} {part : Section}

theorem joined_singleton (h : part.operator = none) : Joined [part] where
  head _ hp := by
    cases hp
    exact h
  later _ hp := by cases hp

/-- A section that is appended to others has a set operator. -/
theorem joined_snoc (h : Joined parts) (hne : parts ≠ []) (hpart : part.operator.isSome = true) :
    Joined (parts ++ [part]) := by
  obtain ⟨first, rest, rfl⟩ := List.exists_cons_of_ne_nil hne
  refine ⟨h.head, fun p hp => ?_⟩
  rcases List.mem_append.mp hp with hold | hnew
  · exact h.later p hold
  · cases List.mem_singleton.mp hnew
    exact hpart

/-- Appended text changes no set operator and stands at the end of a section. -/
theorem mem_appendLast (h : part ∈ appendLast sql parts) :
    ∃ old ∈ parts, part.operator = old.operator ∧ ∃ tail, part.sql = old.sql ++ tail := by
  induction parts with
  | nil => cases h
  | cons first rest ih =>
    cases rest with
    | nil =>
      cases List.mem_singleton.mp h
      exact ⟨first, List.mem_singleton.mpr rfl, rfl, sql, rfl⟩
    | cons second rest =>
      rw [appendLast] at h
      rcases List.mem_cons.mp h with rfl | hlater
      · exact ⟨part, List.mem_cons_self, rfl, "", String.append_empty.symm⟩
      · obtain ⟨old, hold, hpart⟩ := ih hlater
        exact ⟨old, List.mem_cons_of_mem first hold, hpart⟩

theorem joined_appendLast (h : Joined parts) : Joined (appendLast sql parts) := by
  cases parts with
  | nil => exact h
  | cons first rest =>
    cases rest with
    | nil => exact joined_singleton (h.head first rfl)
    | cons second rest =>
      refine ⟨fun p hp => ?_, fun p hp => ?_⟩
      · cases hp
        exact h.head first rfl
      · obtain ⟨old, hold, hoperator, -⟩ := mem_appendLast hp
        rw [hoperator]
        exact h.later old hold

theorem selects_appendLast (h : Selects parts) : Selects (appendLast sql parts) := by
  intro p hp
  obtain ⟨old, hold, -, tail, htail⟩ := mem_appendLast hp
  obtain ⟨rest, hrest⟩ := h old hold
  exact ⟨rest ++ tail, by rw [htail, hrest, String.append_assoc]⟩

theorem length_appendLast (sql : String) (parts : List Section) :
    (appendLast sql parts).length = parts.length := by
  induction parts with
  | nil => rfl
  | cons first rest ih =>
    cases rest with
    | nil => rfl
    | cons second rest => rw [appendLast, List.length_cons, ih, ← List.length_cons]

/-! ### Statements -/

/-- The form of a statement. -/
structure IsComposed (s : Statement) : Prop where
  joined : Joined s.sections
  /-- Only a SELECT waits for a section, defines a view or has several sections. -/
  kind : s.pending.isSome = true ∨ s.view.isSome = true ∨ 1 < s.sections.length → s.kind = .select
  /-- A SELECT has a section. -/
  nonempty : s.kind = .select → s.sections ≠ []
  selects : s.kind = .select → Selects s.sections

variable {s : Statement} {k : StatementKind}

theorem isComposed_empty : Statement.empty.IsComposed where
  joined := ⟨fun _ hp => (by cases hp), fun _ hp => (by cases hp)⟩
  kind h := by rcases h with h | h | h <;> cases h
  nonempty h := by cases h
  selects h := by cases h

/-- A statement of one section has the form, if it is no SELECT or begins with one. -/
theorem isComposed_ofFragment {f : Fragment} (h : k = .select → ∃ rest, f.sql = "SELECT " ++ rest) :
    (ofFragment k f).IsComposed where
  joined := joined_singleton rfl
  kind h := by
    rcases h with h | h | h
    · cases h
    · cases h
    · exact absurd h (Nat.lt_irrefl 1)
  nonempty _ := List.cons_ne_nil _ _
  selects hk _ hp := by
    cases List.mem_singleton.mp hp
    exact h hk

/-- Appended text keeps the form, also where it becomes the first section. -/
theorem isComposed_append (h : s.IsComposed) (hp : s.pending = none) :
    (s.append sql).IsComposed := by
  rw [append]
  split
  · rename_i hempty
    have hnil : s.sections = [] := by simpa using hempty
    have hkind : s.kind ≠ .select := fun hk => h.nonempty hk hnil
    refine ⟨?_, fun hmore => ?_, fun hk => absurd hk hkind, fun hk => absurd hk hkind⟩
    · rw [pushSection, hnil]
      exact joined_singleton hp
    · simp only [pushSection, hnil, Option.isSome_none, Bool.false_eq_true, List.nil_append,
        List.length_singleton, Nat.lt_irrefl, false_or, or_false] at hmore
      exact h.kind (Or.inr (Or.inl hmore))
  · refine ⟨joined_appendLast h.joined, ?_, fun hk => ?_,
      fun hk => selects_appendLast (h.selects hk)⟩
    · show _ ∨ _ ∨ 1 < (appendLast sql s.sections).length → _
      rw [length_appendLast]
      exact h.kind
    · show appendLast sql s.sections ≠ []
      rw [← List.length_pos_iff, length_appendLast, List.length_pos_iff]
      exact h.nonempty hk

theorem isComposed_extend (h : s.IsComposed) (hp : s.pending = none) (f : Fragment) :
    (s.extend f).IsComposed :=
  have ha : (s.append f.sql).IsComposed := isComposed_append h hp
  ⟨ha.joined, ha.kind, ha.nonempty, ha.selects⟩

theorem isComposed_beginCompound (h : s.IsComposed) (hk : s.kind = .select)
    (operator : SetOperator) : (s.beginCompound operator).IsComposed :=
  ⟨h.joined, fun _ => hk, h.nonempty, h.selects⟩

/-- The section that a set operator waited for keeps the form, if it is a SELECT. -/
theorem isComposed_pushSection (h : s.IsComposed) (hp : s.pending.isSome = true)
    (hsql : ∃ rest, sql = "SELECT " ++ rest) : (s.pushSection sql).IsComposed := by
  have hk : s.kind = .select := h.kind (Or.inl hp)
  refine ⟨joined_snoc h.joined (h.nonempty hk) hp, fun _ => hk, fun _ => ?_, fun _ p hm => ?_⟩
  · exact List.append_ne_nil_of_right_ne_nil _ (List.cons_ne_nil _ _)
  · rcases List.mem_append.mp hm with hold | hnew
    · exact h.selects hk p hold
    · cases List.mem_singleton.mp hnew
      exact hsql

theorem isComposed_setView (h : s.IsComposed) (hk : s.kind = .select) (name : String)
    (ifNotExists : Bool) : (s.setView name ifNotExists).IsComposed :=
  ⟨h.joined, fun _ => hk, h.nonempty, h.selects⟩

/-! ### What the form tells -/

/-- A statement is combined exactly if it holds some set operator. -/
theorem isCompound_iff_holdsOperator (h : s.IsComposed) :
    s.isCompound = true ↔ ∃ operator, s.holdsOperator operator = true := by
  simp only [isCompound, holdsOperator, Bool.or_eq_true, decide_eq_true_eq, beq_iff_eq,
    List.any_eq_true]
  constructor
  · rintro (hlength | hpending)
    · -- the second section has one
      obtain ⟨first, rest, hs⟩ :=
        List.exists_cons_of_length_pos (Nat.lt_trans Nat.zero_lt_one hlength)
      have hjoined := h.joined
      rw [hs] at hlength hjoined ⊢
      obtain ⟨second, rest, rfl⟩ := List.exists_cons_of_ne_nil (l := rest) (by
        rintro rfl
        exact Nat.lt_irrefl 1 hlength)
      obtain ⟨operator, hoperator⟩ := Option.isSome_iff_exists.mp (hjoined.later second (by simp))
      exact ⟨operator, Or.inr ⟨second, by simp, hoperator⟩⟩
    · obtain ⟨operator, hoperator⟩ := Option.isSome_iff_exists.mp hpending
      exact ⟨operator, Or.inl hoperator⟩
  · rintro ⟨operator, hpending | ⟨part, hpart, hoperator⟩⟩
    · exact Or.inr (by rw [hpending]; rfl)
    · -- it is not the first section
      refine Or.inl ?_
      have hjoined := h.joined
      cases hs : s.sections with
      | nil =>
        rw [hs] at hpart
        cases hpart
      | cons first rest =>
        rw [hs] at hpart hjoined
        rcases List.mem_cons.mp hpart with rfl | hrest
        · rw [hjoined.head part rfl] at hoperator
          cases hoperator
        · have hpos := List.length_pos_of_mem hrest
          rw [List.length_cons]
          omega

end Statement

/-! ### Drafts -/

/-- The form of a draft: that of its statement, and the fields of a SELECT are remembered. -/
structure Draft.IsComposed (d : Draft) : Prop where
  statement : d.statement.IsComposed
  projection : d.statement.kind = .select → d.projection ≠ []

/-- The text of a selection begins with its keyword, and its projection has a field. -/
theorem Selection.compile_eq_ok {s : Selection} {sql : String} {projection : List Field}
    (h : s.compile = .ok (sql, projection)) :
    (∃ rest, sql = "SELECT " ++ rest) ∧ projection ≠ [] := by
  simp only [compile, ite_error_eq_ok_iff, Bool.or_eq_true, not_or] at h
  obtain ⟨⟨-, hfields⟩, h⟩ := h
  split at h
  · -- all columns of an expression are the expression itself
    simp only [bind_eq_ok_iff, pure_eq_ok_iff] at h
    obtain ⟨expression, -, heq⟩ := h
    cases heq
    exact ⟨⟨_, String.append_assoc⟩, List.cons_ne_nil _ _⟩
  · simp only [bind_eq_ok_iff, pure_eq_ok_iff] at h
    obtain ⟨fields, -, source, -, heq⟩ := h
    cases heq
    refine ⟨⟨(if s.distinct then "DISTINCT " else "") ++ fields ++ " FROM " ++ source, ?_⟩, ?_⟩
    · simp only [String.append_assoc]
    · exact fun hnil => hfields (List.isEmpty_iff.mpr hnil)

/-- The draft of an opening has the form. -/
theorem Opening.isComposed_draft {o : Opening} {d : Draft} (h : o.draft = .ok d) :
    d.IsComposed := by
  have hother : ∀ {k : StatementKind} (f : Fragment), k ≠ .select →
      (Draft.ofFragment k f).IsComposed := fun _ hk =>
    ⟨Statement.isComposed_ofFragment fun hselect => absurd hselect hk,
      fun hselect => absurd hselect hk⟩
  cases o with
  | select selection =>
    simp only [draft, bind_eq_ok_iff, pure_eq_ok_iff] at h
    obtain ⟨⟨sql, projection⟩, hs, rfl⟩ := h
    obtain ⟨hsql, hprojection⟩ := Selection.compile_eq_ok hs
    exact ⟨Statement.isComposed_ofFragment (f := .ofSql sql) fun _ => hsql, fun _ => hprojection⟩
  | _ =>
    simp only [draft, bind_eq_ok_iff, pure_eq_ok_iff] at h
    obtain ⟨f, -, rfl⟩ := h
    exact hother f (by decide)

namespace Draft

variable {dialect : Dialect} {d d' : Draft} {v : Verb}

theorem isComposed_empty : Draft.empty.IsComposed :=
  ⟨Statement.isComposed_empty, fun h => by cases h⟩

theorem isComposed_addClause {c : Clause} (hd : d.IsComposed)
    (h : addClause dialect c d = .ok () d') : d'.IsComposed := by
  obtain ⟨hp, ⟨-, rfl⟩ | ⟨f, -, rfl⟩⟩ := addClause_eq_ok h
  · exact hd
  · refine ⟨Statement.isComposed_extend hd.statement hp f, fun hk => hd.projection ?_⟩
    rw [← Statement.kind_append d.statement f.sql]
    exact hk

/-- **Every change keeps the form.** -/
theorem isComposed_edit {b : Builder} (hd : b.draft.IsComposed) (ho : b.opens v = false)
    (hv : v.handlesError = false) (h : v.edit b.dialect b.draft = .ok () d') :
    d'.IsComposed := by
  cases v with
  | start opening =>
    cases opening with
    | select s =>
      -- the SELECT does not open, so a set operator waits for it
      have hp : b.draft.statement.pending.isSome = true := by
        rw [Builder.opens, Bool.not_eq_false', Bool.and_eq_true] at ho
        exact ho.1
      obtain ⟨sql, projection, hs, rfl⟩ := addSelection_eq_ok h
      obtain ⟨hsql, hprojection⟩ := Selection.compile_eq_ok hs
      exact ⟨Statement.isComposed_pushSection hd.statement hp hsql, fun _ => hprojection⟩
    | _ => cases ho
  | clause c => exact isComposed_addClause hd h
  | like field pattern negated => exact isComposed_addClause hd (Verb.edit_clause rfl h)
  | nullTest field negated => exact isComposed_addClause hd (Verb.edit_clause rfl h)
  | combine c =>
    obtain ⟨hk, -, rfl⟩ := combine_eq_ok h
    exact ⟨Statement.isComposed_beginCompound hd.statement hk _, hd.projection⟩
  | combineSelect c table =>
    obtain ⟨hk, -, fields, source, -, -, rfl⟩ := combineSelect_eq_ok h
    refine ⟨?_, hd.projection⟩
    refine Statement.isComposed_pushSection ?_ rfl ⟨fields ++ " FROM " ++ source, ?_⟩
    · exact Statement.isComposed_beginCompound hd.statement hk _
    · simp only [String.append_assoc]
  | createView name ifNotExists =>
    obtain ⟨hk, -, rfl⟩ := createView_eq_ok h
    exact ⟨Statement.isComposed_setView hd.statement hk _ _, hd.projection⟩
  | setError _ => cases hv
  | reset => cases hv

end Draft

/-! ### Builders -/

namespace Builder

/-- **Every verb keeps the form.** -/
theorem isComposed_run (b : Builder) (v : Verb) (h : b.draft.IsComposed) :
    (b.run v).draft.IsComposed := by
  have hstep := b.step_run v
  generalize b.run v = b' at hstep ⊢
  cases hstep with
  | opened ho hd => exact Opening.isComposed_draft hd
  | edited ho hv hb hd => exact Draft.isComposed_edit h ho hv hd
  | reset => exact Draft.isComposed_empty
  | setError message =>
    rw [setError]
    split <;> exact h
  | refused ho he => exact h
  | frozen ho hv he => exact h
  | failed ho hv hb he => exact h

end Builder

end FluentSql
