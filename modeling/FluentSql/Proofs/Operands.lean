import FluentSql.Proofs.Chaining
import FluentSql.Proofs.Rendering

/-!
# The operands of comparisons

A comparison compiles to a field, an operator and a right-hand side.  The right-hand side should not
be blank, and a list should stand behind IN or NOT IN only, with a value in it.  Making a comparison
checks the list, and compiling one checks it again, but only that it is not empty: a comparison that
was not made but written down compiles with its list behind any operator.  Text of the caller is
checked in neither place, so behind an operator that takes no list it may be blank.

## Main definitions

* `Condition.rightSide` — the right-hand side of a comparison as it is written.
* `Condition.WellFormed` — a comparison with a right-hand side as it should be.
* `Condition.Slips` — the two ways to get past the checks.

## Main results

* `Condition.wellFormed_iff_not_slips` — **a comparison that compiles is well-formed unless it
  slips.**
* `Condition.exists_compile_compare_iff`, `Filter.exists_compile_iff` — which comparisons and
  filters compile.
* `Filter.operands_are_checked` — **what this means for the comparisons of a filter.**
* `Filter.list_of_equals_compiles` — a list behind an equals sign.
-/

namespace FluentSql

namespace Condition

variable {operator : Comparison} {operand : Operand} {field : Field}

/-! ### The right-hand side -/

/-- The right-hand side of a comparison as it is written. -/
def rightSide (operator : Comparison) (operand : Operand) : Except Error String := do
  return enclosed operator (← operandFragment operand).sql

/-- The right-hand side is not blank, and a list stands behind an operator for lists and has
values. -/
structure WellFormed (operator : Comparison) (operand : Operand) (right : String) : Prop where
  present : isBlankText right = false
  list : ∀ vs, operand = .list vs → operator.isMembership = true ∧ vs ≠ []

/-- A list, or a blank text of the caller, behind an operator that takes no list. -/
inductive Slips (operator : Comparison) : Operand → Prop
  | list (h : operator.isMembership = false) (vs : List Value) : Slips operator (.list vs)
  | blank (h : operator.isMembership = false) {sql : String} (hsql : isBlankText sql = true) :
    Slips operator (.raw sql)

/-- Behind an operator for lists there is always a parenthesis. -/
theorem isBlankText_enclosed (h : operator.isMembership = true) (sql : String) :
    isBlankText (enclosed operator sql) = false := by
  refine Text.allBlank_eq_false_of_mem (c := '(') ?_ (by decide)
  unfold enclosed
  rw [h, Bool.true_and]
  split
  · simp
  · rename_i hparen
    have hhead : sql.toList.head? = some '(' := by simpa using hparen
    exact List.mem_of_mem_head? hhead

/-- Behind any other operator there is nothing but the operand. -/
theorem enclosed_of_scalar (h : operator.isMembership = false) (sql : String) :
    enclosed operator sql = sql := by
  unfold enclosed
  rw [h]
  rfl

theorem isBlankText_marks {n : Nat} (h : n ≠ 0) : isBlankText (Placeholder.marks n) = false := by
  apply Text.allBlank_of_tight
  rw [Placeholder.marks, String.toList_intercalate]
  apply Text.tight_intercalate
  · simpa using h
  · intro part hpart
    obtain ⟨mark, hmark, rfl⟩ := List.mem_map.mp hpart
    rw [List.eq_of_mem_replicate hmark]
    exact ⟨[], '?', rfl, by decide⟩

/-- An operand that has SQL is blank only if it is blank text of the caller. -/
theorem isBlankText_operandFragment {f : Fragment} (h : operandFragment operand = .ok f) :
    isBlankText f.sql = true ↔ ∃ sql, operand = .raw sql ∧ isBlankText sql = true := by
  cases operand with
  | value v =>
    cases h
    have hmark : isBlankText "?" = false := by decide
    exact iff_of_false (by simp [hmark]) (by simp)
  | column field =>
    simp only [operandFragment, bind_eq_ok_iff, pure_eq_ok_iff] at h
    obtain ⟨sql, hsql, rfl⟩ := h
    have hpresent : isBlankText sql = false := Text.allBlank_of_tight (Field.tight_render hsql)
    exact iff_of_false (by simp [Fragment.ofSql, hpresent]) (by simp)
  | list vs =>
    simp only [operandFragment, ite_error_eq_ok_iff] at h
    obtain ⟨hne, heq⟩ := h
    cases heq
    have hlength : vs.length ≠ 0 := by simpa using hne
    exact iff_of_false (by simp [isBlankText_marks hlength]) (by simp)
  | raw sql =>
    cases h
    have htrim : isBlankText (trimmed sql) = isBlankText sql := by
      rw [isBlankText, toList_trimmed, Text.allBlank_trim, isBlankText]
    simp [Fragment.ofSql, htrim]

/-- **A comparison that compiles is well-formed unless it slips.** -/
theorem wellFormed_iff_not_slips {right : String} (h : rightSide operator operand = .ok right) :
    WellFormed operator operand right ↔ ¬Slips operator operand := by
  simp only [rightSide, bind_eq_ok_iff, pure_eq_ok_iff] at h
  obtain ⟨f, hf, rfl⟩ := h
  have hvalues : ∀ vs, operand = .list vs → vs ≠ [] := by
    rintro vs rfl rfl
    cases hf
  cases hmember : operator.isMembership with
  | true =>
    refine iff_of_true ⟨isBlankText_enclosed hmember _, fun vs hvs => ⟨hmember, hvalues vs hvs⟩⟩ ?_
    intro hslips
    cases hslips with
    | list h => rw [hmember] at h; cases h
    | blank h => rw [hmember] at h; cases h
  | false =>
    rw [enclosed_of_scalar hmember]
    have hblank := isBlankText_operandFragment hf
    constructor
    · intro hwell hslips
      cases hslips with
      | list _ vs =>
        have hlist := (hwell.list vs rfl).1
        rw [hmember] at hlist
        cases hlist
      | blank _ hsql =>
        have hmissing := hblank.mpr ⟨_, rfl, hsql⟩
        rw [hwell.present] at hmissing
        cases hmissing
    · intro hslips
      refine ⟨?_, fun vs hvs => ?_⟩
      · rw [Bool.eq_false_iff]
        intro hmissing
        obtain ⟨sql, rfl, hsql⟩ := hblank.mp hmissing
        exact hslips (.blank hmember hsql)
      · subst hvs
        exact absurd (.list hmember vs) hslips

/-! ### What compiles -/

/-- An operand has SQL unless it is a list without values or a field without text. -/
theorem exists_operandFragment_iff :
    (∃ f, operandFragment operand = .ok f) ↔ operand ≠ .list [] ∧
      ∀ column, operand = .column column → ∃ sql, column.render = .ok sql := by
  cases operand with
  | value v => exact iff_of_true ⟨_, rfl⟩ ⟨by simp, by simp⟩
  | raw sql => exact iff_of_true ⟨_, rfl⟩ ⟨by simp, by simp⟩
  | list vs =>
    cases vs with
    | nil => exact iff_of_false (fun ⟨_, h⟩ => by cases h) (fun h => h.1 rfl)
    | cons v vs => exact iff_of_true ⟨_, rfl⟩ ⟨by simp, by simp⟩
  | column field =>
    simp only [operandFragment, bind_eq_ok_iff, pure_eq_ok_iff]
    constructor
    · rintro ⟨_, sql, hsql, -⟩
      refine ⟨by simp, ?_⟩
      rintro _ ⟨⟩
      exact ⟨sql, hsql⟩
    · rintro ⟨-, hcolumn⟩
      obtain ⟨sql, hsql⟩ := hcolumn field rfl
      exact ⟨_, sql, hsql, rfl⟩

/-- A comparison compiles exactly if its field and its operand have SQL. -/
theorem exists_compile_compare_iff :
    (∃ g, (compare field operator operand).compile = .ok g) ↔
      (∃ left, field.render = .ok left) ∧ operand ≠ .list [] ∧
        ∀ column, operand = .column column → ∃ sql, column.render = .ok sql := by
  rw [← exists_operandFragment_iff]
  simp only [compile, bind_eq_ok_iff, pure_eq_ok_iff]
  constructor
  · rintro ⟨_, left, hleft, right, hright, -⟩
    exact ⟨⟨left, hleft⟩, right, hright⟩
  · rintro ⟨⟨left, hleft⟩, right, hright⟩
    exact ⟨_, left, hleft, right, hright, rfl⟩

/-! ### Errors -/

/-- An operand without SQL is a field without text or a list without values. -/
theorem error_operandFragment {e : Error} (h : operandFragment operand = .error e) :
    e = Field.blankError ∨ operand = .list [] ∧ e = .emptyInput "value" context := by
  cases operand with
  | value v => cases h
  | raw sql => cases h
  | column field =>
    rw [operandFragment, bind_eq_error_iff] at h
    rcases h with h | ⟨sql, -, h⟩
    · exact Or.inl (Field.error_render h)
    · cases h
  | list vs =>
    rw [operandFragment] at h
    split at h
    · rename_i hempty
      cases h
      rw [List.isEmpty_iff.mp hempty]
      exact Or.inr ⟨rfl, rfl⟩
    · cases h

/-- A comparison that does not compile has a field without text, or an empty list for its operand.
-/
theorem error_compile_compare {e : Error}
    (h : (compare field operator operand).compile = .error e) :
    e = Field.blankError ∨ operand = .list [] ∧ e = .emptyInput "value" context := by
  rw [compile, bind_eq_error_iff] at h
  rcases h with h | ⟨left, -, h⟩
  · exact Or.inl (Field.error_render h)
  · rw [bind_eq_error_iff] at h
    rcases h with h | ⟨right, -, h⟩
    · exact error_operandFragment h
    · cases h

/-- A condition that does not compile lacks something. -/
theorem error_compile {c : Condition} {e : Error} (h : c.compile = .error e) :
    ∃ argument context, e = .emptyInput argument context := by
  cases c with
  | compare field operator operand =>
    rcases error_compile_compare h with rfl | ⟨-, rfl⟩
    · exact ⟨_, _, rfl⟩
    · exact ⟨_, _, rfl⟩
  | null field negated =>
    rw [compile, bind_eq_error_iff] at h
    rcases h with h | ⟨left, -, h⟩
    · exact ⟨_, _, Field.error_render h⟩
    · cases h
  | raw sql =>
    rw [compile] at h
    split at h
    · cases h
      exact ⟨_, _, rfl⟩
    · cases h

/-- What a comparison is refused for when it is made: a list behind an operator that takes none, or
a list without values. -/
theorem ofComparison_eq_error {e : Error} (h : ofComparison field operator operand = .error e) :
    (∃ vs, operand = .list vs ∧ operator.isMembership = false ∧
        e = .invalidType "value" context "a scalar for this operator") ∨
      operand = .list [] ∧ operator.isMembership = true ∧ e = .emptyInput "value" context := by
  cases operand with
  | list vs =>
    unfold ofComparison at h
    dsimp only at h
    split at h
    · rename_i hscalar
      cases h
      exact Or.inl ⟨vs, rfl, by simpa using hscalar, rfl⟩
    · rename_i hmember
      split at h
      · rename_i hempty
        cases h
        rw [List.isEmpty_iff.mp hempty]
        exact Or.inr ⟨rfl, by simpa using hmember, rfl⟩
      · cases h
  | _ => cases h

/-- **A comparison that would not be made does not compile for the same reason** exactly if its
operator takes lists and its field has SQL. -/
theorem compile_eq_error_iff {e : Error} (h : ofComparison field operator operand = .error e) :
    (compare field operator operand).compile = .error e ↔
      operator.isMembership = true ∧ ∃ left, field.render = .ok left := by
  have hfield : Field.blankError ≠ .emptyInput "value" context := by decide
  rcases ofComparison_eq_error h with ⟨vs, rfl, hscalar, rfl⟩ | ⟨rfl, hmember, rfl⟩
  · -- compiling gives no error of this kind
    refine iff_of_false ?_ (by simp [hscalar])
    intro hcompile
    obtain ⟨argument, context, heq⟩ := error_compile hcompile
    cases heq
  · constructor
    · intro hcompile
      refine ⟨hmember, ?_⟩
      cases hleft : field.render with
      | ok left => exact ⟨left, rfl⟩
      | error e =>
        rw [compile, hleft, Field.error_render hleft] at hcompile
        exact absurd (Except.error.inj hcompile) hfield
    · rintro ⟨-, left, hleft⟩
      rw [compile, hleft]
      rfl

/-- A comparison that was made slips with text of the caller at most. -/
theorem raw_of_slips {c : Condition} (h : ofComparison field operator operand = .ok c)
    (hslips : Slips operator operand) : ∃ sql, operand = .raw sql ∧ isBlankText sql = true := by
  cases hslips with
  | list hscalar vs =>
    simp [ofComparison, hscalar] at h
  | blank _ hsql => exact ⟨_, rfl, hsql⟩

end Condition

namespace Filter

open Condition

/-- The SQL of a part stands in that of all parts. -/
theorem exists_sql_of_mem {ns : List Node} {n : Node} {g : Fragment}
    (h : compileNodes ns = .ok g) (hn : n ∈ ns) :
    ∃ part before after, n.compile = .ok part ∧ g.sql = before ++ part.sql ++ after := by
  induction ns generalizing g with
  | nil => cases hn
  | cons first ns ih =>
    simp only [compileNodes, bind_eq_ok_iff, pure_eq_ok_iff] at h
    obtain ⟨part, hpart, rest, hrest, rfl⟩ := h
    rcases List.mem_cons.mp hn with rfl | hn
    · exact ⟨part, "", rest.sql, hpart, by rw [String.empty_append, Fragment.sql_append]⟩
    · obtain ⟨other, before, after, hother, hsql⟩ := ih hrest hn
      refine ⟨other, part.sql ++ before, after, hother, ?_⟩
      rw [Fragment.sql_append, hsql]
      simp only [String.append_assoc]

/-- A filter compiles exactly if it has no error, has parts, and each of them compiles. -/
theorem exists_compile_iff (f : Filter) :
    (∃ g, f.compile = .ok g) ↔
      f.error = none ∧ f.nodes ≠ [] ∧ ∀ n ∈ f.nodes, ∃ part, n.compile = .ok part := by
  constructor
  · rintro ⟨g, hg⟩
    obtain ⟨he, hnodes⟩ := compile_eq_ok hg
    refine ⟨he, ?_, fun n hn => ?_⟩
    · intro hnil
      simp [compile, he, hnil] at hg
    · obtain ⟨part, -, -, hpart, -⟩ := exists_sql_of_mem hnodes hn
      exact ⟨part, hpart⟩
  · rintro ⟨he, hne, hparts⟩
    have hnodes : ∀ ns : List Node, (∀ n ∈ ns, ∃ part, n.compile = .ok part) →
        ∃ g, compileNodes ns = .ok g := by
      intro ns hns
      induction ns with
      | nil => exact ⟨_, rfl⟩
      | cons n ns ih =>
        obtain ⟨hn, hrest⟩ := List.forall_mem_cons.mp hns
        obtain ⟨part, hpart⟩ := hn
        obtain ⟨rest, hcompiled⟩ := ih hrest
        refine ⟨part ++ rest, ?_⟩
        rw [compileNodes, hpart, hcompiled]
        rfl
    obtain ⟨g, hg⟩ := hnodes f.nodes hparts
    refine ⟨g, ?_⟩
    simp [compile, he, hne, hg]

/-- A filter that does not compile has an error already, or lacks something. -/
theorem error_compile {f : Filter} {e : Error} (h : f.compile = .error e) :
    f.error = some e ∨ ∃ argument context, e = .emptyInput argument context := by
  have hnodes : ∀ ns : List Node, compileNodes ns = .error e →
      ∃ argument context, e = .emptyInput argument context := by
    intro ns hns
    induction ns with
    | nil => cases hns
    | cons n ns ih =>
      rw [compileNodes, bind_eq_error_iff] at hns
      rcases hns with hns | ⟨part, -, hns⟩
      · cases n with
        | condition c => exact Condition.error_compile hns
        | connective c => cases hns
      · rw [bind_eq_error_iff] at hns
        rcases hns with hns | ⟨rest, -, hns⟩
        · exact ih hns
        · cases hns
  rw [compile] at h
  split at h
  · rename_i he
    cases h
    exact Or.inl he
  · split at h
    · cases h
      exact Or.inr ⟨_, _, rfl⟩
    · exact Or.inr (hnodes _ h)

/-- **How the operands in a filter are checked.**  A filter, however it was put together, compiles
exactly if it has no error, has parts, and each of them compiles; for a comparison this means that
its field and its operand have SQL, which an empty list has not.  Then the SQL of every comparison
stands there with its right-hand side, and it is well-formed unless it slips: with a list behind an
operator that takes none, or with blank text of the caller.  If the filter does not compile then the
reason is an error that it had already, or that something is missing.  A comparison that would not
be made does not compile for the same reason exactly if its operator takes lists and its field has
SQL; and one that was made slips with blank text at most. -/
theorem operands_are_checked (f : Filter) :
    ((∃ g, f.compile = .ok g) ↔
      f.error = none ∧ f.nodes ≠ [] ∧ ∀ n ∈ f.nodes, ∃ part, n.compile = .ok part) ∧
    (∀ g, f.compile = .ok g → ∀ field operator operand,
      Node.condition (.compare field operator operand) ∈ f.nodes →
        ∃ left right before after, field.render = .ok left ∧
          rightSide operator operand = .ok right ∧
          g.sql = before ++ ("(" ++ left ++ " " ++ operator.text ++ " " ++ right ++ ")") ++ after ∧
          (WellFormed operator operand right ↔ ¬Slips operator operand)) ∧
    (∀ e, f.compile = .error e →
      f.error = some e ∨ ∃ argument context, e = .emptyInput argument context) ∧
    ∀ field operator operand,
      ((∃ g, (Node.condition (.compare field operator operand)).compile = .ok g) ↔
        (∃ left, field.render = .ok left) ∧ operand ≠ .list [] ∧
          ∀ column, operand = .column column → ∃ sql, column.render = .ok sql) ∧
      (∀ e, ofComparison field operator operand = .error e →
        ((compare field operator operand).compile = .error e ↔
          operator.isMembership = true ∧ ∃ left, field.render = .ok left)) ∧
      ∀ c, ofComparison field operator operand = .ok c → Slips operator operand →
        ∃ sql, operand = .raw sql ∧ isBlankText sql = true := by
  refine ⟨exists_compile_iff f, ?_, fun e h => error_compile h, fun field operator operand =>
    ⟨exists_compile_compare_iff, fun e h => compile_eq_error_iff h, fun c h => raw_of_slips h⟩⟩
  intro g hg field operator operand hmem
  obtain ⟨part, before, after, hpart, hsql⟩ := exists_sql_of_mem (compile_eq_ok hg).2 hmem
  simp only [Node.compile, Condition.compile, bind_eq_ok_iff, pure_eq_ok_iff] at hpart
  obtain ⟨left, hleft, right, hright, rfl⟩ := hpart
  have hside : rightSide operator operand = .ok (enclosed operator right.sql) := by
    rw [rightSide, hright]
    rfl
  exact ⟨left, _, before, after, hleft, hside, hsql, wellFormed_iff_not_slips hside⟩

/-- A filter by a list of numbers. -/
def someIds (operator : Comparison) : Filter :=
  ⟨[.condition (.compare (.column "id") operator (.list [.int32 1, .int32 2]))], none⟩

/-- Behind NOT IN the list has its parentheses. -/
theorem operands_are_checked_someIds :
    (someIds .notMember).compile = .ok ⟨"(`id` NOT IN (?,?))", [.int32 1, .int32 2]⟩ ∧
      ∃ right, rightSide .notMember (.list [.int32 1, .int32 2]) = .ok right ∧
        WellFormed .notMember (.list [.int32 1, .int32 2]) right := by
  have hcompile : (someIds .notMember).compile =
      .ok ⟨"(`id` NOT IN (?,?))", [.int32 1, .int32 2]⟩ := by rfl
  obtain ⟨left, right, before, after, -, hright, -, hwell⟩ :=
    (operands_are_checked (someIds .notMember)).2.1 _ hcompile _ _ _ List.mem_cons_self
  refine ⟨hcompile, right, hright, hwell.mpr fun hslips => ?_⟩
  cases hslips with
  | list hscalar => cases hscalar

/-- Behind an equals sign it has none: making the comparison is refused, compiling it is not.  Nor
is there anything behind the equals sign if the text of the caller is blank. -/
theorem list_of_equals_compiles :
    ofComparison (.column "id") .equal (.list [.int32 1, .int32 2]) =
        .error (.invalidType "value" context "a scalar for this operator") ∧
      (someIds .equal).compile = .ok ⟨"(`id` = ?,?)", [.int32 1, .int32 2]⟩ ∧
      ¬WellFormed .equal (.list [.int32 1, .int32 2]) "?,?" ∧
      (Filter.mk [.condition (.compare (.column "id") .equal (.raw " "))] none).compile =
        .ok ⟨"(`id` = )", []⟩ := by
  refine ⟨by rfl, by rfl, fun hwell => ?_, by rfl⟩
  have hlist := (hwell.list _ rfl).1
  cases hlist

end Filter

end FluentSql
