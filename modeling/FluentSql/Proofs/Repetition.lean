import FluentSql.Proofs.Composition
import FluentSql.Proofs.LastSelect

/-!
# Repeating a SELECT

A set operator can be asked for with its SELECT: the fields of the last SELECT are then repeated,
from another table.  It is the same as to ask for the operator and then for a SELECT of the fields
that are remembered.

What is repeated is what the fields are as SQL, and for a SELECT of fields that is the text that
stands there.  A computed expression is no list of fields, though: its text is read as a field
before it is repeated.  What a field takes for an expression is not what a table does, so `1+5`
comes back as the name of a column.

## Main definitions

* `Builder.CanRepeat` — the states in which a SELECT is repeated.
* `Field.Restates` — what is made of a text that is read as a field.
* `Selection.Restates` — what the fields of a SELECT have in common with its text.

## Main results

* `Field.render_core_eq_iff`, `Field.restates_of_render` — when a text that is read as a field is
  passed on.
* `Selection.restates_of_compile` — **the fields of a SELECT stand in its text**, unless it has only
  an expression.
* `Builder.combineSelect_eq_combine_select` — **an operator with its SELECT is an operator and a
  SELECT.**
* `Builder.combineSelect_restates` — **what is repeated.**
* `Builder.sum_is_quoted` — an expression that comes back as a name.
-/

namespace FluentSql

/-! ### Text that is read as a field -/

namespace Field

variable {cs : List Char} {body : String}

/-- Without its alias the SQL of a text holds no ` as `. -/
theorem not_holdsWord_render_core (h : (ofChars cs).core.render = .ok body) :
    Text.holdsWord aliasWord body.toList = false := by
  induction cs using aliasInduction with
  | whole cs hsplit =>
    have hword := splitAlias_trim_eq_none_iff.mp hsplit
    rw [core_ofChars hsplit, render_ofChars hsplit] at h
    split at h
    · rw [← Except.ok.inj h, String.toList_ofList]
      exact hword
    · rw [ite_error_eq_ok_iff] at h
      rw [← Except.ok.inj h.2]
      -- quoting a name makes no new word
      refine not_holdsWord_quoteQualified (by decide) (by decide) (by decide) ?_
      rw [String.toList_ofList]
      exact hword
  | cut cs front label hsplit ih =>
    rw [ofChars_of_splitAlias hsplit, withAlias_eq] at h
    exact ih h

/-- A text is passed on exactly if it has no alias, and a parenthesis or a star. -/
theorem render_core_eq_iff (h : (ofChars cs).core.render = .ok body) :
    body = String.ofList (Text.trim cs) ↔
      Text.holdsWord aliasWord (Text.trim cs) = false ∧ isExpressionText cs = true := by
  constructor
  · rintro rfl
    have hword := not_holdsWord_render_core h
    rw [String.toList_ofList] at hword
    have hsplit := splitAlias_trim_eq_none_iff.mpr hword
    rw [core_ofChars hsplit, render_ofChars hsplit] at h
    refine ⟨hword, ?_⟩
    by_contra hname
    rw [if_neg hname, ite_error_eq_ok_iff] at h
    -- a name has more backticks when it is quoted
    have hmore := count_backtick_quoteQualified (String.ofList (Text.trim cs))
    rw [Except.ok.inj h.2] at hmore
    exact Nat.lt_irrefl _ hmore
  · rintro ⟨hword, hexpression⟩
    have hsplit := splitAlias_trim_eq_none_iff.mpr hword
    rw [core_ofChars hsplit, render_ofChars hsplit, if_pos hexpression] at h
    exact (Except.ok.inj h).symm

/-- What is made of a text when it is read as a field.  What stands behind its last ` as ` is taken
for an alias, and is spelled anew; the rest comes back as it was exactly if it has a parenthesis or
a star, and no further ` as `. -/
structure Restates (text sql : String) : Prop where
  plain : Text.holdsWord aliasWord text.toList = false →
    (sql = text ↔ isExpressionText text.toList = true)
  aliased : Text.holdsWord aliasWord text.toList = true →
    ∃ before found after body, text.toList = before ++ (found ++ after) ∧
      Text.fold found = aliasWord ∧ Text.holdsWord aliasWord (found ++ after).tail = false ∧
      sql = body ++ " AS " ++ quoteIdentifier (unquoteAlias (String.ofList after)) ∧
      (body = String.ofList (Text.trim before) ↔
        Text.holdsWord aliasWord (Text.trim before) = false ∧ isExpressionText before = true)

theorem restates_of_render {text sql : String} (htext : trimmed text = text)
    (h : (parse text).render = .ok sql) : Restates text sql := by
  have htrim : Text.trim text.toList = text.toList := by rw [← toList_trimmed, htext]
  constructor
  · intro hword
    rw [← htrim] at hword
    have hsplit := splitAlias_trim_eq_none_iff.mpr hword
    rw [parse, ← core_ofChars hsplit] at h
    have hiff := render_core_eq_iff h
    rw [hword, htrim, String.ofList_toList] at hiff
    exact hiff.trans (and_iff_right rfl)
  · intro hword
    rw [← htrim] at hword
    obtain ⟨before, found, after, hcs, hfound, hlast, hsplit⟩ := splitAlias_trim_of_holdsWord hword
    rw [parse, ofChars_of_splitAlias hsplit, ofChars_trim, withAlias_eq, render,
      unquoteAlias_congr (Text.trim_trim after)] at h
    obtain ⟨body, hbody, hsql⟩ := bind_eq_ok_iff.mp h
    rw [pure_eq_ok_iff] at hsql
    rw [htrim] at hcs
    exact ⟨before, found, after, body, hcs, hfound, hlast, hsql.symm, render_core_eq_iff hbody⟩

end Field

/-! ### The text of a SELECT -/

/-- The SQL of an expression is its text without the blanks around it. -/
theorem Table.trimmed_render {t : Table} {text : String} (ht : t.isExpression = true)
    (h : t.render = .ok text) : isBlankText text = false ∧ trimmed text = text := by
  cases t with
  | expression sql =>
    rw [render, ite_error_eq_ok_iff] at h
    rw [← Except.ok.inj h.2]
    constructor
    · rw [isBlankText, toList_trimmed, Text.allBlank_trim]
      exact Bool.of_not_eq_true h.1
    · exact trimmed_trimmed sql
  | _ => cases ht

namespace Selection

variable {s : Selection} {sql : String} {projection : List Field}

/-- The keywords in front. -/
def head (s : Selection) : String := "SELECT " ++ (if s.distinct then "DISTINCT " else "")

/-- All columns of an expression are selected, so there is nothing but the expression. -/
def IsComputed (s : Selection) : Prop := s.table.isExpression = true ∧ s.fields = [.star]

/-- The fields of a SELECT, as SQL, are what stands in its text; an expression is restated. -/
structure Restates (s : Selection) (sql fields : String) : Prop where
  listed : ¬s.IsComputed → ∃ source, s.table.render = .ok source ∧
    sql = s.head ++ fields ++ " FROM " ++ source
  computed : s.IsComputed → ∃ text, s.table.render = .ok text ∧ sql = s.head ++ text ∧
    Field.Restates text fields

theorem isComputed_iff : (s.table.isExpression && s.fields == [.star]) = true ↔ s.IsComputed := by
  rw [Bool.and_eq_true, beq_iff_eq, IsComputed]

/-- **The fields of a SELECT stand in its text**, or the expression restated. -/
theorem restates_of_compile (h : s.compile = .ok (sql, projection)) :
    ∃ fields, Field.renderList projection = .ok fields ∧ s.Restates sql fields := by
  simp only [compile, ite_error_eq_ok_iff] at h
  obtain ⟨-, h⟩ := h
  split at h
  · rename_i hcomputed
    rw [isComputed_iff] at hcomputed
    obtain ⟨text, htext, hmade⟩ := bind_eq_ok_iff.mp h
    cases hmade
    obtain ⟨hblank, htrimmed⟩ := Table.trimmed_render hcomputed.1 htext
    obtain ⟨fields, hfields⟩ := Field.exists_render_parse hblank
    -- the text is not blank, so read as a field it has SQL again
    refine ⟨fields, ?_, fun hlisted => absurd hcomputed hlisted, fun _ => ⟨text, htext, rfl, ?_⟩⟩
    · simp [Field.renderList, Field.renderEach, hfields, bind, Except.bind, pure, Except.pure]
    · exact Field.restates_of_render htrimmed hfields
  · rename_i hcomputed
    rw [isComputed_iff] at hcomputed
    simp only [bind_eq_ok_iff, pure_eq_ok_iff] at h
    obtain ⟨fields, hfields, source, hsource, hmade⟩ := h
    cases hmade
    exact ⟨fields, hfields, fun _ => ⟨source, hsource, rfl⟩, fun h => absurd h hcomputed⟩

/-- A SELECT of fields from a table that is no expression. -/
theorem compile_of_render {table : Table} {fields source : String}
    (htable : table.isEmpty = false) (hplain : table.isExpression = false)
    (hne : projection ≠ []) (hfields : Field.renderList projection = .ok fields)
    (hsource : table.render = .ok source) :
    compile ⟨table, projection, false⟩ =
      .ok ("SELECT " ++ fields ++ " FROM " ++ source, projection) := by
  have hfull : projection.isEmpty = false := List.isEmpty_eq_false_iff.mpr hne
  simp [compile, htable, hplain, hfull, hfields, hsource, bind, Except.bind, pure, Except.pure]

end Selection

/-! ### Operators with their SELECT -/

namespace Builder

variable {b : Builder} {c : Combination} {table : Table} {fields source : String}

/-- A SELECT without error, in which no operator waits, can be repeated from a table that is not
empty, unless the operator may stand only once and does. -/
structure CanRepeat (b : Builder) (c : Combination) (table : Table) : Prop where
  error : b.error = none
  kind : b.statement.kind = .select
  pending : b.statement.pending = none
  single : c.operator.isSingle = true → b.statement.holdsOperator c.operator = false
  table : table.isEmpty = false

theorem CanRepeat.needsSection (h : b.CanRepeat c table) : b.draft.needsSection = false :=
  congrArg Option.isSome h.pending

/-- The builder with one more section. -/
def withSection (b : Builder) (operator : SetOperator) (sql : String) : Builder :=
  { b with
    draft := ⟨(b.statement.beginCompound operator).pushSection sql, b.draft.projection⟩ }

theorem run_combine (h : b.CanRepeat c table) :
    b.run (.combine c) =
      { b with draft := ⟨b.statement.beginCompound c.operator, b.draft.projection⟩ } := by
  have hkind : b.draft.statement.kind = .select := h.kind
  have hsection : b.draft.needsSection = false := h.needsSection
  refine extend_of_ok h.error ?_
  simp [Draft.combine, hkind, hsection, statement]

theorem run_combineSelect (h : b.CanRepeat c table) (hne : b.draft.projection ≠ [])
    (hfields : Field.renderList b.draft.projection = .ok fields)
    (hsource : table.render = .ok source) :
    b.run (.combineSelect c table) =
      b.withSection c.operator ("SELECT " ++ fields ++ " FROM " ++ source) := by
  have hkind : b.draft.statement.kind = .select := h.kind
  have hsection : b.draft.needsSection = false := h.needsSection
  have hsingle : (c.operator.isSingle && b.draft.statement.holdsOperator c.operator) = false := by
    cases hop : c.operator.isSingle with
    | false => rfl
    | true => exact h.single hop
  have hrepeated : b.draft.repeatedFields = b.draft.projection := by
    rw [Draft.repeatedFields, List.isEmpty_eq_false_iff.mpr hne]
    rfl
  refine extend_of_ok h.error ?_
  simp [Draft.combineSelect, h.table, hkind, hsection, hsingle, hrepeated, hfields, hsource,
    statement]

/-- The text goes on behind the operator. -/
theorem text_withSection (hpending : b.statement.pending = none) (operator : SetOperator)
    (sql : String) :
    (b.withSection operator sql).text = b.text ++ " " ++ operator.text ++ " " ++ sql := by
  show ((b.statement.beginCompound operator).pushSection sql).render = _
  rw [Statement.render_pushSection, text]
  simp [Statement.render, Statement.beginCompound, hpending, String.append_assoc]

/-- In every state that can be repeated the fields have SQL. -/
theorem exists_fields {dialect : Dialect} {options : Options} {as : List Action}
    (hb : b = (new dialect options).actAll as) (h : b.CanRepeat c table) :
    b.draft.projection ≠ [] ∧ ∃ s sql fields, lastSelection as = some s ∧
      s.compile = .ok (sql, b.draft.projection) ∧
      (∃ part ∈ b.statement.sections, ∃ clauses, part.sql = sql ++ clauses) ∧
      Field.renderList b.draft.projection = .ok fields ∧ s.Restates sql fields := by
  subst hb
  obtain ⟨s, hlast, sql, hs, hpart⟩ := recalls_actAll dialect options as h.kind
  obtain ⟨fields, hfields, hrestates⟩ := Selection.restates_of_compile hs
  exact ⟨(Selection.compile_eq_ok hs).2, s, sql, fields, hlast, hs, hpart, hfields, hrestates⟩

/-- **An operator with its SELECT is an operator and a SELECT.**  In every state that verbs and
terminal verbs lead to and in which a SELECT can be repeated, from a table that is no expression,
the two verbs leave the same builder as the one, which has one more section, no error, and
everything else as it was. -/
theorem combineSelect_eq_combine_select {dialect : Dialect} {options : Options} {as : List Action}
    (hb : b = (new dialect options).actAll as) (h : b.CanRepeat c table)
    (hplain : table.isExpression = false) :
    b.run (.combineSelect c table) =
        (b.run (.combine c)).run (.select table b.draft.projection) ∧
      (b.run (.combineSelect c table)).error = none ∧
      ∃ fields source, Field.renderList b.draft.projection = .ok fields ∧
        table.render = .ok source ∧
        b.run (.combineSelect c table) =
          b.withSection c.operator ("SELECT " ++ fields ++ " FROM " ++ source) := by
  obtain ⟨hne, s, sql, fields, -, -, -, hfields, -⟩ := exists_fields hb h
  obtain ⟨source, hsource⟩ := Table.exists_render h.table
  have hone := run_combineSelect h hne hfields hsource
  have hselect := Selection.compile_of_render h.table hplain hne hfields hsource
  refine ⟨?_, ?_, fields, source, hfields, hsource, hone⟩
  · have hwaiting : (b.run (.combine c)).draft.needsSection = true := by
      rw [run_combine h]
      rfl
    have hnone : (b.run (.combine c)).error = none := by
      rw [run_combine h]
      exact h.error
    rw [Verb.select, run_select_of_waiting hwaiting hnone hselect, run_combine h, hone]
    rfl
  · rw [hone]
    exact h.error

/-- Two columns of the first users. -/
def firstUsers : List Action :=
  [.verb (.select (.named "users") [.column "id", .aliased (.column "name") "n"]),
    .verb (.limit 5)]

/-- Those of other people are added in one step or in two. -/
theorem combineSelect_eq_combine_select_firstUsers :
    ((new .sqlite .default).actAll firstUsers).CanRepeat .except (.named "admins") ∧
      ((new .sqlite .default).actAll firstUsers).run (.combineSelect .except (.named "admins")) =
        (((new .sqlite .default).actAll firstUsers).run (.combine .except)).run
          (.select (.named "admins") [.column "id", .aliased (.column "name") "n"]) := by
  have hrepeat : ((new .sqlite .default).actAll firstUsers).CanRepeat .except (.named "admins") :=
    ⟨rfl, rfl, rfl, fun _ => rfl, rfl⟩
  exact ⟨hrepeat, (combineSelect_eq_combine_select rfl hrepeat rfl).1⟩

/-- **What is repeated.**  In every state that verbs and terminal verbs lead to and in which a
SELECT can be repeated, the text goes on with the operator and a SELECT, from the table that is
given, of the fields of the last SELECT that was made.  These fields are what stands in the section
of that SELECT; but if it has only an expression, the text of the expression is restated as a
field. -/
theorem combineSelect_restates {dialect : Dialect} {options : Options} {as : List Action}
    (hb : b = (new dialect options).actAll as) (h : b.CanRepeat c table) :
    ∃ s sql fields source, lastSelection as = some s ∧
      s.compile = .ok (sql, b.draft.projection) ∧
      (∃ part ∈ b.statement.sections, ∃ clauses, part.sql = sql ++ clauses) ∧
      Field.renderList b.draft.projection = .ok fields ∧ table.render = .ok source ∧
      s.Restates sql fields ∧
      (b.run (.combineSelect c table)).text =
        b.text ++ " " ++ c.operator.text ++ " " ++ ("SELECT " ++ fields ++ " FROM " ++ source) ∧
      (b.run (.combineSelect c table)).params = b.params ∧
      (b.run (.combineSelect c table)).error = none := by
  obtain ⟨hne, s, sql, fields, hlast, hs, hpart, hfields, hrestates⟩ := exists_fields hb h
  obtain ⟨source, hsource⟩ := Table.exists_render h.table
  rw [run_combineSelect h hne hfields hsource]
  exact ⟨s, sql, fields, source, hlast, hs, hpart, hfields, hsource, hrestates,
    text_withSection h.pending _ _, rfl, h.error⟩

/-- A product without a table. -/
def productAlone : List Action :=
  [.verb (.select (.expression "2*3 as n") [.star]), .verb (.limit 1)]

/-- It has a star, so it is repeated as it is, with its alias quoted. -/
theorem combineSelect_restates_product :
    ((new .sqlite .default).actAll productAlone).CanRepeat .intersect (.named "t") ∧
      (((new .sqlite .default).actAll productAlone).run
          (.combineSelect .intersect (.named "t"))).text =
        ((new .sqlite .default).actAll productAlone).text ++
          " INTERSECT SELECT 2*3 AS `n` FROM `t`" := by
  have hrepeat : ((new .sqlite .default).actAll productAlone).CanRepeat .intersect (.named "t") :=
    ⟨rfl, rfl, rfl, fun _ => rfl, rfl⟩
  have hproduct : (Field.renderList
      ((new .sqlite .default).actAll productAlone).draft.projection).toOption =
        some "2*3 AS `n`" := by decide +kernel
  have htable : (Table.named "t").render.toOption = some "`t`" := by decide +kernel
  obtain ⟨s, sql, fields, source, -, -, -, hfields, hsource, -, htext, -⟩ :=
    combineSelect_restates rfl hrepeat
  rw [hfields] at hproduct
  rw [hsource] at htable
  cases hproduct
  cases htable
  refine ⟨hrepeat, htext.trans ?_⟩
  simp only [String.append_assoc]
  rfl

/-- A sum without a table, under an alias. -/
def sumAlone : List Action := [.verb (.select (Table.parse "1+5 as 'res'") [.star])]

/-- It has neither a parenthesis nor a star, so it comes back as the name of a column. -/
theorem sum_is_quoted :
    ((new .sqlite .default).actAll sumAlone).CanRepeat (.union false) (.named "t") ∧
      ((new .sqlite .default).actAll sumAlone).text = "SELECT 1+5 as 'res'" ∧
      (((new .sqlite .default).actAll sumAlone).run
          (.combineSelect (.union false) (.named "t"))).text =
        "SELECT 1+5 as 'res' UNION SELECT `1+5` AS `res` FROM `t`" :=
  ⟨⟨by decide +kernel, by decide +kernel, by decide +kernel,
    fun hsingle => absurd hsingle (by decide), by decide +kernel⟩, by decide +kernel,
    by decide +kernel⟩

end Builder

end FluentSql
