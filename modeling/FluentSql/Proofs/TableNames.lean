import FluentSql.Proofs.Counting
import FluentSql.Proofs.Identifiers
import FluentSql.Proofs.Repetition
import FluentSql.Proofs.Spelling

/-!
# Plain names of tables

A table is given by text, and what it is has to be guessed: a nested SELECT, an expression, several
tables, a table with an alias, or a name.  A name of letters, digits and underscores, with points
between its parts, has nothing in it that could be taken for anything else, the word SELECT apart.
So the verbs that take a table put such a name in quotes, whatever their other arguments are; and a
name that holds the word, in any case of letters and be it within a longer word, is put in
parentheses.

## Main definitions

* `IsPlainName` — names of letters, digits and underscores, qualified or not.
* `Table.HoldsSelect` — names in which the word SELECT stands.
* `TableVerb` — the verbs that take a table.
* `Frames` — SQL of a table within text that does not depend on it.
* `Builder.QuotesName` — what a verb does with the name of a table.

## Main results

* `Table.parse_of_isPlainName` — what a plain name is taken for.
* `Builder.quotesName` — every verb that takes a table quotes its name.
* `Table.plain_names_are_quoted` — **plain names are quoted, unless they hold the word SELECT.**
* `Table.selections_are_no_name` — a name that holds it.
-/

namespace FluentSql

/-! ### Plain names -/

/-- The characters of a plain name: the letters, the digits and the underscore of ASCII. -/
def isNameChar (c : Char) : Bool := c.isAlphanum || c == '_'

/-- A name, qualified or not, of which each part has a character and has plain ones only. -/
def IsPlainName (name : String) : Prop :=
  ∀ part ∈ nameParts name, part ≠ "" ∧ part.toList.all isNameChar = true

instance (name : String) : Decidable (IsPlainName name) :=
  inferInstanceAs (Decidable (∀ part ∈ nameParts name, _))

/-- No character of a plain name is blank. -/
theorem isBlank_of_isNameChar {c : Char} (h : isNameChar c = true) : isBlank c = false := by
  have hclasses : (decide ('A'.val ≤ c.val ∧ c.val ≤ 'Z'.val) ||
      ('a'.val ≤ c.val && c.val ≤ 'z'.val) ||
      ('0'.val ≤ c.val && c.val ≤ '9'.val) || c == '_') = true := h
  simp only [Bool.or_eq_true, Bool.and_eq_true, decide_eq_true_eq, beq_iff_eq,
    UInt32.le_iff_toNat_le] at hclasses
  have hrange : 48 ≤ c.toNat ∧ c.toNat ≤ 122 := by
    have hcode : c.val.toNat = c.toNat := rfl
    have hupper : 'A'.val.toNat = 65 ∧ 'Z'.val.toNat = 90 := by decide
    have hlower : 'a'.val.toNat = 97 ∧ 'z'.val.toNat = 122 := by decide
    have hdigit : '0'.val.toNat = 48 ∧ '9'.val.toNat = 57 := by decide
    rcases hclasses with ((hin | hin) | hin) | rfl
    · omega
    · omega
    · omega
    · decide
  simp [isBlank]
  omega

namespace IsPlainName

variable {name : String} {c : Char}

/-- The characters of a plain name, and the points between its parts. -/
theorem isNameChar_or_point (h : IsPlainName name) (hc : c ∈ name.toList) :
    isNameChar c = true ∨ c = '.' := by
  rcases Text.isSeparator_or_exists_mem_pieces (· == '.') hc with hpoint | ⟨piece, hpiece, hc⟩
  · exact Or.inr (beq_iff_eq.mp hpoint)
  · obtain ⟨-, hall⟩ := h _ (List.mem_map_of_mem hpiece)
    rw [String.toList_ofList] at hall
    exact Or.inl (List.all_eq_true.mp hall c hc)

/-- A plain name holds no other character. -/
theorem notMem (h : IsPlainName name) {d : Char} (hd : isNameChar d = false) (hpoint : d ≠ '.') :
    d ∉ name.toList := by
  intro hmem
  rcases h.isNameChar_or_point hmem with hd' | rfl
  · rw [hd] at hd'
    cases hd'
  · exact hpoint rfl

theorem not_isBlank (h : IsPlainName name) (hc : c ∈ name.toList) : isBlank c = false := by
  rcases h.isNameChar_or_point hc with hc | rfl
  · exact isBlank_of_isNameChar hc
  · decide

theorem trim_eq (h : IsPlainName name) : Text.trim name.toList = name.toList :=
  Text.trim_eq_self fun _ => h.not_isBlank

theorem isBlankText_eq (h : IsPlainName name) : isBlankText name = false := by
  cases hname : name.toList with
  | nil =>
    -- the only part of an empty name is empty
    have hpart : "" ∈ nameParts name := by
      rw [nameParts, hname]
      exact List.mem_singleton.mpr rfl
    exact absurd rfl (h _ hpart).1
  | cons c cs =>
    have hc : c ∈ name.toList := by
      rw [hname]
      exact List.mem_cons_self
    exact Text.allBlank_eq_false_of_mem hc (h.not_isBlank hc)

/-- A plain name has no character that makes it an expression. -/
theorem not_isExpressionText (h : IsPlainName name) :
    Table.isExpressionText name.toList = false := by
  have hlower : ∀ d : Char, d.toLower = '|' → d = '|' := by
    intro d hd
    rcases eq_or_of_toLower hd with hd | ⟨-, hhigh, hcode⟩
    · exact hd
    · have hbar : '|'.toNat = 124 := rfl
      omega
  have hbars : Text.holdsWord "||".toList name.toList = false :=
    Text.not_holdsWord_of_notMem hlower (by decide) (h.notMem (by decide) (by decide))
  have hmarks : ∀ d ∈ "+-*/%()".toList, d ∉ name.toList := by
    have hother : "+-*/%()".toList.all (fun d => !isNameChar d && d != '.') = true := by decide
    intro d hd
    obtain ⟨hchar, hpoint⟩ : isNameChar d = false ∧ d ≠ '.' := by
      simpa using List.all_eq_true.mp hother d hd
    exact h.notMem hchar hpoint
  rw [Table.isExpressionText, hbars, Bool.or_false, List.any_eq_false]
  intro c hc hmark
  exact hmarks c (List.contains_iff_mem.mp hmark) hc

end IsPlainName

namespace Table

variable {name : String}

/-! ### Classifying plain names -/

/-- The word SELECT stands in a name, in some case of letters. -/
def HoldsSelect (name : String) : Prop :=
  ∃ before found after, name.toList = before ++ (found ++ after) ∧
    Text.fold found = "select".toList

/-- Such a name is taken for a nested SELECT. -/
theorem isSubqueryText_iff : isSubqueryText name.toList = true ↔ HoldsSelect name := by
  constructor
  · intro h
    obtain ⟨before, found, after, hname, hfound⟩ := Text.exists_of_holdsWord h
    exact ⟨before, found, after, by rw [hname, List.append_assoc], hfound⟩
  · rintro ⟨before, found, after, hname, hfound⟩
    refine Text.holdsWord_iff.mpr ⟨Text.fold before, Text.fold after, ?_⟩
    rw [hname, ← hfound, Text.fold, Text.fold, Text.fold, Text.fold, List.map_append,
      List.map_append, List.append_assoc]

instance (name : String) : Decidable (HoldsSelect name) :=
  decidable_of_iff (isSubqueryText name.toList = true) isSubqueryText_iff

/-- A plain name is a nested SELECT if it holds that word, and a name otherwise. -/
theorem parse_of_isPlainName (h : IsPlainName name) :
    parse name = if HoldsSelect name then .subquery name else .named name := by
  have hcomma : name.toList.contains ',' = false := by
    rw [← Bool.not_eq_true, List.contains_iff_mem]
    exact h.notMem (by decide) (by decide)
  have halias : splitAlias name.toList = none :=
    Field.splitAlias_eq_none
      (Text.not_holdsWord_of_space_notMem (by decide) (h.notMem (by decide) (by decide)))
  simp only [parse, ofChars, ofItem, h.trim_eq, hcomma, halias, h.not_isExpressionText,
    String.ofList_toList, Bool.false_and, Bool.false_eq_true, if_false, isSubqueryText_iff]

/-- The name of a table is quoted part by part. -/
theorem render_named (h : isBlankText name = false) :
    (named name).render = .ok (quoteQualified name) := by
  rw [render, h]
  rfl

/-- A plain name that is taken for a nested SELECT is put in parentheses. -/
theorem render_subquery (h : IsPlainName name) :
    (subquery name).render = .ok ("(" ++ name ++ ")") := by
  have hopen : ¬(name.toList.head? = some '(' ∧ name.toList.getLast? = some ')') :=
    fun hends => h.notMem (by decide) (by decide) (List.mem_of_mem_head? hends.1)
  have htext : String.ofList ('(' :: (name.toList ++ [')'])) = "(" ++ name ++ ")" := by
    rw [← String.toList_inj]
    simp
  rw [render, h.isBlankText_eq, h.trim_eq, parenthesised, if_neg hopen, htext]
  rfl

end Table

/-! ### Verbs that take a table -/

/-- A verb that takes a table, without the table. -/
inductive TableVerb where
  | select (fields : List Field) (distinct : Bool)
  | insert (batch : Batch)
  | update (assignments : List Assignment)
  | delete
  | join (on : JoinOn) (request : JoinRequest)
  /-- A set operator with a SELECT of the same fields. -/
  | combineSelect (c : Combination)

namespace TableVerb

/-- The verb with a table. -/
def on (table : Table) : TableVerb → Verb
  | select fields distinct => .start (.select ⟨table, fields, distinct⟩)
  | insert batch => .start (.insert table batch)
  | update assignments => .start (.update table assignments)
  | delete => .start (.delete table)
  | join on request => .clause (.join table on request)
  | combineSelect c => .combineSelect c table

/-- The keywords in front of the table. -/
def keywords : TableVerb → String
  | select .. => " FROM "
  | insert _ => "INSERT INTO "
  | update _ => "UPDATE "
  | delete => "DELETE FROM "
  | join .. => " JOIN "
  | combineSelect _ => " FROM "

end TableVerb

/-! ### Text around a name -/

/-- Whatever the name of a table is, there is the same error, or its SQL behind the keywords in
the same text. -/
def Frames (keywords : String) (f : Table → Except Error Fragment) : Prop :=
  (∃ e, ∀ name, isBlankText name = false → f (.named name) = .error e) ∨
  ∃ front back params, ∀ name, isBlankText name = false →
    f (.named name) = .ok ⟨front ++ keywords ++ quoteQualified name ++ back, params⟩

section Frames

variable {α : Type} {keywords : String} {f : Table → Except Error Fragment}

theorem frames_error (e : Error) : Frames keywords fun _ => .error e :=
  Or.inl ⟨e, fun _ _ => rfl⟩

/-- What is computed without the table. -/
theorem frames_bind (x : Except Error α) {g : α → Table → Except Error Fragment}
    (h : ∀ a, Frames keywords (g a)) : Frames keywords fun table => x >>= fun a => g a table := by
  cases x with
  | error e => exact frames_error e
  | ok a => exact h a

/-- A check that all names pass, or none. -/
theorem frames_check {p : Table → Bool} {missing : Bool} (e : Error)
    (hp : ∀ name, isBlankText name = false → p (.named name) = missing)
    (h : Frames keywords f) :
    Frames keywords fun table => if p table then .error e else f table := by
  cases missing with
  | true => exact Or.inl ⟨e, fun name hname => if_pos (hp name hname)⟩
  | false =>
    have hpass {name : String} (hname : isBlankText name = false) :
        (if p (.named name) then .error e else f (.named name)) = f (.named name) :=
      if_neg (by rw [hp name hname]; exact Bool.false_ne_true)
    rcases h with ⟨e', he'⟩ | ⟨front, back, params, hok⟩
    · exact Or.inl ⟨e', fun name hname => (hpass hname).trans (he' name hname)⟩
    · exact Or.inr ⟨front, back, params, fun name hname => (hpass hname).trans (hok name hname)⟩

/-- The SQL of the table is put behind the keywords. -/
theorem frames_render {g : String → Except Error Fragment} (front back : String)
    (params : List Value) (h : ∀ sql, g sql = .ok ⟨front ++ keywords ++ sql ++ back, params⟩) :
    Frames keywords fun table => table.render >>= g := by
  refine Or.inr ⟨front, back, params, fun name hname => ?_⟩
  show (Table.named name).render >>= g = _
  rw [Table.render_named hname]
  exact h (quoteQualified name)

/-- The SQL of the table is not used. -/
theorem frames_render_of_error {g : String → Except Error Fragment} {e : Error}
    (h : ∀ sql, g sql = .error e) : Frames keywords fun table => table.render >>= g := by
  refine Or.inl ⟨e, fun name hname => ?_⟩
  show (Table.named name).render >>= g = _
  rw [Table.render_named hname]
  exact h (quoteQualified name)

theorem frames_delete : Frames "DELETE FROM " deleteFragment := by
  refine frames_check _ (fun _ hname => hname) (frames_render "" "" [] fun sql => ?_)
  simp [Fragment.ofSql]
  rfl

theorem frames_update (assignments : List Assignment) :
    Frames "UPDATE " fun table => updateFragment table assignments := by
  refine frames_check _ (fun _ hname => congrArg (· || assignments.isEmpty) hname)
    (frames_bind _ fun sets => frames_render "" (" SET " ++ ", ".intercalate sets)
      (assignments.map Prod.snd) fun sql => ?_)
  simp [String.append_assoc]
  rfl

theorem frames_insert (batch : Batch) :
    Frames "INSERT INTO " fun table => insertFragment table batch := by
  refine frames_check _
    (fun _ hname => congrArg (· || batch.columns.isEmpty || batch.rows.isEmpty) hname)
    (frames_check _ (fun _ _ => rfl) ?_)
  -- the table has its SQL before the columns have theirs
  cases hcolumns : Field.renderList (batch.columns.map Field.parse) with
  | error e => exact frames_render_of_error fun sql => rfl
  | ok columns =>
    refine frames_render ""
      (" (" ++ columns ++ ") VALUES " ++ ",".intercalate (List.replicate batch.rows.length
        ("(" ++ Placeholder.marks batch.columns.length ++ ")"))) batch.values fun sql => ?_
    simp [String.append_assoc]

theorem frames_join (dialect : Dialect) (on : JoinOn) (request : JoinRequest) :
    Frames " JOIN " fun table => (Clause.join table on request).compile dialect := by
  refine frames_check (.emptyInput "table" "QueryBuilder::join") (fun _ hname => hname)
    (frames_bind _ fun type => ?_)
  cases hon : Clause.onText on with
  | error e => exact frames_render_of_error fun sql => rfl
  | ok back =>
    refine frames_render (" " ++ type.text) back [] fun sql => ?_
    simp [Fragment.ofSql, String.append_assoc]

end Frames

/-! ### What verbs do with a name -/

namespace Builder

/-- Whatever the name of a table is, the verb leaves the same builder with an error, or no error
and the name in quotes, behind the keywords of the verb in the same text. -/
def QuotesName (b : Builder) (v : TableVerb) : Prop :=
  (∃ refused : Builder, refused.hasError = true ∧
    ∀ name, isBlankText name = false → b.run (v.on (.named name)) = refused) ∨
  ∃ front back, ∀ name, isBlankText name = false →
    (b.run (v.on (.named name))).error = none ∧
    (b.run (v.on (.named name))).text = front ++ v.keywords ++ quoteQualified name ++ back

variable {b : Builder} {v : TableVerb} {e : Error}

/-- A verb that starts a statement. -/
theorem quotesName_of_start {f : Table → Except Error Fragment} (kind : StatementKind)
    (hf : Frames v.keywords f)
    (hrun : ∀ table, b.run (v.on table) = b.start (f table >>= fun g => .ok (.ofFragment kind g))) :
    b.QuotesName v := by
  rcases hf with ⟨e, he⟩ | ⟨front, back, params, hok⟩
  · refine Or.inl ⟨b.record e, rfl, fun name hname => ?_⟩
    rw [hrun, he name hname]
    rfl
  · refine Or.inr ⟨front, back, fun name hname => ?_⟩
    rw [hrun, hok name hname]
    exact ⟨rfl, Statement.render_ofFragment kind _⟩

/-- A verb that changes a statement does nothing while an error is kept. -/
theorem quotesName_of_error {edit : Table → Edit Unit} (hb : b.error = some e)
    (hrun : ∀ table, b.run (v.on table) = b.extend (edit table)) : b.QuotesName v :=
  Or.inl ⟨b, by rw [hasError, hb]; rfl, fun name _ => by rw [hrun, extend_of_error hb]⟩

/-- A change that fails for every name. -/
theorem quotesName_of_failure {edit : Table → Edit Unit} (hb : b.error = none)
    (hrun : ∀ table, b.run (v.on table) = b.extend (edit table))
    (h : ∀ name, isBlankText name = false → edit (.named name) b.draft = .error e b.draft) :
    b.QuotesName v :=
  Or.inl ⟨b.record e, rfl, fun name hname => by rw [hrun, extend_of_failure hb (h name hname)]⟩

/-- A change that writes the name. -/
theorem quotesName_of_ok {edit : Table → Edit Unit} (front back : String) (hb : b.error = none)
    (hrun : ∀ table, b.run (v.on table) = b.extend (edit table))
    (h : ∀ name, isBlankText name = false → ∃ d, edit (.named name) b.draft = .ok () d ∧
      d.statement.render = front ++ v.keywords ++ quoteQualified name ++ back) :
    b.QuotesName v := by
  refine Or.inr ⟨front, back, fun name hname => ?_⟩
  obtain ⟨d, hd, htext⟩ := h name hname
  rw [hrun, extend_of_ok hb hd]
  exact ⟨hb, htext⟩

theorem quotesName_select (b : Builder) (fields : List Field) (distinct : Bool) :
    b.QuotesName (.select fields distinct) := by
  have hrefuse {e : Error} (h : ∀ name, isBlankText name = false →
      Selection.compile ⟨.named name, fields, distinct⟩ = .error e) :
      b.QuotesName (.select fields distinct) :=
    Or.inl ⟨b.record e, rfl, fun name hname => run_select_of_error (h name hname)⟩
  have hempty {name : String} (hname : isBlankText name = false) :
      (Table.named name).isEmpty = false := hname
  by_cases hnil : fields.isEmpty = true
  · refine hrefuse (e := .emptyInput "table or fields"
      (Selection.context ⟨default, fields, distinct⟩)) fun name _ => ?_
    simp only [Selection.compile, hnil, Bool.or_true, if_true]
    rfl
  rw [Bool.not_eq_true] at hnil
  cases htexts : Field.renderList fields with
  | error e =>
    refine hrefuse (e := e) fun name hname => ?_
    simp [Selection.compile, hempty hname, hnil, Table.isExpression, htexts, bind, Except.bind]
  | ok texts =>
    refine Or.inr ⟨b.awaiting.sql ++ ("SELECT " ++ (if distinct then "DISTINCT " else "") ++ texts),
      "", fun name hname => ?_⟩
    have hmade : Selection.compile ⟨.named name, fields, distinct⟩ =
        .ok ("SELECT " ++ (if distinct then "DISTINCT " else "") ++ texts ++ " FROM " ++
          quoteQualified name, fields) := by
      simp [Selection.compile, hempty hname, hnil, Table.isExpression, htexts,
        Table.render_named hname, bind, Except.bind, pure, Except.pure]
    obtain ⟨hnone, htext, -⟩ := run_select_of_compile (b := b) hmade
    refine ⟨hnone, htext.trans ?_⟩
    simp [TableVerb.keywords, String.append_assoc]

theorem quotesName_join (b : Builder) (on : JoinOn) (request : JoinRequest) :
    b.QuotesName (.join on request) := by
  have hrun (table : Table) : b.run (TableVerb.on table (.join on request)) =
      b.extend (Draft.addClause b.dialect (.join table on request)) := rfl
  cases hb : b.error with
  | some e => exact quotesName_of_error hb hrun
  | none =>
    by_cases hwait : b.draft.needsSection = true
    · exact quotesName_of_failure (e := .missingSelect "QueryBuilder::join") hb hrun
        fun name _ => Draft.addClause_of_needsSection hwait
    rcases frames_join b.dialect on request with ⟨e, he⟩ | ⟨front, back, params, hok⟩
    · refine quotesName_of_failure (e := e) hb hrun fun name hname => ?_
      have hcompile := he name hname
      simp [Draft.addClause, hwait, Clause.isSkipped, hcompile]
    · have hpending := Draft.needsSection_eq_false_iff.mp hwait
      rw [Bool.not_eq_true] at hwait
      refine quotesName_of_ok (b.text ++ front) back hb hrun fun name hname => ?_
      refine ⟨_, Draft.addClause_of_compile hwait rfl (hok name hname), ?_⟩
      show (b.draft.statement.append _).render = _
      rw [Statement.render_append hpending]
      simp [text, statement, TableVerb.keywords, String.append_assoc]

theorem quotesName_combineSelect (b : Builder) (c : Combination) :
    b.QuotesName (.combineSelect c) := by
  have hrun (table : Table) : b.run (TableVerb.on table (.combineSelect c)) =
      b.extend (Draft.combineSelect c table) := rfl
  have hempty {name : String} (hname : isBlankText name = false) :
      (Table.named name).isEmpty = false := hname
  cases hb : b.error with
  | some e => exact quotesName_of_error hb hrun
  | none =>
    have hrefuse (e : Error) (h : ∀ name, isBlankText name = false →
        Draft.combineSelect c (.named name) b.draft = .error e b.draft) :
        b.QuotesName (.combineSelect c) := quotesName_of_failure hb hrun h
    by_cases hkind : b.draft.statement.kind = .select
    case neg =>
      refine hrefuse (.missingSelect c.selectContext) fun name hname => ?_
      simp [Draft.combineSelect, hempty hname, hkind]
    by_cases htwice : (c.operator.isSingle && b.draft.statement.holdsOperator c.operator) = true
    · refine hrefuse (.duplicateSetOperator c.operator.text) fun name hname => ?_
      simp only [Draft.combineSelect, Edit.bind_apply, Edit.get_apply, Edit.failIf_apply,
        hempty hname, hkind, htwice]
      rfl
    by_cases hwait : b.draft.needsSection = true
    · refine hrefuse (.missingSelect c.selectContext) fun name hname => ?_
      simp only [Draft.combineSelect, Edit.bind_apply, Edit.get_apply, Edit.failIf_apply,
        hempty hname, hkind, htwice, hwait]
      rfl
    cases hfields : Field.renderList b.draft.repeatedFields with
    | error e =>
      refine hrefuse e fun name hname => ?_
      simp [Draft.combineSelect, hempty hname, hkind, htwice, hwait, hfields]
    | ok fields =>
      have hpending := Draft.needsSection_eq_false_iff.mp hwait
      refine quotesName_of_ok (b.text ++ " " ++ c.operator.text ++ " " ++ ("SELECT " ++ fields)) ""
        hb hrun fun name hname => ?_
      let added := "SELECT " ++ fields ++ " FROM " ++ quoteQualified name
      refine ⟨(b.withSection c.operator added).draft, ?_, ?_⟩
      · simp [added, Draft.combineSelect, hempty hname, hkind, htwice, hwait, hfields,
          Table.render_named hname, withSection, statement]
      · refine (text_withSection hpending c.operator added).trans ?_
        simp [added, TableVerb.keywords, String.append_assoc]

/-- **Every verb that takes a table quotes its name.** -/
theorem quotesName (b : Builder) (v : TableVerb) : b.QuotesName v := by
  cases v with
  | select fields distinct => exact quotesName_select b fields distinct
  | insert batch => exact quotesName_of_start .insert (frames_insert batch) fun _ => rfl
  | update assignments => exact quotesName_of_start .update (frames_update assignments) fun _ => rfl
  | delete => exact quotesName_of_start .delete frames_delete fun _ => rfl
  | join on request => exact quotesName_join b on request
  | combineSelect c => exact quotesName_combineSelect b c

end Builder

namespace Table

variable {name : String}

/-- The SQL of a name is not the name in parentheses. -/
theorem quoteQualified_ne_parenthesised (name : String) :
    quoteQualified name ≠ "(" ++ name ++ ")" := by
  intro h
  have hfirst : (quoteQualified name).toList.head? = some backtick := by
    obtain ⟨part, parts, hparts⟩ := List.exists_cons_of_ne_nil (properParts_ne_nil name)
    rw [toList_quoteQualified_eq_spelled, hparts]
    cases parts with
    | nil => rw [spelled_singleton]; rfl
    | cons next parts => rw [spelled_cons_cons]; rfl
  rw [h] at hfirst
  simp [backtick] at hfirst

/-- **A plain name is quoted wherever a table is given by it, unless it holds the word SELECT.**
It is then the name of a table, whose SQL is the name in quotes; otherwise it is taken for a nested
SELECT and put in parentheses.  A verb that is given such a name refuses all of them alike, or
leaves no error and puts the name in quotes, behind its keywords, into a text that is the same for
all of them. -/
theorem plain_names_are_quoted :
    (∀ name, IsPlainName name →
      ((parse name).render = .ok (quoteQualified name) ↔ ¬HoldsSelect name) ∧
      (¬HoldsSelect name → parse name = .named name) ∧
      (HoldsSelect name →
        parse name = .subquery name ∧ (parse name).render = .ok ("(" ++ name ++ ")"))) ∧
    (∀ (b : Builder) (v : TableVerb),
      (∃ refused : Builder, refused.hasError = true ∧
        ∀ name, IsPlainName name → ¬HoldsSelect name → b.run (v.on (parse name)) = refused) ∨
      ∃ front back, ∀ name, IsPlainName name → ¬HoldsSelect name →
        (b.run (v.on (parse name))).error = none ∧
        (b.run (v.on (parse name))).text =
          front ++ v.keywords ++ quoteQualified name ++ back) := by
  have hnamed {name : String} (h : IsPlainName name) (hselect : ¬HoldsSelect name) :
      parse name = .named name := by
    rw [parse_of_isPlainName h, if_neg hselect]
  constructor
  · intro name h
    by_cases hselect : HoldsSelect name
    · have hparse : parse name = .subquery name := by
        rw [parse_of_isPlainName h, if_pos hselect]
      have hrender := render_subquery h
      refine ⟨iff_of_false ?_ (not_not_intro hselect), fun hno => absurd hselect hno,
        fun _ => ⟨hparse, hparse ▸ hrender⟩⟩
      rw [hparse, hrender]
      exact fun heq => quoteQualified_ne_parenthesised name (Except.ok.inj heq).symm
    · have hparse := hnamed h hselect
      refine ⟨iff_of_true ?_ hselect, fun _ => hparse, fun hyes => absurd hyes hselect⟩
      rw [hparse]
      exact render_named h.isBlankText_eq
  · intro b v
    rcases b.quotesName v with ⟨refused, herror, hrun⟩ | ⟨front, back, hrun⟩
    · refine Or.inl ⟨refused, herror, fun name h hselect => ?_⟩
      rw [hnamed h hselect]
      exact hrun name h.isBlankText_eq
    · refine Or.inr ⟨front, back, fun name h hselect => ?_⟩
      rw [hnamed h hselect]
      exact hrun name h.isBlankText_eq

/-- A qualified name with digits and underscores. -/
theorem plain_names_are_quoted_orderItems :
    IsPlainName "shop.order_items_2" ∧ ¬HoldsSelect "shop.order_items_2" ∧
      (parse "shop.order_items_2").render = .ok "`shop`.`order_items_2`" := by
  have hplain : IsPlainName "shop.order_items_2" := by decide +kernel
  have hselect : ¬HoldsSelect "shop.order_items_2" := by decide +kernel
  have hrender := ((plain_names_are_quoted.1 _ hplain).1).mpr hselect
  have hquoted : quoteQualified "shop.order_items_2" = "`shop`.`order_items_2`" := by
    decide +kernel
  exact ⟨hplain, hselect, hquoted ▸ hrender⟩

/-- A name that begins with the word. -/
theorem selections_are_no_name :
    IsPlainName "selections" ∧ (parse "selections").render = .ok "(selections)" ∧
      (parse "selections").render ≠ .ok (quoteQualified "selections") := by
  decide +kernel

end Table

end FluentSql
