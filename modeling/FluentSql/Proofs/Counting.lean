import FluentSql.Proofs.Aliases
import FluentSql.Proofs.Gate
import FluentSql.Proofs.Verbatim

/-!
# Counting rows

To count, a builder runs a SELECT of its own.  What is counted is rendered first, put between the
parentheses of COUNT, and handed to SELECT as a text that names fields; there it is taken apart
again at its commas, and each piece is looked at as a field of its own.  So a call with several
arguments arrives as it was only if each of its pieces is passed on and the blanks after its commas
are those that SELECT writes.  And where a set operator waits, the SELECT is its section.

## Main definitions

* `Field.items`, `Field.StaysWhole` — the pieces between commas, and texts that SELECT takes apart
  and puts together again as they were.
* `Field.counterCall`, `Field.counterSql` — the call that counts, and the fields that it becomes.
* `Field.IsPlain` — a text that names one field, without an alias.
* `Builder.awaiting` — the statement that waits for a SELECT.
* `Outcome.Counts` — what comes of counting.

## Main results

* `Field.counterSql_eq_iff` — the call arrives as it was exactly if it stays whole.
* `Builder.compile_run_select` — a SELECT stands behind the statement that waits for it.
* `Builder.count_sends` — **what is sent to count rows.**
-/

namespace FluentSql

namespace Field

variable {cs : List Char}

/-! ### Texts that name several fields -/

/-- The pieces between commas. -/
def items (cs : List Char) : List (List Char) := Text.pieces (· == ',') cs

/-- The text is put together as it was when it is taken apart at its commas: every piece is passed
on, and after each comma there is one blank. -/
structure StaysWhole (cs : List Char) : Prop where
  expression : ∀ item ∈ items cs, isExpressionText item = true
  spaced : [',', ' '].intercalate ((items cs).map Text.trim) = cs

theorem trim_of_ofChars_eq_star (h : ofChars cs = star) : Text.trim cs = ['*'] := by
  cases hsplit : splitAlias (Text.trim cs) with
  | none =>
    rw [ofChars_of_splitAlias_eq_none hsplit] at h
    split at h
    · assumption
    · split at h <;> cases h
  | some cut =>
    obtain ⟨body, label⟩ := cut
    rw [ofChars_of_splitAlias hsplit] at h
    cases hbody : ofChars body <;> rw [hbody] at h <;> cases h

/-- A text without a comma is one piece. -/
theorem items_eq_singleton (h : ',' ∉ cs) : items cs = [cs] := by
  refine Text.pieces_of_not_isSeparator fun c hc => ?_
  rw [beq_eq_false_iff_ne]
  rintro rfl
  exact h hc

/-- A text with ` as ` names what its pieces name. -/
theorem parseList_of_aliased {s : String} (hblank : isBlankText s = false)
    (h : Text.holdsWord aliasWord s.toList = true) :
    parseList s = (items s.toList).map ofChars := by
  have htrim : splitItems s.toList = (items s.toList).map Text.trim := by
    by_cases hcomma : s.toList.contains ',' = true
    · rw [splitItems, if_pos hcomma, if_pos h]
      rfl
    · have hwhole : items s.toList = [s.toList] :=
        items_eq_singleton fun hc => hcomma (List.contains_iff_mem.mpr hc)
      rw [splitItems, if_neg hcomma, hwhole, List.map_singleton]
  have hofChars : ofChars ∘ Text.trim = ofChars := funext ofChars_trim
  rw [parseList, hblank, htrim, List.map_map, hofChars]
  rfl

/-! ### Lists of fields -/

theorem renderEach_snoc (fields : List Field) (field : Field) :
    renderEach (fields ++ [field]) =
      (renderEach fields).bind fun ss => field.render.map fun s => ss ++ [s] := by
  induction fields with
  | nil =>
    show (field.render >>= fun s => _) = _
    cases field.render <;> rfl
  | cons first fields ih =>
    rw [List.cons_append, renderEach, renderEach, ih]
    cases first.render with
    | error e => rfl
    | ok t =>
      cases renderEach fields with
      | error e => rfl
      | ok ss => cases field.render <;> rfl

/-- Pieces that are passed on give what they are. -/
theorem renderEach_of_expressions {pieces : List (List Char)}
    (h : ∀ piece ∈ pieces, isExpressionText piece = true)
    (hunaliased : ∀ piece ∈ pieces, Text.holdsWord aliasWord piece = false) :
    renderEach (pieces.map ofChars) =
      .ok (pieces.map fun piece => String.ofList (Text.trim piece)) := by
  induction pieces with
  | nil => rfl
  | cons piece pieces ih =>
    obtain ⟨hpiece, hpieces⟩ := List.forall_mem_cons.mp h
    obtain ⟨hword, hwords⟩ := List.forall_mem_cons.mp hunaliased
    rw [List.map_cons, renderEach, render_ofChars (splitAlias_trim_eq_none hword), if_pos hpiece,
      ih hpieces hwords]
    rfl

/-- Rendering adds backticks to every piece that is not passed on, and takes none away. -/
theorem count_backtick_renderEach {pieces : List (List Char)} {ss : List String}
    (hunaliased : ∀ piece ∈ pieces, Text.holdsWord aliasWord piece = false)
    (h : renderEach (pieces.map ofChars) = .ok ss) :
    pieces.flatten.count backtick ≤ (ss.map String.toList).flatten.count backtick ∧
      ((ss.map String.toList).flatten.count backtick ≤ pieces.flatten.count backtick →
        ∀ piece ∈ pieces, isExpressionText piece = true) := by
  induction pieces generalizing ss with
  | nil =>
    cases h
    exact ⟨Nat.le_refl _, fun _ _ hpiece => by cases hpiece⟩
  | cons piece pieces ih =>
    obtain ⟨hword, hwords⟩ := List.forall_mem_cons.mp hunaliased
    rw [List.map_cons] at h
    simp only [renderEach, bind_eq_ok_iff, pure_eq_ok_iff] at h
    obtain ⟨s, hs, rest, hrest, rfl⟩ := h
    obtain ⟨hle, hall⟩ := ih hwords hrest
    rw [render_ofChars (splitAlias_trim_eq_none hword)] at hs
    simp only [List.map_cons, List.flatten_cons, List.count_append]
    by_cases hexpression : isExpressionText piece = true
    · rw [if_pos hexpression] at hs
      cases hs
      rw [String.toList_ofList, Text.count_trim (by decide)]
      refine ⟨by omega, fun hge => ?_⟩
      exact List.forall_mem_cons.mpr ⟨hexpression, hall (by omega)⟩
    · rw [if_neg hexpression] at hs
      simp only [ite_error_eq_ok_iff] at hs
      have hmore := count_backtick_quoteQualified (String.ofList (Text.trim piece))
      rw [String.toList_ofList, Text.count_trim (by decide)] at hmore
      cases hs.2
      exact ⟨by omega, fun hge => absurd hge (by omega)⟩

/-! ### The counter -/

/-- The call that counts. -/
def counterCall (target : String) : String := "COUNT(" ++ target ++ ")"

/-- The fields of the SELECT that counts, as SQL. -/
def counterSql (target : String) : Except Error String :=
  renderList (parseList (counterCall target ++ " AS counter"))

/-- A piece that is passed on is so under the alias of the counter too. -/
theorem render_ofChars_counter (hword : Text.holdsWord aliasWord cs = false)
    (hexpression : isExpressionText cs = true) :
    (ofChars (cs ++ " AS counter".toList)).render =
      .ok (String.ofList (Text.trim cs) ++ " AS `counter`") := by
  have htext : " AS counter".toList = " AS ".toList ++ "counter".toList := by decide
  have hs : (ofChars cs).render = .ok (String.ofList (Text.trim cs)) := by
    rw [render_ofChars (splitAlias_trim_eq_none hword), if_pos hexpression]
  have hlabel : " AS " ++ quoteIdentifier (unquoteAlias (String.ofList "counter".toList)) =
      " AS `counter`" := by decide +kernel
  rw [htext, ← List.append_assoc,
    ofChars_append_alias (allBlank_of_isExpressionText hexpression) (by decide) (by decide),
    if_neg (by decide), render_withAlias_ofChars (splitAlias_trim_eq_none hword) hs,
    String.append_assoc, hlabel]

theorem intercalate_snoc_append (separator : String) (ss : List String) (s t : String) :
    separator.intercalate (ss ++ [s ++ t]) = separator.intercalate (ss ++ [s]) ++ t := by
  by_cases hss : ss = []
  · rw [hss]
    simp
  · rw [String.intercalate_append_of_ne_nil hss (List.cons_ne_nil _ _),
      String.intercalate_append_of_ne_nil hss (List.cons_ne_nil _ _), String.intercalate_singleton,
      String.intercalate_singleton, ← String.append_assoc]

/-- The text of the counter names what its pieces name. -/
theorem parseList_counter (target : String) :
    parseList (counterCall target ++ " AS counter") =
      (items (counterCall target ++ " AS counter").toList).map ofChars := by
  refine parseList_of_aliased ?_ ?_
  · have hfirst : isBlank 'C' = false := by decide
    simp [isBlankText, Text.allBlank, counterCall, hfirst]
  · rw [String.toList_append]
    exact Text.holdsWord_of_isInfix (List.suffix_append _ _).isInfix (by decide)

/-- The last piece of the call holds the closing parenthesis, and the alias comes to stand behind
it. -/
theorem items_counter (target : String) :
    ∃ init last, items (counterCall target).toList = init ++ [last] ∧
      items (counterCall target ++ " AS counter").toList = init ++ [last ++ " AS counter".toList] ∧
      isExpressionText last = true := by
  obtain ⟨init, last, -, happ⟩ :=
    Text.exists_last_piece (· == ',') ("COUNT(" ++ target).toList
  have hclose : ")".toList = [')'] := by decide
  refine ⟨init, last ++ [')'], ?_, ?_, ?_⟩
  · rw [items, counterCall, String.toList_append, hclose]
    exact happ [')'] (by simp)
  · rw [items, counterCall, String.toList_append, String.toList_append, hclose, List.append_assoc,
      List.append_assoc]
    exact happ ([')'] ++ " AS counter".toList) (by simp)
  · rw [isExpressionText_iff]
    exact Or.inr (Or.inl (List.mem_append_right _ List.mem_cons_self))

/-- The alias goes to the last piece, and the others become fields of their own. -/
theorem counterSql_of_unaliased {target : String}
    (h : Text.holdsWord aliasWord (counterCall target).toList = false) :
    counterSql target =
      (renderEach ((items (counterCall target).toList).map ofChars)).map fun ss =>
        ", ".intercalate ss ++ " AS `counter`" := by
  obtain ⟨init, last, hcall, htext, hexpression⟩ := items_counter target
  have hmem : last ∈ items (counterCall target).toList := by
    rw [hcall]
    exact List.mem_append_right _ List.mem_cons_self
  have hword : Text.holdsWord aliasWord last = false :=
    Text.not_holdsWord_of_isInfix (Text.isInfix_of_mem_pieces hmem) h
  have hplain : (ofChars last).render = .ok (String.ofList (Text.trim last)) := by
    rw [render_ofChars (splitAlias_trim_eq_none hword), if_pos hexpression]
  rw [counterSql, parseList_counter, htext, hcall, List.map_append, List.map_singleton,
    List.map_append, List.map_singleton, renderEach_snoc, hplain,
    renderList_of_ne_nil (List.concat_ne_nil _ _), renderEach_snoc,
    render_ofChars_counter hword hexpression]
  cases renderEach (init.map ofChars) with
  | error e => rfl
  | ok ss =>
    show Except.ok (", ".intercalate (ss ++ [_ ++ " AS `counter`"])) = _
    rw [intercalate_snoc_append]
    rfl

/-- **The call arrives as it was exactly if it stays whole.** -/
theorem counterSql_eq_iff {target : String}
    (h : Text.holdsWord aliasWord (counterCall target).toList = false) :
    counterSql target = .ok (counterCall target ++ " AS `counter`") ↔
      StaysWhole (counterCall target).toList := by
  have hpieces : ∀ item ∈ items (counterCall target).toList,
      Text.holdsWord aliasWord item = false :=
    fun item hitem => Text.not_holdsWord_of_isInfix (Text.isInfix_of_mem_pieces hitem) h
  have hjoined : ∀ pieces : List (List Char),
      (", ".intercalate (pieces.map fun piece => String.ofList (Text.trim piece))).toList =
        [',', ' '].intercalate (pieces.map Text.trim) := by
    intro pieces
    have hpiece : String.toList ∘ (fun piece => String.ofList (Text.trim piece)) = Text.trim :=
      funext fun piece => String.toList_ofList
    rw [String.toList_intercalate, List.map_map, hpiece]
    rfl
  rw [counterSql_of_unaliased h]
  constructor
  · intro heq
    cases hss : renderEach ((items (counterCall target).toList).map ofChars) with
    | error e =>
      rw [hss] at heq
      cases heq
    | ok ss =>
      rw [hss] at heq
      have htext : ", ".intercalate ss = counterCall target :=
        (String.append_left_inj _).mp (Except.ok.inj heq)
      -- equal texts hold equally many backticks, so none was added
      have hcount : (ss.map String.toList).flatten.count backtick =
          (items (counterCall target).toList).flatten.count backtick := by
        have hcall := congrArg (fun s : String => s.toList.count backtick) htext
        simp only [String.toList_intercalate] at hcall
        rw [Text.count_intercalate (by decide)] at hcall
        rw [items, Text.count_pieces (p := (· == ',')) rfl]
        exact hcall
      obtain ⟨-, hall⟩ := count_backtick_renderEach hpieces hss
      have hexpression := hall (Nat.le_of_eq hcount)
      refine ⟨hexpression, ?_⟩
      rw [renderEach_of_expressions hexpression hpieces] at hss
      cases hss
      rw [← hjoined, htext]
  · intro hwhole
    rw [renderEach_of_expressions hwhole.expression hpieces]
    have htext := hwhole.spaced
    rw [← hjoined, String.toList_inj] at htext
    rw [Except.map, htext]

theorem toList_counterCall (target : String) :
    (counterCall target).toList =
      'C' :: 'O' :: 'U' :: 'N' :: 'T' :: '(' :: (target.toList ++ [')']) := by
  simp [counterCall]

theorem holdsWord_counterCall (target : String) :
    Text.holdsWord aliasWord (counterCall target).toList =
      Text.holdsWord aliasWord target.toList := by
  rw [toList_counterCall]
  simp (disch := decide) only [Text.holdsWord_cons, Text.holdsWord_append_cons, Text.holdsWord_nil,
    Bool.or_false]

/-- Without a comma there is one piece. -/
theorem staysWhole_counterCall {target : String} (h : ',' ∉ target.toList) :
    StaysWhole (counterCall target).toList := by
  have hitems : items (counterCall target).toList = [(counterCall target).toList] := by
    refine Text.pieces_of_not_isSeparator fun c hc => ?_
    rw [beq_eq_false_iff_ne]
    rintro rfl
    simp [toList_counterCall, h] at hc
  have hstart : Text.trimStart (counterCall target).toList = (counterCall target).toList := by
    refine Text.trimStart_eq_self fun c hc => ?_
    rw [toList_counterCall, List.head?_cons] at hc
    cases hc
    decide
  have hend : Text.trimEnd (counterCall target).toList = (counterCall target).toList := by
    refine Text.trimEnd_eq_self fun c hc => ?_
    have hcall : (counterCall target).toList = ("COUNT(" ++ target).toList ++ [')'] := by
      simp [counterCall]
    rw [hcall, List.getLast?_concat] at hc
    cases hc
    decide
  constructor
  · rw [hitems]
    refine List.forall_mem_singleton.mpr (isExpressionText_iff.mpr (Or.inr (Or.inl ?_)))
    simp [toList_counterCall]
  · rw [hitems, List.map_singleton, List.intercalate_singleton, Text.trim, hstart, hend]

/-- The text names one field, without an alias. -/
def IsPlain (field : String) : Prop :=
  ',' ∉ field.toList ∧ Text.holdsWord aliasWord (Text.trim field.toList) = false

instance (field : String) : Decidable (IsPlain field) :=
  inferInstanceAs (Decidable (_ ∧ _))

/-- What is counted of such a field holds neither a comma nor ` as `. -/
theorem countTarget_of_isPlain {field target : String} (h : IsPlain field)
    (htarget : Builder.countTarget field = .ok target) :
    ',' ∉ target.toList ∧ Text.holdsWord aliasWord target.toList = false := by
  obtain ⟨hcomma, hword⟩ := h
  have htrim : ',' ∉ Text.trim field.toList := by
    rw [Text.mem_trim (by decide)]
    exact hcomma
  rw [Builder.countTarget] at htarget
  split at htarget
  · rw [← Except.ok.inj htarget]
    decide
  · rw [parse, render_ofChars (splitAlias_eq_none hword)] at htarget
    split at htarget
    · rw [← Except.ok.inj htarget, String.toList_ofList]
      exact ⟨htrim, hword⟩
    · simp only [ite_error_eq_ok_iff] at htarget
      rw [← Except.ok.inj htarget.2]
      constructor
      · rw [← List.count_eq_zero, count_quoteQualified (by decide) (by decide) (by decide),
          String.toList_ofList, List.count_eq_zero]
        exact htrim
      · refine not_holdsWord_quoteQualified (by decide) (by decide) (by decide) ?_
        rw [String.toList_ofList]
        exact hword

end Field

/-! ### Any SELECT -/

namespace Builder

variable {b : Builder} {backend : Backend} {s : Selection}

/-- The statement whose set operator waits for a SELECT, with the blank in front of it.  There is
none while an error is kept, since a SELECT starts afresh then. -/
def awaiting (b : Builder) : Fragment :=
  if b.draft.needsSection && !b.hasError then ⟨b.text ++ " ", b.params⟩ else .empty

/-- A SELECT starts afresh while an error is kept. -/
theorem awaiting_of_error {e : Error} (h : b.error = some e) : b.awaiting = .empty := by
  rw [awaiting, hasError, h, Option.isSome_some, Bool.not_true, Bool.and_false,
    if_neg Bool.false_ne_true]

theorem clearExecution_of_error_eq_none (h : b.error = none) : b.clearExecution = b := by
  rw [clearExecution, h, Option.any_none, if_neg Bool.false_ne_true]

/-- An error that is not one of execution stands in the way. -/
theorem compile_clearExecution_of_blocked {e : Error} (h : b.error = some e)
    (hx : e.isExecution = false) : b.clearExecution.compile = .error e := by
  rw [clearExecution, h, Option.any_some, hx, if_neg Bool.false_ne_true]
  simp [compile, check, h, bind, Except.bind]

/-- A SELECT that a set operator waits for becomes a section. -/
theorem run_select_of_waiting {sql : String} {projection : List Field}
    (hsection : b.draft.needsSection = true) (hb : b.error = none)
    (h : s.compile = .ok (sql, projection)) :
    b.run (.start (.select s)) =
      { b with draft := ⟨b.statement.pushSection sql, projection⟩ } := by
  have hwait : (b.draft.needsSection && !b.hasError) = true := by
    rw [hsection, hasError, hb]
    rfl
  have hd : Draft.addSelection s b.draft = .ok () ⟨b.statement.pushSection sql, projection⟩ := by
    simp [Draft.addSelection, h, statement]
  rw [run, runOpening, if_pos hwait]
  exact extend_of_ok hb hd

/-- Any other SELECT starts a statement. -/
theorem run_select_of_not_waiting {sql : String} {projection : List Field}
    (hwait : ¬(b.draft.needsSection && !b.hasError) = true)
    (h : s.compile = .ok (sql, projection)) :
    b.run (.start (.select s)) = { b.reset with draft := ⟨.start .select sql, projection⟩ } := by
  rw [run, runOpening, if_neg hwait, Opening.draft, h]
  rfl

/-- A SELECT that cannot be made leaves the reason, whatever waits for it. -/
theorem run_select_of_error {e : Error} (h : s.compile = .error e) :
    b.run (.start (.select s)) = b.record e := by
  by_cases hwait : (b.draft.needsSection && !b.hasError) = true
  · obtain ⟨hsection, hb⟩ : b.draft.needsSection = true ∧ b.error = none := by
      simpa [hasError] using hwait
    have hd : Draft.addSelection s b.draft = .error e b.draft := by
      simp [Draft.addSelection, h]
    rw [run, runOpening, if_pos hwait, extend_of_failure hb hd]
  · rw [run, runOpening, if_neg hwait, Opening.draft, h]
    rfl

/-- A SELECT stands behind the statement that waits for it, and otherwise alone. -/
theorem run_select_of_compile {sql : String} {projection : List Field}
    (h : s.compile = .ok (sql, projection)) :
    (b.run (.start (.select s))).error = none ∧
      (b.run (.start (.select s))).text = b.awaiting.sql ++ sql ∧
      (b.run (.start (.select s))).params = b.awaiting.params ∧
      (b.run (.start (.select s))).statement.isEmpty = false ∧
      (b.run (.start (.select s))).draft.needsSection = false := by
  by_cases hwait : (b.draft.needsSection && !b.hasError) = true
  · obtain ⟨hsection, hb⟩ : b.draft.needsSection = true ∧ b.error = none := by
      simpa [hasError] using hwait
    obtain ⟨operator, hoperator⟩ := Option.isSome_iff_exists.mp hsection
    have htext : (b.statement.pushSection sql).render = b.awaiting.sql ++ sql := by
      rw [Statement.render_pushSection, awaiting, if_pos hwait, statement, hoperator]
      rfl
    have hempty : (b.statement.pushSection sql).isEmpty = false := by
      simp [Statement.isEmpty, Statement.pushSection]
    rw [run_select_of_waiting hsection hb h]
    refine ⟨hb, htext, ?_, hempty, rfl⟩
    rw [awaiting, if_pos hwait]
    rfl
  · have hlead : b.awaiting = .empty := if_neg hwait
    rw [run_select_of_not_waiting hwait h, hlead, Fragment.empty, String.empty_append]
    exact ⟨rfl, Statement.render_start .select sql, rfl, rfl, rfl⟩

theorem compile_run_select {sql : String} {projection : List Field}
    (h : s.compile = .ok (sql, projection)) :
    (b.run (.start (.select s))).clearExecution.compile =
      .ok ⟨terminated (b.awaiting.sql ++ sql), b.awaiting.params⟩ := by
  obtain ⟨hnone, htext, hparams, hempty, hsection⟩ := run_select_of_compile (b := b) h
  rw [clearExecution_of_error_eq_none hnone]
  refine compile_eq_ok_iff.mpr ⟨hnone, hempty, hsection, ?_⟩
  rw [htext, hparams]

/-- A SELECT that cannot be made is not sent. -/
theorem compile_run_select_of_error {e : Error} (h : s.compile = .error e) :
    (b.run (.start (.select s))).clearExecution.compile = .error e :=
  compile_clearExecution_of_blocked (congrArg error (run_select_of_error h)) (s.unsent_compile e h)

end Builder

/-! ### Counting -/

/-- The SELECT that counts. -/
def counterSelection (table : Table) (target : String) : Selection :=
  ⟨table, Field.parseList (Field.counterCall target ++ " AS counter"), false⟩

/-- It is not a SELECT of all columns. -/
theorem Field.parseList_counter_ne_star (target : String) :
    Field.parseList (Field.counterCall target ++ " AS counter") ≠ [.star] := by
  rw [Field.parseList_counter]
  intro hstar
  obtain ⟨item, hitems, hitem⟩ := List.map_eq_singleton_iff.mp hstar
  have htrim : Text.trim item = ['*'] := Field.trim_of_ofChars_eq_star hitem
  -- the only piece stands at the beginning of the text, where no star is
  have hbegins := Text.isPrefix_of_pieces hitems
  rw [String.toList_append, Field.toList_counterCall] at hbegins
  cases item with
  | nil => cases htrim
  | cons c cs =>
    obtain ⟨rfl, -⟩ := List.cons_prefix_cons.mp hbegins
    have hfirst : 'C' ∈ Text.trim ('C' :: cs) :=
      (Text.mem_trim (by decide)).mpr List.mem_cons_self
    rw [htrim, List.mem_singleton] at hfirst
    cases hfirst

/-- It has SQL whenever the counter has. -/
theorem compile_counterSelection {table : Table} {t : String} (h : table.isEmpty = false)
    (ht : table.render = .ok t) (target : String) :
    (counterSelection table target).compile =
      (Field.counterSql target).map fun fields =>
        ("SELECT " ++ fields ++ " FROM " ++ t, (counterSelection table target).fields) := by
  have hfields : (counterSelection table target).fields.isEmpty = false := by
    rw [counterSelection, Field.parseList_counter, List.isEmpty_eq_false_iff, ne_eq,
      List.map_eq_nil_iff]
    exact Text.pieces_ne_nil _ _
  have hstar : ((counterSelection table target).fields == [.star]) = false :=
    beq_false_of_ne (Field.parseList_counter_ne_star target)
  have htable : (counterSelection table target).table = table := rfl
  simp only [Selection.compile, htable, h, hfields, hstar, ht, Bool.or_self, Bool.and_false,
    Bool.false_eq_true, if_false]
  rw [Field.counterSql, counterSelection]
  cases Field.renderList (Field.parseList (Field.counterCall target ++ " AS counter")) <;> rfl

/-- What comes of counting: the fields that the counter becomes are selected from the table, behind
the statement that waits for a SELECT; if they cannot be made then nothing is sent. -/
structure Outcome.Counts (o : Outcome Int) (b : Builder) (target t : String) : Prop where
  sent : ∀ fields, Field.counterSql target = .ok fields →
    o.sent = [⟨.fetchAll, terminated (b.awaiting.sql ++ ("SELECT " ++ fields ++ " FROM " ++ t)),
      b.awaiting.params⟩]
  refused : ∀ e, Field.counterSql target = .error e →
    o.sent = [] ∧ o.failure = some e ∧ o.builder.error = some e

namespace Builder

variable {b : Builder} {backend : Backend} {table field target t : String}

/-- To count is to run the SELECT that counts and to fetch all its rows. -/
theorem gated_count (htarget : countTarget field = .ok target) :
    (b.count backend table field).Gated
      (b.run (.start (.select (counterSelection (Table.parse table) target)))) .fetchAll := by
  have htext : "COUNT(" ++ target ++ ") AS counter" =
      Field.counterCall target ++ " AS counter" := by
    rw [← String.toList_inj]
    simp [Field.counterCall]
  have hname : ¬isBlankText "counter" = true := by decide
  simp only [count, htarget, htext, column, if_neg hname]
  exact Outcome.gated_map (Outcome.gated_map gated_all _) _

theorem counts_count (h : (Table.parse table).isEmpty = false)
    (ht : (Table.parse table).render = .ok t) (htarget : countTarget field = .ok target) :
    (b.count backend table field).Counts b target t := by
  have hgate : (b.count backend table field).Gated _ .fetchAll := gated_count htarget
  have hcompile := compile_counterSelection h ht target
  constructor
  · intro fields hfields
    rw [hfields] at hcompile
    exact hgate.sent _ (compile_run_select hcompile)
  · intro e he
    rw [he] at hcompile
    exact hgate.refused e (compile_run_select_of_error hcompile)

/-- The request that counts: the counter is selected from the table, and the statement is closed by
a semicolon, unless the table ends with one. -/
def counterRequest (target t : String) : Request :=
  ⟨.fetchAll, "SELECT COUNT(" ++ target ++ ") AS `counter` FROM " ++ t ++
    (if t.toList.getLast? = some ';' then "" else ";"), []⟩

/-- Some fields give that request exactly if they are the counter. -/
theorem request_eq_counterRequest_iff (htight : Text.Tight t.toList) (fields : String) :
    (⟨.fetchAll, terminated ("SELECT " ++ fields ++ " FROM " ++ t), []⟩ : Request) =
        counterRequest target t ↔
      fields = Field.counterCall target ++ " AS `counter`" := by
  have htext : "SELECT COUNT(" ++ target ++ ") AS `counter` FROM " ++ t =
      "SELECT " ++ (Field.counterCall target ++ " AS `counter`") ++ " FROM " ++ t := by
    rw [← String.toList_inj]
    simp [Field.counterCall]
  rw [counterRequest, htext, terminated_append htight]
  constructor
  · intro heq
    have hsql := congrArg (fun r : Request => r.query.sql) heq
    simpa only [String.append_left_inj, String.append_right_inj] using hsql
  · rintro rfl
    rfl

/-- **What is sent to count rows.**  In every state, for every table in which nothing is missing and
every field, there is something to count and a table to count it in.  The fields that the counter
becomes are selected from the table, behind the statement that waits for a SELECT; if they cannot be
made then nothing is sent.  Where none waits, or an error is kept, and what is counted has no alias,
the request is that of the counter alone, without parameters, exactly if the counter stays whole; so
it is for every field that has neither a comma nor an alias. -/
theorem count_sends (h : (Table.parse table).isEmpty = false) (b : Builder) (backend : Backend)
    (field : String) :
    ∃ target t, countTarget field = .ok target ∧ (Table.parse table).render = .ok t ∧
      (b.count backend table field).Counts b target t ∧
      (b.awaiting = .empty → Text.holdsWord aliasWord target.toList = false →
        ((b.count backend table field).sent = [counterRequest target t] ↔
          Field.StaysWhole (Field.counterCall target).toList)) ∧
      (b.awaiting = .empty → Field.IsPlain field →
        (b.count backend table field).sent = [counterRequest target t]) := by
  obtain ⟨target, htarget⟩ : ∃ target, countTarget field = .ok target := by
    rw [countTarget]
    by_cases hfield : isBlankText field = true
    · exact ⟨"*", if_pos hfield⟩
    · rw [if_neg hfield]
      exact Field.exists_render_parse (Bool.of_not_eq_true hfield)
  obtain ⟨t, ht⟩ := Table.exists_render h
  have hcounts : (b.count backend table field).Counts b target t := counts_count h ht htarget
  have hwhole : b.awaiting = .empty → Text.holdsWord aliasWord target.toList = false →
      ((b.count backend table field).sent = [counterRequest target t] ↔
        Field.StaysWhole (Field.counterCall target).toList) := by
    intro hlead hword
    rw [← Field.holdsWord_counterCall] at hword
    rw [← Field.counterSql_eq_iff hword]
    cases hfields : Field.counterSql target with
    | error e =>
      rw [(hcounts.refused e hfields).1]
      exact iff_of_false (fun heq => by cases heq) fun heq => by cases heq
    | ok fields =>
      rw [hcounts.sent fields hfields, hlead, Fragment.empty, String.empty_append,
        List.singleton_inj, request_eq_counterRequest_iff (Table.tight_render ht), Except.ok.injEq]
  refine ⟨target, t, htarget, ht, hcounts, hwhole, fun hlead hplain => ?_⟩
  obtain ⟨hcomma, hword⟩ := Field.countTarget_of_isPlain hplain htarget
  exact (hwhole hlead hword).mpr (Field.staysWhole_counterCall hcomma)

/-- A UNION that waits for its SELECT. -/
def waitingUsers : Builder :=
  (new .sqlite .default).runAll [.select (.named "users") [.star], .combine (.union false)]

/-- A limit comes too soon, and its error makes the count start afresh. -/
theorem count_sends_earlyLimit :
    (waitingUsers.run (.limit 5)).error = some (.missingSelect "QueryBuilder::limit") ∧
      ((waitingUsers.run (.limit 5)).count (fun _ => .ok .empty) "groups" "email").sent =
        [⟨.fetchAll, "SELECT COUNT(`email`) AS `counter` FROM `groups`;", []⟩] := by
  have htable : (Table.parse "groups").isEmpty = false := by decide +kernel
  have hcount : (countTarget "email").toOption = some "`email`" := by decide +kernel
  have hrender : (Table.parse "groups").render.toOption = some "`groups`" := by decide +kernel
  obtain ⟨target, t, htarget, ht, -, -, hsent⟩ :=
    count_sends htable (waitingUsers.run (.limit 5)) (fun _ => .ok .empty) "email"
  rw [htarget] at hcount
  rw [ht] at hrender
  cases hcount
  cases hrender
  exact ⟨rfl, hsent rfl (by decide +kernel)⟩

/-- A call with several arguments is taken apart at its commas, so that a literal becomes a name;
and where a UNION waits, the count becomes its section. -/
theorem countedCall_is_split :
    countTarget "COALESCE(nick,'-',name)" = .ok "COALESCE(nick,'-',name)" ∧
      ((new .sqlite .default).count (fun _ => .ok .empty) "users" "COALESCE(nick,'-',name)").sent =
        [⟨.fetchAll, "SELECT COUNT(COALESCE(nick, `'-'`, name)) AS `counter` FROM `users`;", []⟩] ∧
      (waitingUsers.count (fun _ => .ok .empty) "groups" "").sent =
        [⟨.fetchAll, "SELECT * FROM `users` UNION SELECT COUNT(*) AS `counter` FROM `groups`;",
          []⟩] := by
  refine ⟨?_, by decide +kernel, by decide +kernel⟩
  rw [countTarget, if_neg (by decide), Field.parse, Field.render_ofChars (by decide +kernel),
    if_pos (by decide)]
  exact congrArg Except.ok (by decide +kernel)

end Builder

end FluentSql
