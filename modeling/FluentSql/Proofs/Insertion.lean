import FluentSql.Proofs.Rendering

/-!
# Inserting several rows

An INSERT is checked as a whole: there must be a table, columns with names, and rows with one value
for each column.  Then it has a group of placeholders for each row and binds the values row by row,
so that the placeholder of a row and a column stands at the place of their value.

## Main definitions

* `Insertable` — what an INSERT needs.
* `insertRefusal` — the error of an INSERT that misses some of it.
* `Builder.Inserts` — a builder whose statement inserts the rows of a batch.

## Main results

* `insertFragment_of_insertable`, `insertFragment_of_refused` — what an INSERT compiles to.
* `Builder.run_insert` — **an INSERT of any rows, in every state.**
-/

namespace FluentSql

/-- What an INSERT needs: a table, columns with names, and rows with one value for each column. -/
structure Insertable (table : Table) (batch : Batch) : Prop where
  table : table.isEmpty = false
  columns : 1 ≤ batch.columns.length
  rows : 1 ≤ batch.rows.length
  /-- No row is longer or shorter than the list of columns. -/
  width : ∀ row ∈ batch.rows, row.length = batch.columns.length
  names : ∀ column ∈ batch.columns, isBlankText column = false

/-- Why an INSERT is refused: something is missing, or a row does not fit, or a column has no
name. -/
def insertRefusal (table : Table) (batch : Batch) : Error :=
  if table.isEmpty || batch.columns.isEmpty || batch.rows.isEmpty then
    .emptyInput "table or fields" "QueryBuilder::insert"
  else if !batch.isRectangular then
    .invalidType "fields" "QueryBuilder::insert" "rows with one value per column"
  else Field.blankError

/-- The statement inserts the rows of a batch: for each row a group with a placeholder for each
column, and the value of a row and a column bound at the place of their placeholder. -/
structure Builder.Inserts (b : Builder) (table : Table) (batch : Batch) : Prop where
  text : ∃ source names, table.render = .ok source ∧
    Field.renderEach (batch.columns.map Field.parse) = .ok names ∧
    b.text = "INSERT INTO " ++ source ++ " (" ++ ", ".intercalate names ++ ") VALUES " ++
      ",".intercalate (List.replicate batch.rows.length
        ("(" ++ ",".intercalate (List.replicate batch.columns.length "?") ++ ")"))
  length : b.params.length = batch.columns.length * batch.rows.length
  values : ∀ i j row value, batch.rows[i]? = some row → row[j]? = some value →
    b.params[i * batch.columns.length + j]? = some value

section Fragments

variable {table : Table} {batch : Batch}

/-- The first check passes if there is a table, a column and a row. -/
theorem nothing_missing_iff :
    ¬(table.isEmpty || batch.columns.isEmpty || batch.rows.isEmpty) = true ↔
      table.isEmpty = false ∧ 1 ≤ batch.columns.length ∧ 1 ≤ batch.rows.length := by
  rw [Bool.not_eq_true, Bool.or_eq_false_iff, Bool.or_eq_false_iff, List.isEmpty_eq_false_iff,
    List.isEmpty_eq_false_iff, ← List.length_pos_iff, ← List.length_pos_iff, and_assoc]
  rfl

/-- Columns without names are the last thing that can be wrong. -/
theorem insertable_iff :
    Insertable table batch ↔
      ¬(table.isEmpty || batch.columns.isEmpty || batch.rows.isEmpty) = true ∧
        batch.isRectangular = true ∧ ∀ column ∈ batch.columns, isBlankText column = false := by
  rw [nothing_missing_iff, Batch.isRectangular_iff]
  constructor
  · exact fun h => ⟨⟨h.table, h.columns, h.rows⟩, h.width, h.names⟩
  · rintro ⟨⟨htable, hcolumns, hrows⟩, hwidth, hnames⟩
    exact ⟨htable, hcolumns, hrows, hwidth, hnames⟩

/-- The fields of columns with names are a list that has SQL. -/
theorem renderList_columns (hcolumns : 1 ≤ batch.columns.length) :
    Field.renderList (batch.columns.map Field.parse) =
      (Field.renderEach (batch.columns.map Field.parse)).map fun names =>
        ", ".intercalate names := by
  refine Field.renderList_of_ne_nil fun hnil => ?_
  rw [List.map_eq_nil_iff.mp hnil] at hcolumns
  exact absurd hcolumns (by decide)

theorem insertFragment_of_insertable (h : Insertable table batch) :
    ∃ source names, table.render = .ok source ∧
      Field.renderEach (batch.columns.map Field.parse) = .ok names ∧
      insertFragment table batch =
        .ok ⟨"INSERT INTO " ++ source ++ " (" ++ ", ".intercalate names ++ ") VALUES " ++
          ",".intercalate (List.replicate batch.rows.length
            ("(" ++ ",".intercalate (List.replicate batch.columns.length "?") ++ ")")),
          batch.values⟩ := by
  obtain ⟨hmissing, hwidth, hnames⟩ := insertable_iff.mp h
  obtain ⟨source, hsource⟩ := Table.exists_render h.table
  obtain ⟨names, heach⟩ := Field.exists_renderEach_parse hnames
  refine ⟨source, names, hsource, heach, ?_⟩
  have hlist : Field.renderList (batch.columns.map Field.parse) = .ok (", ".intercalate names) := by
    rw [renderList_columns h.columns, heach]
    rfl
  rw [insertFragment, if_neg hmissing, hwidth, if_neg (by decide), hsource, hlist]
  rfl

theorem insertFragment_of_refused (h : ¬Insertable table batch) :
    insertFragment table batch = .error (insertRefusal table batch) := by
  rw [insertable_iff] at h
  rw [insertFragment, insertRefusal]
  split
  · rfl
  · rename_i hmissing
    split
    · rfl
    · rename_i hwidth
      rw [Bool.not_eq_true', Bool.not_eq_false] at hwidth
      have hcolumns := (nothing_missing_iff.mp hmissing).2.1
      obtain ⟨source, hsource⟩ := Table.exists_render (nothing_missing_iff.mp hmissing).1
      -- all that is left is a column without a name
      have hblank : ∃ column ∈ batch.columns, isBlankText column = true := by
        refine Classical.byContradiction fun hnone => h ⟨hmissing, hwidth, fun column hmem => ?_⟩
        exact Bool.of_not_eq_true fun hcolumn => hnone ⟨column, hmem, hcolumn⟩
      obtain ⟨column, hmem, hcolumn⟩ := hblank
      rw [hsource, renderList_columns hcolumns,
        Field.renderEach_parse_of_isBlankText hmem hcolumn]
      rfl

end Fragments

namespace Builder

variable {table : Table} {batch : Batch}

/-- An INSERT takes up its own statement, whatever there was. -/
theorem run_insert_eq_start (b : Builder) (table : Table) (batch : Batch) :
    b.run (.start (.insert table batch)) =
      b.start ((insertFragment table batch).map (Draft.ofFragment .insert)) := by
  have hopens : b.opens (.start (.insert table batch)) = true := rfl
  rw [run_of_opens hopens, Opening.draft]
  cases insertFragment table batch <;> rfl

/-- The statement of an INSERT inserts. -/
theorem inserts_of_insertable (b : Builder) (h : Insertable table batch) :
    (b.run (.start (.insert table batch))).error = none ∧
      (b.run (.start (.insert table batch))).Inserts table batch := by
  obtain ⟨source, names, hsource, hnames, hfragment⟩ := insertFragment_of_insertable h
  have hwidth : batch.isRectangular = true := Batch.isRectangular_iff.mpr h.width
  rw [run_insert_eq_start, hfragment]
  refine ⟨rfl, ⟨source, names, hsource, hnames, ?_⟩, ?_, fun i j row value hrow hvalue => ?_⟩
  · exact String.append_empty
  · rw [Nat.mul_comm]
    exact Batch.length_values hwidth
  · have hj : j < batch.columns.length := by
      rw [← h.width row (List.mem_of_getElem? hrow)]
      exact (List.getElem?_eq_some_iff.mp hvalue).1
    have hplace := Batch.getElem?_values hwidth hj i
    rw [hrow] at hplace
    exact hplace.trans hvalue

/-- **An INSERT of any rows, in every state.**  It succeeds exactly if there is a table, there are
columns, all of them with names, and rows, all of them with one value for each column.  Then the
text has a group of placeholders for each row, and the value of row `i` in column `j` is bound to
placeholder `j` of group `i`.  Otherwise the error says what is wrong, and nothing else changes. -/
theorem run_insert (b : Builder) (table : Table) (batch : Batch) :
    ((b.run (.start (.insert table batch))).error = none ↔ Insertable table batch) ∧
      (Insertable table batch → (b.run (.start (.insert table batch))).Inserts table batch) ∧
      (¬Insertable table batch →
        b.run (.start (.insert table batch)) = b.record (insertRefusal table batch)) := by
  have hrefused (h : ¬Insertable table batch) :
      b.run (.start (.insert table batch)) = b.record (insertRefusal table batch) := by
    rw [run_insert_eq_start, insertFragment_of_refused h]
    rfl
  refine ⟨⟨fun hnone => ?_, fun h => (inserts_of_insertable b h).1⟩,
    fun h => (inserts_of_insertable b h).2, hrefused⟩
  refine Classical.byContradiction fun h => ?_
  rw [hrefused h] at hnone
  cases hnone

/-- Two users, one of them without a mail address. -/
def twoUsers : Batch :=
  ⟨["name", "mail"], [[.text "Ann", .text "ann@x"], [.text "Bob", .null]]⟩

/-- Both are inserted over a DELETE that failed; with a value too many nothing is. -/
theorem run_insert_twoUsers :
    Insertable (.named "users") twoUsers ∧
      (((new .sqlite .default).record (.custom "busy")).run
        (.start (.insert (.named "users") twoUsers))).Inserts (.named "users") twoUsers ∧
      (new .sqlite .default).run (.start (.insert (.named "users") ⟨["name"], twoUsers.rows⟩)) =
        (new .sqlite .default).record
          (.invalidType "fields" "QueryBuilder::insert" "rows with one value per column") := by
  have hfits : Insertable (.named "users") twoUsers :=
    ⟨by decide, by decide, by decide, by decide, by decide⟩
  have hragged : ¬Insertable (.named "users") ⟨["name"], twoUsers.rows⟩ := fun h =>
    absurd (h.width [.text "Ann", .text "ann@x"] List.mem_cons_self) (by decide)
  exact ⟨hfits, (run_insert _ (.named "users") twoUsers).2.1 hfits,
    (run_insert _ (.named "users") ⟨["name"], twoUsers.rows⟩).2.2 hragged⟩

end Builder

end FluentSql
