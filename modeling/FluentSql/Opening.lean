import FluentSql.Batch
import FluentSql.Draft
import FluentSql.Placeholder
import FluentSql.Table

/-!
# Openings

The verbs that start a statement: SELECT, INSERT, UPDATE, DELETE, the removal of views and tables,
and text of the caller.  Each one is checked as a whole before anything is written.

## Main definitions

* `Selection`, `Selection.compile` — one SELECT section.
* `Opening`, `Opening.draft` — the openings and the statements they start.
* `requireName` — a name that must not be blank.
-/

namespace FluentSql

/-- A name without the blanks around it; a blank name is an error. -/
def requireName (name argument context : String) : Except Error String :=
  if isBlankText name then .error (.emptyInput argument context) else .ok (trimmed name)

/-! ### SELECT -/

/-- A SELECT of some fields from a table. -/
structure Selection where
  table : Table
  fields : List Field
  /-- Whether equal rows are given once. -/
  distinct : Bool
  deriving Inhabited

namespace Selection

/-- The verb that makes the selection. -/
def context (s : Selection) : String :=
  if s.distinct then "QueryBuilder::select_distinct" else "QueryBuilder::select"

/-- The text of a SELECT section, and the projection that a later section repeats.  All columns of
a computed expression are that expression itself, without a FROM. -/
def compile (s : Selection) : Except Error (String × List Field) :=
  if s.table.isEmpty || s.fields.isEmpty then .error (.emptyInput "table or fields" s.context)
  else
    let head := "SELECT " ++ (if s.distinct then "DISTINCT " else "")
    if s.table.isExpression && s.fields == [.star] then do
      let expression ← s.table.render
      return (head ++ expression, [Field.parse expression])
    else do
      let fields ← Field.renderList s.fields
      let table ← s.table.render
      return (head ++ fields ++ " FROM " ++ table, s.fields)

end Selection

/-! ### INSERT and UPDATE -/

/-- An INSERT of all rows of a batch. -/
def insertFragment (table : Table) (batch : Batch) : Except Error Fragment :=
  let context := "QueryBuilder::insert"
  if table.isEmpty || batch.columns.isEmpty || batch.rows.isEmpty then
    .error (.emptyInput "table or fields" context)
  else if !batch.isRectangular then
    .error (.invalidType "fields" context "rows with one value per column")
  else do
    let table ← table.render
    let columns ← Field.renderList (batch.columns.map Field.parse)
    let group := "(" ++ Placeholder.marks batch.columns.length ++ ")"
    let groups := ",".intercalate (List.replicate batch.rows.length group)
    return ⟨"INSERT INTO " ++ table ++ " (" ++ columns ++ ") VALUES " ++ groups, batch.values⟩

/-- The assignments of an UPDATE, each with a placeholder. -/
def assignmentTexts : List Assignment → Except Error (List String)
  | [] => .ok []
  | (column, _) :: rest => do
    return ((← (Field.parse column).render) ++ " = ?") :: (← assignmentTexts rest)

/-- An UPDATE with assignments in the caller's order. -/
def updateFragment (table : Table) (assignments : List Assignment) : Except Error Fragment :=
  if table.isEmpty || assignments.isEmpty then
    .error (.emptyInput "table or fields" "QueryBuilder::update")
  else do
    let sets ← assignmentTexts assignments
    let table ← table.render
    return ⟨"UPDATE " ++ table ++ " SET " ++ ", ".intercalate sets, assignments.map Prod.snd⟩

/-- A DELETE of all rows. -/
def deleteFragment (table : Table) : Except Error Fragment :=
  if table.isEmpty then .error (.emptyInput "table" "QueryBuilder::delete")
  else do return .ofSql ("DELETE FROM " ++ (← table.render))

/-! ### Views, tables and text of the caller -/

/-- Keywords in front of a name that has to be there, quoted part by part. -/
def namedFragment (keywords name argument context : String) : Except Error Fragment := do
  return .ofSql (keywords ++ quoteQualified (← requireName name argument context))

/-- The keywords that excuse a missing view or table. -/
def ifExistsText (ifExists : Bool) : String := if ifExists then "IF EXISTS " else ""

/-- Text of the caller, which needs one parameter for each placeholder. -/
def rawFragment (sql : String) (params : List Value) : Except Error Fragment :=
  let context := "QueryBuilder::raw"
  if isBlankText sql then .error (.emptyInput "sql" context)
  else if Placeholder.count sql != params.length then
    .error (.invalidType "params" context "one value per ? placeholder")
  else .ok ⟨trimmed sql, params⟩

/-! ### All openings -/

/-- A verb that starts a statement. -/
inductive Opening where
  | select (selection : Selection)
  | insert (table : Table) (batch : Batch)
  | update (table : Table) (assignments : List Assignment)
  | delete (table : Table)
  | dropView (name : String) (ifExists : Bool)
  | dropTable (name : String) (ifExists : Bool)
  | truncate (name : String)
  /-- Text of the caller with its parameters. -/
  | raw (sql : String) (params : List Value)
  deriving Inhabited

/-- The statement that an opening starts. -/
def Opening.draft : Opening → Except Error Draft
  | select selection => do
    let (sql, projection) ← selection.compile
    return ⟨.start .select sql, projection⟩
  | insert table batch => do return .ofFragment .insert (← insertFragment table batch)
  | update table assignments => do return .ofFragment .update (← updateFragment table assignments)
  | delete table => do return .ofFragment .delete (← deleteFragment table)
  | dropView name ifExists => do
    return .ofFragment .dropView
      (← namedFragment ("DROP VIEW " ++ ifExistsText ifExists) name "view_name"
        "QueryBuilder::drop_view")
  | dropTable name ifExists => do
    return .ofFragment .dropTable
      (← namedFragment ("DROP TABLE " ++ ifExistsText ifExists) name "table" "QueryBuilder::drop")
  | truncate name => do
    return .ofFragment .truncate
      (← namedFragment "TRUNCATE TABLE " name "table" "QueryBuilder::truncate")
  | raw sql params => do return .ofFragment .raw (← rawFragment sql params)

end FluentSql
