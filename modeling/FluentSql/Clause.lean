import FluentSql.Dialect
import FluentSql.Draft
import FluentSql.Filter
import FluentSql.Ordering
import FluentSql.Table

/-!
# Clauses

What is appended to the last section of a statement: joins, conditions, groupings, orderings and
limits.  A clause cannot stand between a set operator and the section it waits for.

## Main definitions

* `Clause` — the clauses.
* `Clause.compile` — the SQL of a clause.
* `Draft.addClause` — one more clause in the last section.
-/

namespace FluentSql

/-- A clause of a section. -/
inductive Clause where
  | join (table : Table) (on : JoinOn) (request : JoinRequest)
  /-- Conditions on the rows, and text of the caller after them. -/
  | filter (conditions : Filter) (extra : String)
  /-- Conditions on the groups. -/
  | having (conditions : Filter)
  /-- The greatest number of rows. -/
  | limit (n : Nat)
  /-- The number of rows that are skipped. -/
  | offset (n : Nat)
  | orderBy (keys : List SortKey)
  /-- The fields that make a group. -/
  | groupBy (fields : List Field)
  deriving Inhabited

namespace Clause

/-- The verb that adds the clause. -/
def context : Clause → String
  | join .. => "QueryBuilder::join"
  | filter .. => "QueryBuilder::where_"
  | having _ => "QueryBuilder::having"
  | limit _ => "QueryBuilder::limit"
  | offset _ => "QueryBuilder::offset"
  | orderBy _ => "QueryBuilder::order_by"
  | groupBy _ => "QueryBuilder::group_by"

/-- The ON part of a join. -/
def onText : JoinOn → Except Error String
  | .nothing => .ok ""
  | .columns left right => do
    let left ← (Field.parse left).render
    let right ← (Field.parse right).render
    return " ON " ++ left ++ " = " ++ right
  | .raw sql => .ok (" ON " ++ trimmed sql)

/-- The entries of an ordering. -/
def keyTexts : List SortKey → Except Error (List String)
  | [] => .ok []
  | key :: keys => do
    return ((← (Field.parse key.field).render) ++ " " ++ key.direction.text) :: (← keyTexts keys)

/-- The SQL of a clause. -/
def compile (dialect : Dialect) (clause : Clause) : Except Error Fragment :=
  match clause with
  | join table on request =>
    if table.isEmpty then .error (.emptyInput "table" clause.context)
    else do
      let type ← dialect.resolveJoin request
      let table ← table.render
      return .ofSql (" " ++ type.text ++ " JOIN " ++ table ++ (← onText on))
  | filter conditions extra =>
    if conditions.isEmpty then .error (.emptyInput "where" clause.context)
    else do
      let f ← conditions.compile
      let tail := if isBlankText extra then "" else " " ++ trimmed extra
      return ⟨" WHERE " ++ f.sql ++ tail, f.params⟩
  | having conditions =>
    if conditions.isEmpty then .error (.emptyInput "having" clause.context)
    else do
      let f ← conditions.compile
      return ⟨" HAVING " ++ f.sql, f.params⟩
  | limit n => .ok (.ofSql (" LIMIT " ++ naturalText n))
  | offset n => .ok (.ofSql (" OFFSET " ++ naturalText n))
  | orderBy keys =>
    if keys.isEmpty || keys.any (fun key => isBlankText key.field) then
      .error (.emptyInput "field" clause.context)
    else do return .ofSql (" ORDER BY " ++ ", ".intercalate (← keyTexts keys))
  | groupBy fields =>
    if fields.isEmpty then .error (.emptyInput "field" clause.context)
    else do return .ofSql (" GROUP BY " ++ (← Field.renderList fields))

/-- Whether a clause is left out: a limit, if the statement is a DELETE and the dialect gives
it none. -/
def isSkipped (dialect : Dialect) (s : Statement) : Clause → Bool
  | limit _ => s.isDelete && !dialect.allowsDeleteLimit
  | _ => false

end Clause

/-- Add a clause to the last section. -/
def Draft.addClause (dialect : Dialect) (clause : Clause) : Edit Unit := do
  let d ← get
  Edit.failIf d.needsSection (.missingSelect clause.context)
  if clause.isSkipped dialect d.statement then return
  let f ← Edit.check (clause.compile dialect)
  Edit.onStatement fun s => s.append f.sql
  Edit.onStatement fun s => s.extendParams f.params

end FluentSql
