import FluentSql.Opening

/-!
# Compound statements

A SELECT may be combined with a further one by a set operator.  Either the operator waits for the
next SELECT, or a SELECT of the same fields from another table follows at once.  A statement that is
a SELECT may also be made the content of a view.

## Main definitions

* `Combination` — the ways to ask for a set operator.
* `Draft.addSelection` — the SELECT that an operator waited for.
* `Draft.combine`, `Draft.combineSelect` — an operator that waits, and one with its SELECT.
* `Draft.createView` — a SELECT as the content of a view.
-/

namespace FluentSql

/-- A way to ask for a set operator. -/
inductive Combination where
  /-- A union, of all rows or of the different ones. -/
  | union (all : Bool)
  | unionAll
  | except
  | intersect
  deriving DecidableEq, Repr, Inhabited

namespace Combination

/-- The operator that is asked for. -/
def operator : Combination → SetOperator
  | union all => if all then .unionAll else .union
  | unionAll => .unionAll
  | except => .except
  | intersect => .intersect

/-- The verb that asks for the operator alone. -/
def context : Combination → String
  | union _ => "QueryBuilder::union"
  | unionAll => "QueryBuilder::union_all"
  | except => "QueryBuilder::excepts"
  | intersect => "QueryBuilder::intersect"

/-- The verb that asks for the operator with a SELECT. -/
def selectContext : Combination → String
  | union _ => "QueryBuilder::union_select"
  | unionAll => "QueryBuilder::union_select_all"
  | except => "QueryBuilder::except_select"
  | intersect => "QueryBuilder::intersect_select"

end Combination

namespace Draft

/-- The section that a set operator waited for. -/
def addSelection (s : Selection) : Edit Unit := do
  let (sql, projection) ← Edit.check s.compile
  Edit.onStatement fun s => s.pushSection sql
  Edit.remember projection

/-- A set operator that waits for its section.  It needs a SELECT before it, and none that waits. -/
def combine (c : Combination) : Edit Unit := do
  let d ← get
  Edit.failIf (d.statement.kind ≠ .select ∨ d.needsSection) (.missingSelect c.context)
  Edit.onStatement fun s => s.beginCompound c.operator

/-- The fields that a further section repeats: those of the last SELECT, or all columns. -/
def repeatedFields (d : Draft) : List Field :=
  if d.projection.isEmpty then [.star] else d.projection

/-- A set operator with a SELECT of the same fields from another table.  An operator that a
statement holds once may not be there already. -/
def combineSelect (c : Combination) (table : Table) : Edit Unit := do
  let d ← get
  Edit.failIf table.isEmpty (.emptyInput "table" c.selectContext)
  Edit.failIf (d.statement.kind ≠ .select) (.missingSelect c.selectContext)
  Edit.failIf (c.operator.isSingle && d.statement.holdsOperator c.operator)
    (.duplicateSetOperator c.operator.text)
  Edit.failIf d.needsSection (.missingSelect c.selectContext)
  let fields ← Edit.check (Field.renderList d.repeatedFields)
  let table ← Edit.check table.render
  Edit.onStatement fun s => s.beginCompound c.operator
  Edit.onStatement fun s => s.pushSection ("SELECT " ++ fields ++ " FROM " ++ table)

/-- A SELECT as the content of a view. -/
def createView (name : String) (ifNotExists : Bool) : Edit Unit := do
  let name ← Edit.check (requireName name "view_name" "QueryBuilder::create_view")
  let d ← get
  Edit.failIf (d.statement.kind ≠ .select ∨ d.needsSection)
    (.missingSelect "QueryBuilder::create_view")
  Edit.onStatement fun s => s.setView name ifNotExists

end Draft

end FluentSql
