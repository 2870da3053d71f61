import FluentSql.Builder

/-!
# Verbs

What a caller asks of a builder, one verb at a time.  A verb starts a statement, extends the one
there is, or sets the error.

## Main definitions

* `Verb`, `Builder.run` — the verbs and what they do.
* `Builder.runAll` — several verbs in order.
* `Verb.select`, `Verb.innerJoin`, `Verb.orderByAsc` and others — verbs by their names.
-/

namespace FluentSql

/-- A verb of a builder. -/
inductive Verb where
  /-- Start a statement, or add the SELECT that a set operator waits for. -/
  | start (opening : Opening)
  /-- Add a clause to the last section. -/
  | clause (clause : Clause)
  /-- Add the condition that a field matches a pattern, or does not. -/
  | like (field : String) (pattern : Value) (negated : Bool)
  /-- Add the condition that a field is null, or is not. -/
  | nullTest (field : String) (negated : Bool)
  /-- Let a set operator wait for the next SELECT. -/
  | combine (c : Combination)
  /-- Add a set operator with a SELECT of the same fields. -/
  | combineSelect (c : Combination) (table : Table)
  /-- Make the SELECT the content of a view. -/
  | createView (name : String) (ifNotExists : Bool)
  /-- Keep a message as the error. -/
  | setError (message : String)
  /-- Forget everything. -/
  | reset
  deriving Inhabited

namespace Verb

/-! ### Verbs by their names -/

/-- Read fields of a table. -/
def select (table : Table) (fields : List Field) : Verb := .start (.select ⟨table, fields, false⟩)

/-- Read different rows of fields of a table. -/
def selectDistinct (table : Table) (fields : List Field) : Verb :=
  .start (.select ⟨table, fields, true⟩)

/-- A join of some type. -/
def join (table : Table) (on : JoinOn) (request : JoinRequest) : Verb :=
  .clause (.join table on request)

/-- A join of the rows that match. -/
def innerJoin (table : Table) (on : JoinOn) : Verb := join table on (.known .inner)

/-- A join that keeps all rows of the left side. -/
def leftJoin (table : Table) (on : JoinOn) : Verb := join table on (.known .left)

/-- A join of all rows with all rows. -/
def crossJoin (table : Table) : Verb := join table .nothing (.known .cross)

/-- Conditions on the rows. -/
def filter (conditions : Filter) : Verb := .clause (.filter conditions "")

/-- Conditions on the rows, and text of the caller after them. -/
def filterWith (conditions : Filter) (extra : String) : Verb := .clause (.filter conditions extra)

/-- Conditions on the groups. -/
def having (conditions : Filter) : Verb := .clause (.having conditions)

/-- The greatest number of rows. -/
def limit (n : Nat) : Verb := .clause (.limit n)

/-- The number of rows that are skipped. -/
def offset (n : Nat) : Verb := .clause (.offset n)

/-- An ordering. -/
def orderBy (keys : List SortKey) : Verb := .clause (.orderBy keys)

/-- An ascending order by one field. -/
def orderByAsc (field : String) : Verb := orderBy [⟨field, .asc⟩]

/-- A descending order by one field. -/
def orderByDesc (field : String) : Verb := orderBy [⟨field, .desc⟩]

/-- A grouping. -/
def groupBy (fields : List Field) : Verb := .clause (.groupBy fields)

end Verb

/-! ### What verbs do -/

namespace Draft

/-- One condition on the rows. -/
def addCondition (dialect : Dialect) (c : Condition) : Edit Unit :=
  addClause dialect (.filter (.ofCondition (.ok c)) "")

/-- The condition that a field matches a pattern, or does not.  The field must not be blank. -/
def addLike (dialect : Dialect) (field : String) (pattern : Value) (negated : Bool) :
    Edit Unit := do
  Edit.failIf (isBlankText field)
    (.emptyInput "field" (if negated then "QueryBuilder::not_like" else "QueryBuilder::like"))
  addCondition dialect
    (.compare (.parse field) (if negated then .notLike else .like) (.value pattern))

/-- The condition that a field is null, or is not.  The field must not be blank. -/
def addNullTest (dialect : Dialect) (field : String) (negated : Bool) : Edit Unit := do
  Edit.failIf (isBlankText field)
    (.emptyInput "field"
      (if negated then "QueryBuilder::is_not_null" else "QueryBuilder::is_null"))
  addCondition dialect (.null (.parse field) negated)

end Draft

namespace Builder

/-- Start a statement.  A SELECT that a set operator waits for extends the statement instead,
unless an error is kept, in which case there is nothing to extend. -/
def runOpening (b : Builder) (opening : Opening) : Builder :=
  match opening with
  | .select s =>
    if b.draft.needsSection && !b.hasError then b.extend (Draft.addSelection s)
    else b.start opening.draft
  | _ => b.start opening.draft

/-- The builder after a verb. -/
def run (b : Builder) : Verb → Builder
  | .start opening => b.runOpening opening
  | .clause c => b.extend (Draft.addClause b.dialect c)
  | .like field pattern negated => b.extend (Draft.addLike b.dialect field pattern negated)
  | .nullTest field negated => b.extend (Draft.addNullTest b.dialect field negated)
  | .combine c => b.extend (Draft.combine c)
  | .combineSelect c table => b.extend (Draft.combineSelect c table)
  | .createView name ifNotExists => b.extend (Draft.createView name ifNotExists)
  | .setError message => b.setError message
  | .reset => b.reset

/-- The builder after several verbs. -/
def runAll (b : Builder) (verbs : List Verb) : Builder := verbs.foldl run b

@[simp] theorem runAll_nil (b : Builder) : b.runAll [] = b := rfl

@[simp] theorem runAll_cons (b : Builder) (v : Verb) (vs : List Verb) :
    b.runAll (v :: vs) = (b.run v).runAll vs := rfl

end Builder

end FluentSql
