import FluentSql.Comparison
import FluentSql.Field
import FluentSql.Fragment
import FluentSql.Placeholder
import FluentSql.Text.Cut

/-!
# Conditions

One condition of a WHERE or HAVING clause: a comparison of a field with an operand, a test for
null, or text of the caller.  A condition compiles to SQL text in which every bound value is a
placeholder, together with those values.

## Main definitions

* `Operand` — what a field is compared with.
* `Condition`, `Condition.compare`, `Condition.shorthand` — conditions and how they are made.
* `Condition.compile` — the SQL of a condition.
-/

namespace FluentSql

/-- What a field is compared with. -/
inductive Operand where
  /-- A value, which is bound. -/
  | value (v : Value)
  /-- Another field, which is quoted. -/
  | column (field : Field)
  /-- Several values, all of them bound. -/
  | list (vs : List Value)
  /-- Text of the caller, for instance a nested SELECT. -/
  | raw (sql : String)
  deriving DecidableEq, Inhabited

/-- A condition. -/
inductive Condition where
  /-- A field compared with an operand. -/
  | compare (field : Field) (operator : Comparison) (operand : Operand)
  /-- A test for null, or for not null. -/
  | null (field : Field) (negated : Bool)
  /-- Text of the caller. -/
  | raw (sql : String)
  deriving DecidableEq, Inhabited

namespace Condition

/-- The verb that conditions belong to. -/
def context : String := "QueryBuilder::prepare_conditions"

/-! ### Making conditions -/

/-- A comparison that has been checked: a list needs an operator for lists, and a value in it. -/
def ofComparison (field : Field) (operator : Comparison) (operand : Operand) :
    Except Error Condition :=
  match operand with
  | .list vs =>
    if !operator.isMembership then
      .error (.invalidType "value" context "a scalar for this operator")
    else if vs.isEmpty then .error (.emptyInput "value" context)
    else .ok (.compare field operator operand)
  | _ => .ok (.compare field operator operand)

/-- A comparison whose operator is given by its token. -/
def ofToken (field : Field) (token : String) (operand : Operand) : Except Error Condition := do
  ofComparison field (← Comparison.parse token) operand

/-- Whether a text asks for null, or for not null. -/
def nullTest? (s : String) : Option Bool :=
  let word := Text.fold (Text.trim s.toList)
  if word = "is null".toList then some false
  else if word = "is not null".toList then some true
  else none

/-- A condition without operator: a test for null if the operand is a text that asks for it,
membership for a list, equality for everything else. -/
def shorthand (field : Field) (operand : Operand) : Except Error Condition :=
  match operand with
  | .value (.text s) =>
    match nullTest? s with
    | some negated => .ok (.null field negated)
    | none => ofComparison field .equal operand
  | .list _ => ofComparison field .member operand
  | _ => ofComparison field .equal operand

/-! ### Compiling -/

/-- The right-hand side of a comparison, before it is put in parentheses. -/
def operandFragment : Operand → Except Error Fragment
  | .value v => .ok ⟨"?", [v]⟩
  | .list vs =>
    if vs.isEmpty then .error (.emptyInput "value" context)
    else .ok ⟨Placeholder.marks vs.length, vs⟩
  | .column field => do return .ofSql (← field.render)
  | .raw sql => .ok (.ofSql (trimmed sql))

/-- The right-hand side of a test for membership begins with a parenthesis; one is put around it
if it does not. -/
def enclosed (operator : Comparison) (sql : String) : String :=
  if operator.isMembership && sql.toList.head? != some '(' then "(" ++ sql ++ ")" else sql

/-- The SQL of a condition. -/
def compile : Condition → Except Error Fragment
  | compare field operator operand => do
    let left ← field.render
    let right ← operandFragment operand
    return ⟨"(" ++ left ++ " " ++ operator.text ++ " " ++ enclosed operator right.sql ++ ")",
      right.params⟩
  | null field negated => do
    let left ← field.render
    return .ofSql ("(" ++ left ++ (if negated then " IS NOT NULL)" else " IS NULL)"))
  | raw sql => if isBlankText sql then .error (.emptyInput "where" context) else .ok (.ofSql sql)

end Condition

end FluentSql
