import FluentSql.Error
import FluentSql.Text.Uppercase

/-!
# Comparison operators and connectives

The operators that a condition compares with, and the words that stand between conditions.  Both
are recognised whatever their case and with blanks around them.

## Main definitions

* `Comparison`, `Comparison.text`, `Comparison.parse` — the operators.
* `Comparison.isMembership` — the operators that take a list.
* `Connective`, `Connective.text`, `Connective.parse` — the words between conditions.
-/

namespace FluentSql

/-- An operator of a condition.  The two spellings of inequality are kept apart. -/
inductive Comparison where
  | equal
  | greater
  | less
  | greaterEqual
  | lessEqual
  | unequal
  | unequalAnsi
  | like
  | notLike
  | member
  | notMember
  deriving DecidableEq, Repr, Inhabited

namespace Comparison

/-- The SQL text of an operator. -/
def text : Comparison → String
  | equal => "="
  | greater => ">"
  | less => "<"
  | greaterEqual => ">="
  | lessEqual => "<="
  | unequal => "!="
  | unequalAnsi => "<>"
  | like => "LIKE"
  | notLike => "NOT LIKE"
  | member => "IN"
  | notMember => "NOT IN"

/-- All operators. -/
def all : List Comparison :=
  [equal, greater, less, greaterEqual, lessEqual, unequal, unequalAnsi, like, notLike, member,
    notMember]

/-- The operator that a token names. -/
def parse (token : String) : Except Error Comparison :=
  match all.find? fun o => o.text = keyword token with
  | some o => .ok o
  | none => .error (.unknownOperator token)

/-- Whether an operator takes a list of values in parentheses. -/
def isMembership : Comparison → Bool
  | member | notMember => true
  | _ => false

end Comparison

/-- A word between two conditions. -/
inductive Connective where
  | and
  | or
  | not
  deriving DecidableEq, Repr, Inhabited

namespace Connective

/-- The SQL text of a connective. -/
def text : Connective → String
  | and => "AND"
  | or => "OR"
  | not => "NOT"

/-- All connectives. -/
def all : List Connective := [and, or, not]

/-- The connective that a token names. -/
def parse (token : String) : Except Error Connective :=
  match all.find? fun c => c.text = keyword token with
  | some c => .ok c
  | none => .error (.unknownOperator token)

end Connective

end FluentSql
