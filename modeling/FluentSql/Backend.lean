import FluentSql.Error
import FluentSql.Fragment
import FluentSql.Row

/-!
# The backend

A statement is run by handing it, with its parameters, to the backend of a builder, which sends it
to a database.  A backend answers with rows or counts, or with an error of its own.

## Main definitions

* `Request`, `Reply`, `Backend` — what is sent, what comes back, and what connects the two.
* `Script` — replies that are given one after the other.
-/

namespace FluentSql

/-- What a backend is asked to do with a statement. -/
inductive Method where
  | execute
  | fetchAll
  | fetchOptional
  deriving DecidableEq, Repr, Inhabited

/-- A call of a backend. -/
structure Request where
  method : Method
  query : Fragment
  deriving DecidableEq, Inhabited

/-- What a backend answers.  Rows belong to fetching, the counts to running. -/
structure Reply where
  rows : List Row
  /-- How many rows were changed. -/
  affected : Nat
  /-- The number given to the row that was added last. -/
  lastId : Option Int
  deriving DecidableEq, Inhabited

/-- A reply without rows and counts. -/
protected def Reply.empty : Reply := ⟨[], 0, none⟩

/-- A backend answers each request with a reply or an error. -/
abbrev Backend := Request → Except Error Reply

/-- Replies that are given one after the other; the last one is given again and again, and without
any the reply is empty. -/
abbrev Script := List (Except Error Reply)

/-- The answer to the call with a number, counted from zero. -/
def Script.answer : Script → Nat → Except Error Reply
  | [], _ => .ok .empty
  | [reply], _ => reply
  | reply :: _ :: _, 0 => reply
  | _ :: next :: rest, n + 1 => Script.answer (next :: rest) n

end FluentSql
