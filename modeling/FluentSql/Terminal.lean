import FluentSql.Backend
import FluentSql.Verb

/-!
# Terminal verbs

The verbs that run the statement of a builder: they compile it, hand it to a backend and keep what
comes back.  An error of the builder stops them before the backend is called.  An error of an
earlier execution is dropped first, so that the statement can be sent again.

## Main definitions

* `Outcome` — a builder afterwards, the calls of the backend, and the result.
* `Builder.perform` — compile, send, and take up the reply.
* `Builder.all`, `Builder.one`, `Builder.go`, `Builder.hasRows`, `Builder.column`, `Builder.pluck`,
  `Builder.count` — the terminal verbs.
* `Terminal`, `Answer`, `Builder.finish` — the terminal verbs and their results as data.
-/

namespace FluentSql

/-- What a terminal verb leaves behind. -/
structure Outcome (α : Type) where
  /-- The builder afterwards. -/
  builder : Builder
  /-- The calls of the backend, in order. -/
  sent : List Request
  /-- The result. -/
  result : Except Error α

namespace Outcome

variable {α β : Type}

/-- The same with a result made from the other one; the builder does not learn of an error that
this gives. -/
def check (o : Outcome α) (f : α → Except Error β) : Outcome β :=
  ⟨o.builder, o.sent, o.result.bind f⟩

/-- The same with a result made from the other one. -/
def map (f : α → β) (o : Outcome α) : Outcome β := ⟨o.builder, o.sent, o.result.map f⟩

end Outcome

namespace Builder

variable {α : Type}

/-- A failure before anything was sent, which is kept. -/
def refuse (b : Builder) (e : Error) : Outcome α := ⟨b.record e, [], .error e⟩

/-- Drop the error of an earlier execution. -/
def clearExecution (b : Builder) : Builder :=
  if b.error.any Error.isExecution then { b with error := none } else b

/-- Compile the statement, send it, and take up the reply.  A failure of the backend clears what was
fetched before. -/
def perform (b : Builder) (backend : Backend) (method : Method)
    (accept : Builder → Reply → Builder × α) : Outcome α :=
  let b := b.clearExecution
  match b.compile with
  | .error e => b.refuse e
  | .ok query =>
    match backend ⟨method, query⟩ with
    | .error e => ⟨{ b with rows := [], rowCount := none, error := some e }, [⟨method, query⟩],
        .error e⟩
    | .ok reply =>
      let (b, result) := accept b reply
      ⟨b, [⟨method, query⟩], .ok result⟩

/-- Keep rows that were fetched. -/
def storeRows (b : Builder) (rows : List Row) : Builder :=
  { b with rows := rows, rowCount := some rows.length }

/-! ### The verbs -/

/-- Fetch all rows. -/
def all (b : Builder) (backend : Backend) : Outcome (List Row) :=
  b.perform backend .fetchAll fun b reply => (b.storeRows reply.rows, reply.rows)

/-- Fetch the first row. -/
def one (b : Builder) (backend : Backend) : Outcome (Option Row) :=
  b.perform backend .fetchOptional fun b reply =>
    (b.storeRows reply.rows.head?.toList, reply.rows.head?)

/-- A row that is not of the type that was asked for. -/
def decodingFailed (reason : String) : Error := .execution ("row decoding failed: " ++ reason)

/-- A row read as some type. -/
def decodeRow (decode : Row → Except String α) (row : Row) : Except Error α :=
  (decode row).mapError decodingFailed

/-- Several rows read as some type; the first one that is not of that type fails. -/
def decodeRows (decode : Row → Except String α) : List Row → Except Error (List α)
  | [] => .ok []
  | row :: rows => do return (← decodeRow decode row) :: (← decodeRows decode rows)

/-- Fetch all rows and read each as some type. -/
def allAs (b : Builder) (backend : Backend) (decode : Row → Except String α) : Outcome (List α) :=
  (b.all backend).check (decodeRows decode)

/-- Fetch the first row and read it as some type. -/
def oneAs (b : Builder) (backend : Backend) (decode : Row → Except String α) : Outcome (Option α) :=
  (b.one backend).check fun
    | some row => (decodeRow decode row).map some
    | none => .ok none

/-- Run the statement without fetching.  The result is the number given to the row that was added
last, zero if the backend names none. -/
def go (b : Builder) (backend : Backend) : Outcome Int :=
  b.perform backend .execute fun b reply =>
    ({ b with rows := [], rowCount := some reply.affected }, reply.lastId.getD 0)

/-- Fetch all rows and take one column of each; rows without it are left out. -/
def column (b : Builder) (backend : Backend) (name : String) : Outcome (List Json) :=
  if isBlankText name then b.refuse (.emptyInput "column" "QueryBuilder::column")
  else (b.all backend).map fun rows => rows.filterMap fun row => row.get? (trimmed name)

/-- The key and the value that a row gives to a map.  The key is taken out of the row first, so one
column cannot serve as both. -/
def pluckRow (key column : String) (row : Row) : Option (String × Json) := do
  let k ← row.get? key
  let v ← (row.erase key).get? column
  return (k.keyText, v)

/-- Fetch all rows and map one column to another.  A later row replaces an earlier one with the
same key. -/
def pluck (b : Builder) (backend : Backend) (key column : String) : Outcome (Keyed Json) :=
  if isBlankText key || isBlankText column then
    b.refuse (.emptyInput "key or column" "QueryBuilder::pluck")
  else
    (b.all backend).map fun rows =>
      Keyed.ofList (rows.filterMap (pluckRow (trimmed key) (trimmed column)))

/-- Whether the statement gives a row. -/
def hasRows (b : Builder) (backend : Backend) : Outcome Bool :=
  let o := b.one backend
  o.map fun _ => o.builder.rowCount.any (0 < ·)

/-- The number in a counter: an integer, or a text that is one. -/
def counter? : Json → Option Int
  | .text s => readInt64? s
  | other => other.integer?

/-- What is counted: rows for a blank field, and otherwise the rows where the field is not null. -/
def countTarget (field : String) : Except Error String :=
  if isBlankText field then .ok "*" else (Field.parse field).render

/-- Count rows of a table.  The builder starts a SELECT of its own for that; no counter counts as
zero. -/
def count (b : Builder) (backend : Backend) (table field : String) : Outcome Int :=
  match countTarget field with
  | .error e => b.refuse e
  | .ok target =>
    let fields := Field.parseList ("COUNT(" ++ target ++ ") AS counter")
    ((b.run (.select (.parse table) fields)).column backend "counter").map fun values =>
      (values.head?.bind counter?).getD 0

end Builder

/-! ### Terminal verbs as data -/

/-- A terminal verb. -/
inductive Terminal where
  | all
  | one
  | allEntries
  | oneEntry
  | go
  | column (name : String)
  | pluck (key column : String)
  | hasRows
  | count (table field : String)
  deriving DecidableEq, Repr, Inhabited

/-- The result of a terminal verb. -/
inductive Answer where
  | rows (rows : List Row)
  | entries (entries : List Entry)
  | number (n : Int)
  | values (values : List Json)
  | map (entries : Keyed Json)
  | truth (b : Bool)
  deriving DecidableEq, Inhabited

/-- Run a terminal verb. -/
def Builder.finish (b : Builder) (backend : Backend) : Terminal → Outcome Answer
  | .all => (b.all backend).map .rows
  | .one => (b.one backend).map fun row => .rows row.toList
  | .allEntries => (b.allAs backend Entry.ofRow).map .entries
  | .oneEntry => (b.oneAs backend Entry.ofRow).map fun entry => .entries entry.toList
  | .go => (b.go backend).map .number
  | .column name => (b.column backend name).map .values
  | .pluck key column => (b.pluck backend key column).map .map
  | .hasRows => (b.hasRows backend).map .truth
  | .count table field => (b.count backend table field).map .number

end FluentSql
