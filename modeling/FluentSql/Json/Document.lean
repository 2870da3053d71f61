import FluentSql.Json.Numeral

/-!
# JSON documents

A document as it is written: members in their written order, with repeated keys, and with texts
and numbers whose value may not exist.  A text has no value if an escape in it is half of a
surrogate pair without the other half, a number none if it is too great.  Whether that matters
depends on who reads the document: members that nobody asks for may hold anything.

## Main definitions

* `Document` — documents.
* `Document.value?` — the JSON value of a document.
* `Document.fields?` — the fields of a record that is written as an object or as an array.
-/

namespace FluentSql

/-- A JSON document as it is written. -/
inductive Document where
  /-- The document `null`. -/
  | null
  /-- A truth value. -/
  | bool (b : Bool)
  /-- A number. -/
  | number (value : Option Json.Number)
  /-- A text. -/
  | text (value : Option String)
  /-- An array. -/
  | array (items : List Document)
  /-- An object, with its members in the order in which they are written. -/
  | object (members : List (Option String × Document))
  deriving Repr, Inhabited

namespace Document

/-! ### The value of a document -/

mutual

/-- How deep arrays and objects are nested. -/
def depth : Document → Nat
  | .array items => depthItems items + 1
  | .object members => depthMembers members + 1
  | _ => 0

/-- The greatest depth of some items. -/
def depthItems : List Document → Nat
  | [] => 0
  | d :: ds => max (depth d) (depthItems ds)

/-- The greatest depth of some members. -/
def depthMembers : List (Option String × Document) → Nat
  | [] => 0
  | (_, d) :: ms => max (depth d) (depthMembers ms)

end

/-- How deep a document may be nested for its value to be taken. -/
def depthLimit : Nat := 127

mutual

/-- The value of a document of any depth. -/
def deepValue? : Document → Option Json
  | .null => some .null
  | .bool b => some (.bool b)
  | .number value => value.map .number
  | .text value => value.map .text
  | .array items => (deepItems? items).map .array
  | .object members => (deepMembers? members).map fun ms => .object (Keyed.ofList ms)

/-- The values of some items. -/
def deepItems? : List Document → Option (List Json)
  | [] => some []
  | d :: ds => do return (← deepValue? d) :: (← deepItems? ds)

/-- The keys and values of some members. -/
def deepMembers? : List (Option String × Document) → Option (List (String × Json))
  | [] => some []
  | (key, d) :: ms => do return (← key, ← deepValue? d) :: (← deepMembers? ms)

end

/-- The value of a document: the last of several members with one key counts.  A document that is
nested too deep, or that holds a text or a number without value, has none. -/
def value? (d : Document) : Option Json := if d.depth ≤ depthLimit then d.deepValue? else none

/-! ### Reading by type -/

/-- The text that a document is. -/
def text? : Document → Option String
  | .text value => value
  | _ => none

/-- The truth value that a document is. -/
def bool? : Document → Option Bool
  | .bool b => some b
  | _ => none

/-- The integer that a document is. -/
def integer? : Document → Option Int
  | .number (some (.integer n)) => some n
  | _ => none

/-- The items of an array. -/
def items? : Document → Option (List Document)
  | .array items => some items
  | _ => none

/-- What a document holds that may also be `null`: nothing, or what is read from it. -/
def nullable? {α : Type} (read : Document → Option α) : Document → Option (Option α)
  | .null => some none
  | d => (read d).map some

/-- The document of a field in an object.  The field may have several names, and may be given
once. -/
def field? (names : List String) (members : List (String × Document)) :
    Option (Option Document) :=
  match members.filter fun m => names.contains m.1 with
  | [] => some none
  | [m] => some (some m.2)
  | _ :: _ :: _ => none

/-- The documents of the fields of a record, each field with the names it goes by.  A record is
written as an object, in which members under other names do not count, or as an array that holds
its leading fields in order.  Every key of an object must be a text with a value. -/
def fields? (names : List (List String)) : Document → Option (List (Option Document))
  | .object members => do
    let members ← members.mapM fun m => m.1.map fun key => (key, m.2)
    names.mapM fun ns => field? ns members
  | .array items =>
    if items.length ≤ names.length then
      some (items.map some ++ List.replicate (names.length - items.length) none)
    else none
  | _ => none

end Document

end FluentSql
