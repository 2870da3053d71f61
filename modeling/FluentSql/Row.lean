import FluentSql.Json.Printer

/-!
# Rows

A row that was fetched: the values of its columns, under their names and in the order of the names.

## Main definitions

* `Row` — rows.
* `Row.text` — a row as JSON text.
* `Entry`, `Entry.ofRow` — rows with a number and a name, as an example of a typed row.
-/

namespace FluentSql

/-- The columns of a fetched row. -/
abbrev Row := Keyed Json

/-- The columns of a row as the text of a JSON object. -/
def Row.text (row : Row) : String := (Json.object row).write

/-- The text under which a value serves as a key: texts stand for themselves, other values for
their JSON text. -/
def Json.keyText : Json → String
  | .text s => s
  | other => other.write

/-- A row with a number and a name. -/
structure Entry where
  /-- The number, from the column `id`. -/
  id : Int
  /-- The name, from the column `name`. -/
  name : String
  deriving DecidableEq, Repr, Inhabited

/-- The entry in a row, or why there is none.  Other columns do not count. -/
def Entry.ofRow (row : Row) : Except String Entry :=
  match row.get? "id", row.get? "name" with
  | none, _ => .error "missing column id"
  | _, none => .error "missing column name"
  | some id, some name =>
    match id.integer?, name.text? with
    | some id, some name => .ok ⟨id, name⟩
    | none, _ => .error "column id is no integer"
    | _, none => .error "column name is no text"

end FluentSql
