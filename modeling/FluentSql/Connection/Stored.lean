import FluentSql.Connection
import FluentSql.Json.Printer
import FluentSql.Json.Reader

/-!
# Stored connection settings

Connection settings as JSON.  They are written as an object with all settings in a fixed order, and
read from such an object or from an array in that order.  The driver has to be there; every other
setting may be missing, and all but the database may be `null`.  The host may be called `dbhost`.

## Main definitions

* `Connection.write` — settings as JSON text.
* `Connection.ofDocument?`, `Connection.read?` — the settings in a document or text.
-/

namespace FluentSql

/-- The driver that a document names, by itself or as the key of a null member. -/
def Driver.ofDocument? : Document → Option Driver
  | .text (some s) => ofName? s
  | .object [(some s, .null)] => ofName? s
  | _ => none

namespace Connection

/-! ### Writing -/

/-- A text, or `null`. -/
def writeOptional : Option String → String
  | some s => Json.writeText s
  | none => "null"

/-- Settings as JSON. -/
def write (c : Connection) : String :=
  Json.writeObject
    [("driver", Json.writeText c.driver.name), ("dbname", Json.writeText c.dbname),
      ("host", writeOptional c.host),
      ("port", c.port.elim "null" fun port => naturalText port.toNat),
      ("username", writeOptional c.username), ("password", writeOptional c.password),
      ("charset", writeOptional c.charset)]

/-! ### Reading -/

/-- The names of the settings, in order. -/
def fieldNames : List (List String) :=
  [["driver"], ["dbname"], ["host", "dbhost"], ["port"], ["username"], ["password"], ["charset"]]

/-- The port that a document is. -/
def port? (d : Document) : Option UInt16 := do
  let n ← d.integer?
  if 0 ≤ n ∧ n < UInt16.size then some (UInt16.ofNat n.toNat) else none

/-- A setting that may be missing or `null`. -/
def optional? {α : Type} (read : Document → Option α) : Option Document → Option (Option α)
  | none => some none
  | some d => d.nullable? read

/-- The settings in a document. -/
def ofDocument? (d : Document) : Option Connection := do
  match ← d.fields? fieldNames with
  | [some driver, dbname, host, port, username, password, charset] =>
    return {
      driver := ← Driver.ofDocument? driver
      dbname := ← match dbname with
        | none => some ""
        | some d => d.text?
      host := ← optional? Document.text? host
      port := ← optional? port? port
      username := ← optional? Document.text? username
      password := ← optional? Document.text? password
      charset := ← optional? Document.text? charset }
  | _ => none

/-- The settings in a text. -/
def read? (s : String) : Option Connection := do ofDocument? (← Document.read? s)

end Connection

end FluentSql
