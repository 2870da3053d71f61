import FluentSql.Json.Reader
import FluentSql.Value

/-!
# Values as tagged JSON

A value is stored as JSON together with its kind: an object with one member, whose key names the
kind, or the bare name for the null value.  Reading takes both spellings of null, takes integers
for floating point numbers and checks the range of integers.

## Main definitions

* `Value.writeTagged` — a value with its kind, as JSON text.
* `Value.ofDocument?`, `Value.readTagged?` — the value of such a document or text.
-/

namespace FluentSql.Value

/-- An object with one member, its value written already. -/
def tagged (kind content : String) : String := Json.writeObject [(kind, content)]

/-- A value with its kind. -/
def writeTagged : Value → String
  | null => Json.writeText "Null"
  | bool b => tagged "Bool" (Json.bool b).write
  | int32 n => tagged "I32" (integerText n.toInt)
  | int64 n => tagged "I64" (integerText n.toInt)
  | single x => tagged "F32" (Json.writeBinary Json.singleLayout x)
  | double x => tagged "F64" (Json.writeBinary Json.doubleLayout x)
  | text s => tagged "String" (Json.writeText s)
  | bytes bs => tagged "Bytes" (Json.writeArray (bs.map fun b => integerText b.toNat))
  | json document => tagged "Json" document.write

/-- A number of a floating point kind: an integer is rounded to it, and so is a number of another
format. -/
def binary? {F : Format} : Document → Option (Binary F)
  | .number (some (.integer n)) => some (Binary.ofInt n)
  | .number (some (.double x)) => some x.convert
  | _ => none

/-- An integer within given bounds. -/
def boundedInt? (low high : Int) (d : Document) : Option Int := do
  let n ← d.integer?
  if low ≤ n ∧ n ≤ high then some n else none

/-- A sequence of bytes: an array of integers from 0 to 255. -/
def bytes? (d : Document) : Option (List UInt8) := do
  (← d.items?).mapM fun item => (boundedInt? 0 255 item).map fun n => UInt8.ofNat n.toNat

/-- The value of one kind. -/
def ofContent? (kind : String) (content : Document) : Option Value :=
  match kind with
  | "Null" => match content with
    | .null => some null
    | _ => none
  | "Bool" => content.bool?.map bool
  | "I32" =>
    (boundedInt? Int32.minValue.toInt Int32.maxValue.toInt content).map fun n =>
      int32 (Int32.ofInt n)
  | "I64" =>
    (boundedInt? Int64.minValue.toInt Int64.maxValue.toInt content).map fun n =>
      int64 (Int64.ofInt n)
  | "F32" => (binary? content).map single
  | "F64" => (binary? content).map double
  | "String" => content.text?.map text
  | "Bytes" => (bytes? content).map bytes
  | "Json" => content.deepValue?.map json
  | _ => none

/-- The value that a document stores. -/
def ofDocument? (d : Document) : Option Value :=
  if d.depth ≤ Document.depthLimit then
    match d with
    | .text (some "Null") => some null
    | .object [(some kind, content)] => ofContent? kind content
    | _ => none
  else none

/-- The value that a text stores. -/
def readTagged? (s : String) : Option Value := do ofDocument? (← Document.read? s)

end FluentSql.Value
