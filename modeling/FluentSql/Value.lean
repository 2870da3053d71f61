import FluentSql.Identifier
import FluentSql.Json.Printer

/-!
# Bound values

The scalars that a statement binds to its placeholders.  A value is never part of the SQL text that
is sent; its literal is for the debug view of a statement only.

## Main definitions

* `Value` — bound values.
* `Value.literal` — the SQL literal of a value.
* `Value.toJson` — the value as it would stand in a fetched row.
-/

namespace FluentSql

/-- A scalar that can be bound to a placeholder. -/
inductive Value where
  | null
  | bool (b : Bool)
  | int32 (n : Int32)
  | int64 (n : Int64)
  | single (x : Binary .single)
  | double (x : Binary .double)
  | text (s : String)
  | bytes (bs : List UInt8)
  /-- A JSON document, bound as its text. -/
  | json (document : Json)
  deriving DecidableEq, Inhabited

namespace Value

/-! ### Making values -/

/-- An unsigned integer of 32 bits, which has room among the integers of 64 bits. -/
def ofUInt32 (n : UInt32) : Value := int64 (Int64.ofNat n.toNat)

/-- A value that may be missing; a missing one is null. -/
def ofOption : Option Value → Value
  | some v => v
  | none => null

/-! ### Literals -/

/-- Numbers of a literal have all their places and no `.0`. -/
def literalLayout : Layout where
  positional _ := true
  wholeMark := false
  exponentPlus := false
  tie := .up

/-- A text between single quotes, those inside it doubled. -/
def quoteLiteral (s : String) : String := String.ofList (Text.quoted singleQuote s.toList)

/-- Two hexadecimal digits in upper case. -/
def hexByte (b : UInt8) : List Char :=
  [(Nat.digitChar (b.toNat / 16)).toUpper, (Nat.digitChar (b.toNat % 16)).toUpper]

/-- The SQL literal of a value. -/
def literal : Value → String
  | null => "NULL"
  | bool b => if b then "1" else "0"
  | int32 n => integerText n.toInt
  | int64 n => integerText n.toInt
  | single x => literalLayout.write x
  | double x => literalLayout.write x
  | text s => quoteLiteral s
  | bytes bs => "X'" ++ String.ofList (bs.flatMap hexByte) ++ "'"
  | json document => quoteLiteral document.write

/-! ### In rows -/

/-- The value as it would stand in a fetched row. -/
def toJson : Value → Json
  | null => .null
  | bool b => .bool b
  | int32 n => .ofInt n.toInt
  | int64 n => .ofInt n.toInt
  | single x => .ofDouble x.convert
  | double x => .ofDouble x
  | text s => .text s
  | bytes bs => .array (bs.map fun b => .ofInt b.toNat)
  | json document => document

end Value

end FluentSql
