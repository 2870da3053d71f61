import FluentSql.Json.Basic
import FluentSql.Number.Layout

/-!
# Writing JSON

A value is written without blanks.  In a text only the quote, the backslash and the control
characters below the blank are escaped; a control character has a short escape where the format
has one, and four hexadecimal digits in lower case otherwise.

## Main definitions

* `Json.doubleLayout`, `Json.singleLayout` — how floating point numbers are written.
* `Json.escape`, `Json.writeText` — texts.
* `Json.writeArray`, `Json.writeObject` — arrays and objects whose parts are written already.
* `Json.write` — a value.
-/

namespace FluentSql.Json

/-! ### Numbers -/

/-- Numbers of 64 bits have all their places from `10 ^ -5` up to below `10 ^ 16`, an exponent has
its sign, and a whole number keeps a `.0` that tells it from an integer. -/
def doubleLayout : Layout where
  positional lead := -5 ≤ lead && lead ≤ 15
  wholeMark := true
  exponentPlus := true
  tie := .even

/-- Numbers of 32 bits have all their places from `10 ^ -6` up to below `10 ^ 13`. -/
def singleLayout : Layout where
  positional lead := -6 ≤ lead && lead ≤ 12
  wholeMark := true
  exponentPlus := true
  tie := .even

/-- A floating point number, `null` if it is not finite. -/
def writeBinary {F : Format} (L : Layout) (x : Binary F) : String :=
  if x.isFinite then L.write x else "null"

/-! ### Texts -/

/-- A hexadecimal digit in lower case. -/
def hexDigit (n : Nat) : Char := Nat.digitChar (n % 16)

/-- A character inside a text. -/
def escape (c : Char) : List Char :=
  if c = '\x22' then ['\\', '\x22']
  else if c = '\\' then ['\\', '\\']
  else if c = '\x08' then ['\\', 'b']
  else if c = '\x09' then ['\\', 't']
  else if c = '\x0a' then ['\\', 'n']
  else if c = '\x0c' then ['\\', 'f']
  else if c = '\x0d' then ['\\', 'r']
  else if c.toNat < 0x20 then
    ['\\', 'u', '0', '0', hexDigit (c.toNat / 16), hexDigit c.toNat]
  else [c]

/-- A text between quotes. -/
def writeText (s : String) : String :=
  "\"" ++ String.ofList (s.toList.flatMap escape) ++ "\""

/-! ### Values -/

/-- An array of items that are written already. -/
def writeArray (items : List String) : String := "[" ++ ",".intercalate items ++ "]"

/-- An object of members whose values are written already, in the given order. -/
def writeObject (members : List (String × String)) : String :=
  "\x7b" ++ ",".intercalate (members.map fun m => writeText m.1 ++ ":" ++ m.2) ++ "\x7d"

mutual

/-- A value as text. -/
def write : Json → String
  | .null => "null"
  | .bool b => if b then "true" else "false"
  | .number (.integer n) => integerText n
  | .number (.double x) => writeBinary doubleLayout x
  | .text s => writeText s
  | .array items => writeArray (writeItems items)
  | .object members => writeObject (writeMembers members)

/-- The items of an array as texts. -/
def writeItems : List Json → List String
  | [] => []
  | x :: xs => write x :: writeItems xs

/-- The members of an object, their values as texts. -/
def writeMembers : List (String × Json) → List (String × String)
  | [] => []
  | (key, x) :: ms => (key, write x) :: writeMembers ms

end

end FluentSql.Json
