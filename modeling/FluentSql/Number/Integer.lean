/-!
# Integers in decimal

## Main definitions

* `naturalText`, `integerText` — naturals and integers as text.
* `digitsValue` — the number that decimal digits denote.
* `readInt64?` — the signed integer of 64 bits that a text is.
* `twoTo`, `tenTo` — the powers that scale numbers.
-/

namespace FluentSql

/-- A natural number in decimal. -/
def naturalText (n : Nat) : String := String.ofList (Nat.toDigits 10 n)

/-- An integer in decimal, with a minus sign if it is negative. -/
def integerText (n : Int) : String :=
  if n < 0 then "-" ++ naturalText n.natAbs else naturalText n.natAbs

/-- The value of a decimal digit. -/
def digitValue (d : Char) : Nat := d.toNat - '0'.toNat

/-- The number that decimal digits denote. -/
def digitsValue (ds : List Char) : Nat := ds.foldl (fun n d => 10 * n + digitValue d) 0

/-- The number that digits denote, if there is at least one digit and nothing else. -/
def readDigits? (cs : List Char) : Option Nat :=
  if !cs.isEmpty && cs.all Char.isDigit then some (digitsValue cs) else none

/-- The signed integer of 64 bits that a text is: digits after one sign or none. -/
def readInt64? (s : String) : Option Int := do
  let n : Int ← match s.toList with
    | '-' :: cs => (readDigits? cs).map fun (n : Nat) => -(n : Int)
    | '+' :: cs => (readDigits? cs).map fun (n : Nat) => (n : Int)
    | cs => (readDigits? cs).map fun (n : Nat) => (n : Int)
  if Int64.minValue.toInt ≤ n ∧ n ≤ Int64.maxValue.toInt then some n else none

/-- A power of two. -/
def twoTo (n : Nat) : Nat := Nat.pow 2 n

/-- A power of ten. -/
def tenTo (n : Nat) : Nat := Nat.pow 10 n

end FluentSql
