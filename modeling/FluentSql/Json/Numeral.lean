import FluentSql.Json.Basic
import FluentSql.Number.Integer

/-!
# Numerals

The numbers of a JSON text as they are written, and the values they denote.  A numeral with
neither point nor exponent is an integer if it fits 64 bits, with or without sign.  Every other
numeral, and a negative zero, is a floating point number.

That number is not always the nearest one.  The leading digits that fit 64 bits form the
significand and the others only count as places; the significand is rounded to a floating point
number, and that is multiplied or divided by a power of ten and rounded again.

## Main definitions

* `Json.Numeral`, `Json.Numeral.read` — numerals and their grammar.
* `Json.Numeral.scale` — a significand and a power of ten as a floating point number.
* `Json.Numeral.value?` — the number that a numeral denotes.
-/

namespace FluentSql.Json

/-- A number as it is written. -/
structure Numeral where
  /-- Whether it begins with a minus sign. -/
  negative : Bool
  /-- The digits before the point. -/
  whole : List Char
  /-- The digits after the point; none without a point. -/
  fraction : List Char
  /-- The exponent, if there is one. -/
  exponent : Option Int
  deriving DecidableEq, Repr

namespace Numeral

/-! ### Reading -/

/-- The leading digits, and what follows them. -/
def readDigits (cs : List Char) : List Char × List Char :=
  (cs.takeWhile Char.isDigit, cs.dropWhile Char.isDigit)

/-- The digits after a point, if there is one; a point needs a digit after it. -/
def readFraction : List Char → Option (List Char × List Char)
  | '.' :: cs =>
    let (ds, rest) := readDigits cs
    if ds.isEmpty then none else some (ds, rest)
  | cs => some ([], cs)

/-- The exponent, if there is one; it needs a digit. -/
def readExponent : List Char → Option (Option Int × List Char)
  | c :: cs =>
    if c = 'e' || c = 'E' then
      let (negative, cs) := match cs with
        | '-' :: r => (true, r)
        | '+' :: r => (false, r)
        | r => (false, r)
      let (ds, rest) := readDigits cs
      let n : Int := digitsValue ds
      if ds.isEmpty then none else some (some (if negative then -n else n), rest)
    else some (none, c :: cs)
  | [] => some (none, [])

/-- A numeral, and what follows it.  A zero in front has no digits after it. -/
def read (cs : List Char) : Option (Numeral × List Char) := do
  let (negative, cs) := match cs with
    | '-' :: r => (true, r)
    | r => (false, r)
  let (whole, cs) := readDigits cs
  if whole.isEmpty || (whole.head? == some '0' && whole.length != 1) then none
  let (fraction, cs) ← readFraction cs
  let (exponent, cs) ← readExponent cs
  return (⟨negative, whole, fraction, exponent⟩, cs)

/-! ### Values -/

/-- Append digits to a significand as long as it stays below `2 ^ 64`; the other digits are left. -/
def gather (significand : Nat) : List Char → Nat × List Char
  | [] => (significand, [])
  | d :: ds =>
    let next := 10 * significand + digitValue d
    if next < UInt64.size then gather next ds else (significand, d :: ds)

/-- A power of ten as a floating point number. -/
def power (k : Nat) : Binary .double := Binary.ofRatio false (tenTo k) 1

/-- A floating point number times a power of ten.  Powers up to `10 ^ 308` are applied in one
operation; a smaller number is first divided by `10 ^ 308`, again and again until it is zero or the
rest of the power is in reach.  A result that is too great is none. -/
def scaleFrom : Nat → Binary .double → Int → Option (Binary .double)
  | steps, x, k =>
    if k.natAbs ≤ 308 then
      let y := if 0 ≤ k then x.mul (power k.toNat) else x.div (power (-k).toNat)
      if y.isFinite then some y else none
    else if x.isZero then some x
    else if 0 ≤ k then none
    else match steps with
      | 0 => some x
      | steps + 1 => scaleFrom steps (x.div (power 308)) (k + 308)

/-- A significand times a power of ten, in floating point arithmetic. -/
def scale (significand : Nat) (k : Int) : Option (Binary .double) :=
  scaleFrom (k.natAbs / 308) (Binary.ofRatio false significand 1) k

/-- The floating point number that a numeral denotes. -/
def double? (n : Numeral) : Option (Binary .double) :=
  let (significand, left) := gather 0 n.whole
  let (significand, unused) := gather significand n.fraction
  let places : Int := (n.fraction.length : Int) - unused.length
  (scale significand (left.length - places + n.exponent.getD 0)).map (Binary.withSign n.negative)

/-- The integer that a numeral denotes, if it has neither point nor exponent and fits. -/
def integer? (n : Numeral) : Option Int :=
  let m := digitsValue n.whole
  if !n.fraction.isEmpty || n.exponent.isSome then none
  else if n.negative then
    if 0 < m && Int64.minValue.toInt ≤ -(m : Int) then some (-(m : Int)) else none
  else if m < UInt64.size then some m else none

/-- The number that a numeral denotes; none if it is too great. -/
def value? (n : Numeral) : Option Number :=
  match n.integer? with
  | some m => some (.integer m)
  | none => n.double?.map .double

end Numeral

end FluentSql.Json
