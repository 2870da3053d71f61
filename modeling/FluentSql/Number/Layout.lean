import FluentSql.Number.Integer
import FluentSql.Number.Shortest

/-!
# Writing floating point numbers

How the digits of a number are laid out is the decision of each place that writes numbers, and is
given by one record: which magnitudes are written with all their places, whether a whole number
gets a `.0`, whether a positive exponent has a sign, and what becomes of a tie between two equally
short decimals.

## Main definitions

* `Layout` — the decisions.
* `Layout.write` — the text of a floating point number.
-/

namespace FluentSql

/-- How floating point numbers are written. -/
structure Layout where
  /-- Whether a number whose leading digit stands at this power of ten is written with all its
  places instead of an exponent. -/
  positional : Int → Bool
  /-- Whether a whole number is written with `.0`. -/
  wholeMark : Bool
  /-- Whether a positive exponent has a sign. -/
  exponentPlus : Bool
  /-- Which of two equally near decimals is written. -/
  tie : Tie

namespace Layout

/-- Digits with all their places. -/
def writePlaces (L : Layout) (digits : List Char) (exponent : Int) : List Char :=
  if 0 ≤ exponent then
    digits ++ List.replicate exponent.toNat '0' ++ (if L.wholeMark then ['.', '0'] else [])
  else
    let places := (-exponent).toNat
    if places < digits.length then
      digits.take (digits.length - places) ++ '.' :: digits.drop (digits.length - places)
    else '0' :: '.' :: (List.replicate (places - digits.length) '0' ++ digits)

/-- Digits with a point after the first one, and the power of ten of that one. -/
def writeExponent (L : Layout) (digits : List Char) (lead : Int) : List Char :=
  let sign := if L.exponentPlus && 0 ≤ lead then ['+'] else []
  let mantissa := match digits with
    | d :: e :: rest => d :: '.' :: e :: rest
    | short => short
  mantissa ++ 'e' :: (sign ++ (integerText lead).toList)

/-- A decimal, without sign. -/
def writeDecimal (L : Layout) (d : Decimal) : List Char :=
  let digits := Nat.toDigits 10 d.digits
  let lead := d.exponent + digits.length - 1
  if L.positional lead then L.writePlaces digits d.exponent else L.writeExponent digits lead

/-- The text of a floating point number. -/
def write {F : Format} (L : Layout) (x : Binary F) : String :=
  let signed (negative : Bool) (cs : List Char) :=
    String.ofList (if negative then '-' :: cs else cs)
  match x.decode with
  | .nan => "NaN"
  | .infinite negative => signed negative ['i', 'n', 'f']
  | .finite negative 0 _ => signed negative (L.writePlaces ['0'] 0)
  | .finite negative m q => signed negative (L.writeDecimal (Decimal.shortest F L.tie m q))

end Layout

end FluentSql
