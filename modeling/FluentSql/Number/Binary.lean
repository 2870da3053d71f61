import FluentSql.Number.Integer

/-!
# Binary floating point

Floating point numbers in the interchange formats of IEEE 754, kept as their bit patterns: two
numbers are the same when their bits are, and every pattern, those of the NaNs included, passes
through unchanged.  Arithmetic is done on the exact values, as ratios of naturals, and rounded once
to the nearest number, ties to the even significand.

## Main definitions

* `Format`, `Format.single`, `Format.double` — the formats of 32 and 64 bits.
* `Binary`, `Binary.decode` — a bit pattern and what it stands for.
* `Binary.ofRatio` — the number nearest to a ratio.
* `Binary.convert`, `Binary.mul`, `Binary.div` — the exact result, rounded.
-/

namespace FluentSql

/-! ### Formats -/

/-- A binary interchange format: a sign bit, an exponent field and a fraction field. -/
structure Format where
  /-- The width of the fraction field. -/
  fractionBits : Nat
  /-- The width of the exponent field. -/
  exponentBits : Nat
  deriving DecidableEq, Repr

namespace Format

/-- The format of 32 bits. -/
def single : Format := ⟨23, 8⟩

/-- The format of 64 bits. -/
def double : Format := ⟨52, 11⟩

/-- The number of bits. -/
def width (F : Format) : Nat := 1 + F.exponentBits + F.fractionBits

/-- The power of two that all numbers of the format are multiples of. -/
def minExponent (F : Format) : Int :=
  2 - (twoTo (F.exponentBits - 1) : Int) - F.fractionBits

/-- The exponent field of infinities and NaNs: all ones. -/
def topField (F : Format) : Nat := twoTo F.exponentBits - 1

example : double.width = 64 ∧ double.minExponent = -1074 := by decide

example : single.width = 32 ∧ single.minExponent = -149 := by decide

end Format

/-- A number of a binary format, kept as its bits. -/
structure Binary (F : Format) where
  /-- The bit pattern: sign, exponent field, fraction field. -/
  bits : BitVec F.width
  deriving DecidableEq, Repr

/-- What a bit pattern stands for. -/
inductive Decoded where
  | nan
  | infinite (negative : Bool)
  /-- The number `significand · 2 ^ exponent`, with a sign that zero has too. -/
  | finite (negative : Bool) (significand : Nat) (exponent : Int)
  deriving DecidableEq, Repr

namespace Binary

variable {F G : Format}

/-- Whether the sign bit is set. -/
def negative (x : Binary F) : Bool := x.bits.msb

/-- The exponent field. -/
def field (x : Binary F) : Nat := x.bits.toNat / twoTo F.fractionBits % twoTo F.exponentBits

/-- The fraction field. -/
def fraction (x : Binary F) : Nat := x.bits.toNat % twoTo F.fractionBits

/-- What the bits stand for.  A zero exponent field has no hidden bit. -/
def decode (x : Binary F) : Decoded :=
  if x.field = F.topField then
    if x.fraction = 0 then .infinite x.negative else .nan
  else if x.field = 0 then .finite x.negative x.fraction F.minExponent
  else .finite x.negative (twoTo F.fractionBits + x.fraction) (F.minExponent + (x.field - 1 : Nat))

/-- Whether the bits stand for a number, be it zero. -/
def isFinite (x : Binary F) : Bool := x.field != F.topField

/-! ### Rounding -/

/-- The natural number nearest to a quotient, an even one if two are equally near. -/
def roundQuotient (num den : Nat) : Nat :=
  let quotient := num / den
  let twice := 2 * (num % den)
  if twice < den then quotient
  else if den < twice then quotient + 1
  else quotient + quotient % 2

/-- The numbers `a · 2 ^ n` and `b` over a common factor, which makes both of them naturals. -/
def scaled (a b : Nat) (n : Int) : Nat × Nat := (a * twoTo n.toNat, b * twoTo (-n).toNat)

/-- The exponent of the greatest power of two that is not above a ratio of positive numbers. -/
def floorLog (num den : Nat) : Int :=
  let n : Int := (num.log2 : Int) - den.log2
  let (a, b) := scaled den num n
  if a ≤ b then n else n - 1

/-- The bits, without the sign, of the number nearest to a positive ratio.  In units of the last
place the numbers from one power of two to the next have consecutive patterns, so a significand
that rounds up to the next power of two needs no care; what is too great becomes infinite. -/
def magnitude (F : Format) (num den : Nat) : Nat :=
  let exponent := max (floorLog num den - F.fractionBits) F.minExponent
  let (a, b) := scaled num den (-exponent)
  min ((exponent - F.minExponent).toNat * twoTo F.fractionBits + roundQuotient a b)
    (F.topField * twoTo F.fractionBits)

/-- A number from its sign and its other bits. -/
def ofMagnitude (negative : Bool) (n : Nat) : Binary F :=
  ⟨BitVec.ofNat _ ((if negative then twoTo (F.width - 1) else 0) + n)⟩

/-- The number nearest to a ratio, ties to the even significand. -/
def ofRatio (negative : Bool) (num den : Nat) : Binary F :=
  if num = 0 then ofMagnitude negative 0 else ofMagnitude negative (magnitude F num den)

/-- The number nearest to an integer. -/
def ofInt (n : Int) : Binary F := ofRatio (n < 0) n.natAbs 1

/-- Some NaN. -/
def nan : Binary F :=
  ofMagnitude false (F.topField * twoTo F.fractionBits + twoTo (F.fractionBits - 1))

/-- An infinity. -/
def infinity (negative : Bool) : Binary F :=
  ofMagnitude negative (F.topField * twoTo F.fractionBits)

/-! ### Operations -/

/-- The number of another format that is nearest. -/
def convert (x : Binary F) : Binary G :=
  match x.decode with
  | .nan => nan
  | .infinite negative => infinity negative
  | .finite negative m q =>
    let (a, b) := scaled m 1 q
    ofRatio negative a b

/-- The product of two finite numbers, rounded. -/
def mul (x y : Binary F) : Binary F :=
  match x.decode, y.decode with
  | .finite s m q, .finite t n r =>
    let (a, b) := scaled (m * n) 1 (q + r)
    ofRatio (s != t) a b
  | _, _ => nan

/-- The quotient of two finite numbers, the second one not zero, rounded. -/
def div (x y : Binary F) : Binary F :=
  match x.decode, y.decode with
  | .finite s m q, .finite t n r =>
    let (a, b) := scaled m n (q - r)
    ofRatio (s != t) a b
  | _, _ => nan

/-- The same number with the sign bit set or cleared. -/
def withSign (negative : Bool) (x : Binary F) : Binary F :=
  ofMagnitude negative (x.bits.toNat % twoTo (F.width - 1))

/-- Whether the number is a zero. -/
def isZero (x : Binary F) : Bool := x.bits.toNat % twoTo (F.width - 1) == 0

example : (ofInt 1 : Binary .double).bits.toNat = 0x3ff0000000000000 := by decide +kernel

example : (ofRatio false 1 10 : Binary .double).bits.toNat = 0x3fb999999999999a := by
  decide +kernel

example : (ofInt 16777217 : Binary .single).bits.toNat = 0x4b800000 := by decide +kernel

example : (ofRatio true 1 (tenTo 400) : Binary .double).bits.toNat = 0x8000000000000000 := by
  decide +kernel

end Binary

end FluentSql
