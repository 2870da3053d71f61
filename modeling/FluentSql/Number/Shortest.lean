import FluentSql.Number.Binary

/-!
# The shortest decimal that reads back

A floating point number is shown with the fewest decimal digits that read back as the same number.
The reals that round to a number form an interval around it, whose ends belong to it exactly when
the significand is even.  The coarsest grid of multiples of a power of ten that has a point in the
interval gives the fewest digits, and the nearest such point gives the digits; all comparisons are
made exactly, on naturals.

## Main definitions

* `Tie` — which of two equally near decimals is taken.
* `Decimal` — digits and the power of ten that scales them.
* `Decimal.shortest` — the shortest decimal of a positive number.
-/

namespace FluentSql

/-- Which of two equally near decimals is taken. -/
inductive Tie where
  /-- The greater one. -/
  | up
  /-- The one with an even last digit. -/
  | even
  deriving DecidableEq, Repr

/-- The number `digits · 10 ^ exponent`. -/
structure Decimal where
  /-- The digits, as a natural number. -/
  digits : Nat
  /-- The power of ten of the last digit. -/
  exponent : Int
  deriving DecidableEq, Repr

/-- The reals that round to a number of a binary format: those from `low` to `high`, in units of
`2 ^ unit`. -/
structure Interval where
  /-- The lower end. -/
  low : Nat
  /-- The number itself. -/
  centre : Nat
  /-- The upper end. -/
  high : Nat
  /-- The power of two that is the unit. -/
  unit : Int
  /-- Whether the ends belong to the interval. -/
  closed : Bool
  deriving DecidableEq, Repr

namespace Interval

/-- The interval of `significand · 2 ^ exponent`.  Below a power of two the numbers are twice as
dense, so there the lower end is only half as far away. -/
def ofBinary (F : Format) (significand : Nat) (exponent : Int) : Interval :=
  let narrow := significand = twoTo F.fractionBits ∧ F.minExponent < exponent
  { low := 4 * significand - (if narrow then 1 else 2)
    centre := 4 * significand
    high := 4 * significand + 2
    unit := exponent - 2
    closed := significand % 2 == 0 }

/-- Two naturals whose quotient is the unit over `10 ^ k`: `x` units are at least `d · 10 ^ k`
exactly when `x` times the first is at least `d` times the second. -/
def weights (I : Interval) (k : Int) : Nat × Nat :=
  (twoTo I.unit.toNat * tenTo (-k).toNat, twoTo (-I.unit).toNat * tenTo k.toNat)

/-- Whether `d · 10 ^ k` lies in the interval. -/
def holds (I : Interval) (d : Nat) (k : Int) : Bool :=
  let (u, t) := I.weights k
  if I.closed then I.low * u ≤ d * t && d * t ≤ I.high * u
  else I.low * u < d * t && d * t < I.high * u

/-- The multiple of `10 ^ k` in the interval that is nearest to the number, if there is one.  It
is one of the two neighbours of the number on that grid. -/
def gridPoint (I : Interval) (tie : Tie) (k : Int) : Option Nat :=
  let (u, t) := I.weights k
  let below := I.centre * u / t
  let remainder := I.centre * u % t
  match I.holds below k, I.holds (below + 1) k with
  | false, false => none
  | true, false => some below
  | false, true => some (below + 1)
  | true, true =>
    if 2 * remainder < t then some below
    else if t < 2 * remainder then some (below + 1)
    else match tie with
      | .up => some (below + 1)
      | .even => some (below + below % 2)

/-- The first grid with a point in the interval, going down from `10 ^ k`. -/
def firstGridPoint (I : Interval) (tie : Tie) : Nat → Int → Decimal
  | 0, k => ⟨I.centre, k⟩
  | steps + 1, k =>
    match I.gridPoint tie k with
    | some d => ⟨d, k⟩
    | none => I.firstGridPoint tie steps (k - 1)

end Interval

/-- The shortest decimal that reads back as the positive number `significand · 2 ^ exponent`.  The
search begins at a power of ten above the whole interval, from where seventeen digits, enough for
every number of 64 bits, are reached within twenty steps. -/
def Decimal.shortest (F : Format) (tie : Tie) (significand : Nat) (exponent : Int) : Decimal :=
  let top := (((significand.log2 : Int) + exponent + 2) * 30103).fdiv 100000 + 1
  (Interval.ofBinary F significand exponent).firstGridPoint tie 20 top

example : Decimal.shortest .double .even (twoTo 52 + 0x999999999999a) (-56) = ⟨1, -1⟩ := by
  decide +kernel

example : Decimal.shortest .double .even 1 (-1074) = ⟨5, -324⟩ := by decide +kernel

/-- Of two equally near decimals each rule takes its own. -/
example : Decimal.shortest .double .even (twoTo 52) (-77) = ⟨29802322387695312, -24⟩
    ∧ Decimal.shortest .double .up (twoTo 52) (-77) = ⟨29802322387695313, -24⟩ := by
  decide +kernel

end FluentSql
