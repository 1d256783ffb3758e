import VehiclePid.Binary.Round

namespace VehiclePid.Decimal

structure Scaled where
  digits : Nat
  exponent : Int
  deriving DecidableEq, Repr

/-- Which of two neighbours a number in the middle between them goes to. -/
inductive Tie
  | up
  | even
  deriving DecidableEq, Repr

/-- The reals that round to one number, with the number itself: all three times `denominator`. -/
structure Interval where
  lower : Nat
  value : Nat
  upper : Nat
  denominator : Nat
  closed : Bool
  deriving DecidableEq, Repr

/-- The reals that round to `significand * 2 ^ exponent`. Below a power of two the numbers lie
twice as dense. -/
def Interval.of (f : Format) (significand : Nat) (exponent : Int) : Interval :=
  let scale := twoTo (exponent - 2).toNat
  let below := if significand = twoTo f.fractionBits ∧ f.minExponent < exponent then 1 else 2
  { lower := (4 * significand - below) * scale
    value := 4 * significand * scale
    upper := (4 * significand + 2) * scale
    denominator := twoTo (2 - exponent).toNat
    closed := significand % 2 = 0 }

namespace Interval

def contains (i : Interval) (x : Scaled) : Bool :=
  let n := x.digits * tenTo x.exponent.toNat * i.denominator
  let d := tenTo (-x.exponent).toNat
  if i.closed then i.lower * d ≤ n && n ≤ i.upper * d else i.lower * d < n && n < i.upper * d

def floorOn (i : Interval) (exponent : Int) : Scaled :=
  ⟨i.value * tenTo (-exponent).toNat / (i.denominator * tenTo exponent.toNat), exponent⟩

/-- Whether the number belongs to `x` rather than to the next point of the grid. -/
def roundsDown (tie : Tie) (i : Interval) (x : Scaled) : Bool :=
  let number := 2 * (i.value * tenTo (-x.exponent).toNat)
  let middle := (2 * x.digits + 1) * tenTo x.exponent.toNat * i.denominator
  number < middle || (number = middle && tie = .even && x.digits % 2 = 0)

/-- The neighbour on a grid that reads back, the nearer of two. -/
def pick? (tie : Tie) (i : Interval) (exponent : Int) : Option Scaled :=
  let low := i.floorOn exponent
  let high : Scaled := ⟨low.digits + 1, exponent⟩
  match i.contains low, i.contains high with
  | true, true => some (if i.roundsDown tie low then low else high)
  | true, false => some low
  | false, true => some high
  | false, false => none

/-- The first hit on `grids` grids, from the given one to finer ones. If a point of a grid lies in the
interval, so does one of the two neighbours of the number. -/
def search (tie : Tie) (i : Interval) : (grids : Nat) → Int → Scaled
  | 0, exponent => i.floorOn exponent
  | grids + 1, exponent => (i.pick? tie exponent).getD (i.search tie grids (exponent - 1))

end Interval

/-- A power of ten above `significand * 2 ^ exponent`, by at most two places. -/
def ceilLog10 (significand : Nat) (exponent : Int) : Int :=
  (exponent + significand.log2 + 1) * 30103 / 100000 + 1

/-- The shortest decimal that reads back as a positive number. Seventeen digits always do. -/
def shortest (tie : Tie) (f : Format) (significand : Nat) (exponent : Int) : Scaled :=
  (Interval.of f significand exponent).search tie 22 (ceilLog10 significand exponent)

end VehiclePid.Decimal
