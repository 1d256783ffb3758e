import VehiclePid.Binary.Basic

namespace VehiclePid

/-- The natural number nearest to a quotient, a tie going to the even one. -/
def divNearest (n d : Nat) : Nat :=
  let q := n / d
  let r := n % d
  if 2 * r < d then q else if d < 2 * r then q + 1 else q + q % 2

def floorLog2 (n d : Nat) : Int :=
  let e : Int := n.log2 - d.log2
  if n * twoTo (-e).toNat < d * twoTo e.toNat then e - 1 else e

/-- The pattern of the magnitude nearest to the quotient `n / d`, infinity beyond the largest. -/
def Format.rank (f : Format) (n d : Nat) : Nat :=
  if n = 0 then 0
  else
    let e := max (floorLog2 n d - f.fractionBits) f.minExponent
    let m := divNearest (n * twoTo (-e).toNat) (d * twoTo e.toNat)
    min ((e - f.minExponent).toNat * twoTo f.fractionBits + m) f.infinity

namespace Binary

variable {f : Format}

def ofQuotient (negative : Bool) (n d : Nat) : Binary f :=
  ofBits ((if negative then f.signWeight else 0) + f.rank n d)

def ofScaled (negative : Bool) (significand : Nat) (exponent : Int) : Binary f :=
  ofQuotient negative (significand * twoTo exponent.toNat) (twoTo (-exponent).toNat)

def ofNat (n : Nat) : Binary f := ofQuotient false n 1

def ofInt (n : Int) : Binary f := ofQuotient (decide (n < 0)) n.natAbs 1

def infinite (negative : Bool) : Binary f :=
  ofBits ((if negative then f.signWeight else 0) + f.infinity)

def convert (x : Binary f) (g : Format) : Binary g :=
  match x.datum with
  | .nan => nan
  | .infinite negative => infinite negative
  | .finite negative significand exponent => ofScaled negative significand exponent

/-- The value without its fraction, clamped to `-limit - 1` and `limit`; NaN counts as zero. -/
def truncate (limit : Nat) (x : Binary f) : Int :=
  match x.datum with
  | .nan => 0
  | .infinite negative => if negative then -limit - 1 else limit
  | .finite negative significand exponent =>
    let whole := significand * twoTo exponent.toNat / twoTo (-exponent).toNat
    if negative then max (-(whole : Int)) (-limit - 1) else min whole limit

end Binary

end VehiclePid
