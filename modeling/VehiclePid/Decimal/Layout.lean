import VehiclePid.Decimal.Shortest

namespace VehiclePid.Decimal

/-- How numbers are written. The exponent that decides between the two notations is that of the
first digit. -/
structure Layout where
  tie : Tie
  positional : Int → Bool
  wholeEnd : String
  nan : String
  infinity : String
  minusInfinity : String

/-- Every place is written, and a whole number has no point. -/
def Layout.plain : Layout := ⟨.up, fun _ => true, "", "NaN", "inf", "-inf"⟩

/-- Exponents from -5 to 15 are written by place, and a whole number ends in `.0`. What is not
finite is `null`. -/
def Layout.json : Layout := ⟨.even, fun e => -5 ≤ e && e < 16, ".0", "null", "null", "null"⟩

def zeros (n : Nat) : String := String.ofList (List.replicate n '0')

namespace Scaled

def text (x : Scaled) : List Char := Nat.toDigits 10 x.digits

def leading (x : Scaled) : Int := x.exponent + (x.text.length - 1)

def positional (wholeEnd : String) (x : Scaled) : String :=
  let ds := x.text
  if 0 ≤ x.exponent then String.ofList ds ++ zeros x.exponent.toNat ++ wholeEnd
  else if 0 ≤ x.leading then
    let n := x.leading.toNat + 1
    String.ofList (ds.take n) ++ "." ++ String.ofList (ds.drop n)
  else "0." ++ zeros (-x.leading - 1).toNat ++ String.ofList ds

def scientific (x : Scaled) : String :=
  let ds := x.text
  let fraction := String.ofList (ds.drop 1)
  String.ofList (ds.take 1) ++ (if fraction.isEmpty then "" else "." ++ fraction) ++ "e" ++
    (if 0 ≤ x.leading then "+" else "-") ++ toString x.leading.natAbs

end Scaled

def Layout.render (layout : Layout) {f : Format} (x : Binary f) : String :=
  match x.datum with
  | .nan => layout.nan
  | .infinite negative => if negative then layout.minusInfinity else layout.infinity
  | .finite negative significand exponent =>
    let sign := if negative then "-" else ""
    if significand = 0 then sign ++ "0" ++ layout.wholeEnd
    else
      let s := shortest layout.tie f significand exponent
      sign ++ (if layout.positional s.leading then s.positional layout.wholeEnd else s.scientific)

end VehiclePid.Decimal
