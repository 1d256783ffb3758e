import VehiclePid.Binary.Basic

namespace VehiclePid.Yaml

def isNull (s : String) : Bool := ["null", "Null", "NULL", "~"].contains s

def isTruth (s : String) : Bool := ["true", "True", "TRUE", "false", "False", "FALSE"].contains s

def digitIn? (radix : Nat) (c : Char) : Option Nat :=
  let n := c.toNat
  let d := if 48 ≤ n ∧ n ≤ 57 then n - 48
    else if 65 ≤ n ∧ n ≤ 90 then n - 55
    else if 97 ≤ n ∧ n ≤ 122 then n - 87
    else radix
  if d < radix then some d else none

def natural? (radix : Nat) (cs : List Char) : Option Nat :=
  if cs.isEmpty then none
  else cs.foldlM (fun n c => (digitIn? radix c).map (radix * n + ·)) 0

def unsigned (cs : List Char) : List Char :=
  match cs with
  | '+' :: r | '-' :: r => r
  | _ => cs

/-- Digits that begin with a needless zero. They are no number. -/
def isPadded (cs : List Char) : Bool :=
  match unsigned cs with
  | '0' :: c :: r => (c :: r).all Char.isDigit
  | _ => false

def magnitude? (cs : List Char) : Option Nat :=
  match cs with
  | '0' :: 'x' :: r => natural? 16 r
  | '0' :: 'o' :: r => natural? 8 r
  | '0' :: 'b' :: r => natural? 2 r
  | _ => if isPadded cs then none else natural? 10 cs

def nonNegative? (limit : Nat) (cs : List Char) : Option Nat :=
  let cs := match cs with
    | '+' :: r => r
    | _ => cs
  (magnitude? cs).filter (· ≤ limit)

def isInteger (cs : List Char) : Bool :=
  match cs with
  | '-' :: r => (magnitude? r).any (· ≤ twoTo 127)
  | _ => (nonNegative? (twoTo 128 - 1) cs).isSome

def exponent? (cs : List Char) : Option Int :=
  match cs with
  | [] => some 0
  | c :: r =>
    if c == 'e' || c == 'E' then
      (natural? 10 (unsigned r)).map fun n => if r.head? == some '-' then -(n : Int) else n
    else none

def isFiniteDecimal (digits : Nat) (exponent : Int) : Bool :=
  let places := exponent + (Nat.toDigits 10 digits).length
  if digits = 0 || places < 300 then true
  else if 310 < places then false
  else digits * tenTo exponent.toNat < (twoTo 1024 - twoTo 970) * tenTo (-exponent).toNat

def isDecimal (cs : List Char) : Bool :=
  let cs := unsigned cs
  let whole := cs.takeWhile Char.isDigit
  let rest := cs.dropWhile Char.isDigit
  let pointed := rest.head? == some '.'
  let fraction := if pointed then (rest.drop 1).takeWhile Char.isDigit else []
  let tail := if pointed then (rest.drop 1).dropWhile Char.isDigit else rest
  match natural? 10 (whole ++ fraction), exponent? tail with
  | some n, some e => isFiniteDecimal n (e - fraction.length)
  | _, _ => false

def isReal (s : String) : Bool :=
  let cs := s.toList
  [".inf", ".Inf", ".INF", "+.inf", "+.Inf", "+.INF", "-.inf", "-.Inf", "-.INF", ".nan", ".NaN",
    ".NAN"].contains s || (!isPadded cs && isDecimal cs)

/-- Whether plain text would not be read back as text. -/
def isAmbiguous (s : String) : Bool :=
  s.isEmpty || isNull s || isTruth s || isInteger s.toList || isReal s || isPadded s.toList

end VehiclePid.Yaml
