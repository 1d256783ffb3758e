namespace VehiclePid.Hex

def digit? (c : Char) : Option Nat :=
  let n := c.toNat
  if 48 ≤ n ∧ n ≤ 57 then some (n - 48)
  else if 65 ≤ n ∧ n ≤ 70 then some (n - 55)
  else if 97 ≤ n ∧ n ≤ 102 then some (n - 87)
  else none

def digit (n : Nat) : Char := Char.ofNat (if n < 10 then 48 + n else 55 + n)

def digits? (cs : List Char) : Option Nat :=
  cs.foldl (fun acc c => do return 16 * (← acc) + (← digit? c)) (some 0)

/-- A number from 0 to `limit`: an optional plus sign, then one or more digits. -/
def number? (limit : Nat) (cs : List Char) : Option Nat :=
  let ds := match cs with
    | '+' :: r => r
    | _ => cs
  if ds.isEmpty then none else (digits? ds).filter (· ≤ limit)

/-- The last `width` digits of a number, most significant first. -/
def fixed : (width : Nat) → Nat → List Char
  | 0, _ => []
  | width + 1, n => fixed width (n / 16) ++ [digit (n % 16)]

def length (n : Nat) : Nat := n.log2 / 4 + 1

def padded (width n : Nat) : String := String.ofList (fixed (max width (length n)) n)

def byte (b : UInt8) : String := "0x" ++ padded 2 b.toNat

def encodeByte (b : UInt8) : List Char := fixed 2 b.toNat

def encodeChars (bytes : List UInt8) : List Char := bytes.flatMap encodeByte

def encode (bytes : List UInt8) : String := String.ofList (encodeChars bytes)

inductive DecodeError
  | oddLength
  | badDigit (shown : Char) (position : Nat)
  deriving DecidableEq, Repr

def DecodeError.message : DecodeError → String
  | .oddLength => "Odd number of digits"
  | .badDigit shown position => s!"Invalid character '{shown}' at position {position}"

/-- The values of the digits, `position` being the byte offset of the first. A character that is
no digit is reported as its first byte. -/
def digitValues (position : Nat) : List Char → Except DecodeError (List Nat)
  | [] => .ok []
  | c :: r =>
    match digit? c with
    | some d => (digitValues (position + 1) r).map (d :: ·)
    | none => .error (.badDigit (Char.ofNat ((String.utf8EncodeChar c).headD 0).toNat) position)

def pair : List Nat → List UInt8
  | high :: low :: r => UInt8.ofNat (16 * high + low) :: pair r
  | _ => []

/-- The bytes written by pairs of digits. The length, counted in bytes of UTF-8, is checked before
the digits. -/
def decodeChars (cs : List Char) : Except DecodeError (List UInt8) :=
  if (cs.foldr (fun c n => c.utf8Size + n) 0) % 2 = 1 then .error .oddLength
  else (digitValues 0 cs).map pair

def decode (s : String) : Except DecodeError (List UInt8) := decodeChars s.toList

end VehiclePid.Hex
