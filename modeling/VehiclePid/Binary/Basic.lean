namespace VehiclePid

def twoTo (n : Nat) : Nat := Nat.pow 2 n

def tenTo (n : Nat) : Nat := Nat.pow 10 n

@[simp] theorem twoTo_zero : twoTo 0 = 1 := rfl

theorem twoTo_succ (n : Nat) : twoTo (n + 1) = twoTo n * 2 := rfl

theorem twoTo_add (m n : Nat) : twoTo (m + n) = twoTo m * twoTo n := Nat.pow_add 2 m n

theorem twoTo_dvd {m n : Nat} (h : m ≤ n) : twoTo m ∣ twoTo n := Nat.pow_dvd_pow 2 h

theorem twoTo_pos (n : Nat) : 0 < twoTo n := Nat.pow_pos (by decide)

@[simp] theorem tenTo_zero : tenTo 0 = 1 := rfl

theorem tenTo_succ (n : Nat) : tenTo (n + 1) = tenTo n * 10 := rfl

theorem tenTo_pos (n : Nat) : 0 < tenTo n := Nat.pow_pos (by decide)

inductive Format
  | single
  | double
  deriving DecidableEq, Repr

namespace Format

def fractionBits : Format → Nat
  | single => 23
  | double => 52

def exponentBits : Format → Nat
  | single => 8
  | double => 11

def signWeight (f : Format) : Nat := twoTo (f.fractionBits + f.exponentBits)

/-- The pattern of positive infinity; the magnitudes above it are NaNs. -/
def infinity (f : Format) : Nat := (twoTo f.exponentBits - 1) * twoTo f.fractionBits

def quietNaN (f : Format) : Nat := f.infinity + twoTo (f.fractionBits - 1)

def minExponent (f : Format) : Int := 2 - twoTo (f.exponentBits - 1) - f.fractionBits

/-- The patterns in use: those of the numbers and the infinities, and one NaN. -/
def IsPattern (f : Format) (n : Nat) : Prop :=
  n < 2 * f.signWeight ∧ (n % f.signWeight ≤ f.infinity ∨ n = f.quietNaN)

theorem quietNaN_isPattern (f : Format) : f.IsPattern f.quietNaN := by
  cases f <;> exact ⟨by decide, .inr rfl⟩

end Format

structure Binary (f : Format) where
  bits : Nat
  isPattern : f.IsPattern bits
  deriving DecidableEq

namespace Binary

variable {f : Format}

def nan : Binary f := ⟨f.quietNaN, f.quietNaN_isPattern⟩

/-- The number of a pattern; the bits above the format's width are dropped. -/
def ofBits (n : Nat) : Binary f :=
  if h : n % (2 * f.signWeight) % f.signWeight ≤ f.infinity then
    ⟨n % (2 * f.signWeight), Nat.mod_lt _ (by cases f <;> decide), .inl h⟩
  else nan

instance : Inhabited (Binary f) := ⟨ofBits 0⟩

/-- What a pattern stands for. A finite number is its significand times two to its exponent. -/
inductive Datum
  | nan
  | infinite (negative : Bool)
  | finite (negative : Bool) (significand : Nat) (exponent : Int)
  deriving DecidableEq, Repr

def negative (x : Binary f) : Bool := f.signWeight ≤ x.bits

def magnitude (x : Binary f) : Nat := x.bits % f.signWeight

def datum (x : Binary f) : Datum :=
  if f.infinity < x.magnitude then .nan
  else if x.magnitude = f.infinity then .infinite x.negative
  else
    let biased := x.magnitude / twoTo f.fractionBits
    let fraction := x.magnitude % twoTo f.fractionBits
    if biased = 0 then .finite x.negative fraction f.minExponent
    else .finite x.negative (twoTo f.fractionBits + fraction) (f.minExponent + biased - 1)

def isFinite (x : Binary f) : Bool := x.magnitude < f.infinity

@[simp] theorem bits_nan : (nan : Binary f).bits = f.quietNaN := rfl

theorem ofBits_bits (x : Binary f) : ofBits x.bits = x := by
  obtain ⟨n, hn, h⟩ := x
  have hm : n % (2 * f.signWeight) = n := Nat.mod_eq_of_lt hn
  rcases h with h | rfl
  · simp [ofBits, hm, h]
  · have : ¬ f.quietNaN % (2 * f.signWeight) % f.signWeight ≤ f.infinity := by
      cases f <;> decide
    rw [ofBits, dif_neg this]
    rfl

def toFloat (x : Binary .double) : Float := Float.ofBits (UInt64.ofNat x.bits)

def ofFloat (x : Float) : Binary .double := ofBits x.toBits.toNat

instance : Add (Binary .double) := ⟨fun x y => ofFloat (x.toFloat + y.toFloat)⟩

instance : Sub (Binary .double) := ⟨fun x y => ofFloat (x.toFloat - y.toFloat)⟩

instance : Mul (Binary .double) := ⟨fun x y => ofFloat (x.toFloat * y.toFloat)⟩

instance : Div (Binary .double) := ⟨fun x y => ofFloat (x.toFloat / y.toFloat)⟩

end Binary

end VehiclePid
