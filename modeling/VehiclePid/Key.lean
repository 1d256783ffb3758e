import VehiclePid.Text.Character
import VehiclePid.Text.Hex

namespace VehiclePid

structure Key where
  mode : UInt8
  pid : UInt8
  deriving DecidableEq, Repr

namespace Key

def rank (k : Key) : Nat := 256 * k.mode.toNat + k.pid.toNat

theorem rank_injective {a b : Key} (h : a.rank = b.rank) : a = b := by
  obtain ⟨m, p⟩ := a
  obtain ⟨m', p'⟩ := b
  have hp := p.toNat_lt
  have hp' := p'.toNat_lt
  simp only [rank] at h
  have hm : m = m' := UInt8.toNat_inj.1 (by omega)
  have hq : p = p' := UInt8.toNat_inj.1 (by omega)
  rw [hm, hq]

def render (k : Key) : String := "mode " ++ Hex.byte k.mode ++ ", PID " ++ Hex.byte k.pid

end Key

structure InvalidId where
  text : String
  deriving DecidableEq, Repr

def InvalidId.message (e : InvalidId) : String := "invalid mode/PID identifier: " ++ e.text

/-- Drops every leading copy of `0` and `x`. -/
def dropMarks (x : Char) : List Char → List Char
  | '0' :: c :: r => if c = x then dropMarks x r else '0' :: c :: r
  | cs => cs

/-- A mode or parameter id: white space around it, any number of `0x` and then of `0X`, and a
number of at most one byte. -/
def parseId (s : String) : Except InvalidId UInt8 :=
  let cs := Text.trimChars s.toList
  match Hex.number? 255 (dropMarks 'X' (dropMarks 'x' cs)) with
  | some n => .ok (.ofNat n)
  | none => .error ⟨String.ofList cs⟩

end VehiclePid
