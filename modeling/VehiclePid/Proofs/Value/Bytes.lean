import VehiclePid.Value.Basic

namespace VehiclePid

@[simp] theorem length_littleEndian (width n : Nat) : (littleEndian width n).length = width := by
  induction width generalizing n with
  | zero => rfl
  | succ width ih => rw [littleEndian, List.length_cons, ih]

theorem twoTo_byte_succ (width : Nat) : twoTo (8 * (width + 1)) = 256 * twoTo (8 * width) := by
  rw [Nat.mul_add_one, Nat.add_comm, twoTo_add]
  rfl

theorem ofLittleEndian_littleEndian (width n : Nat) :
    ofLittleEndian (littleEndian width n) = n % twoTo (8 * width) := by
  induction width generalizing n with
  | zero => exact (Nat.mod_one n).symm
  | succ width ih =>
    have hcons : ofLittleEndian (littleEndian (width + 1) n) =
      (UInt8.ofNat n).toNat + 256 * ofLittleEndian (littleEndian width (n / 256)) := rfl
    have hbyte : (UInt8.ofNat n).toNat = n % 256 := UInt8.toNat_ofNat'
    rw [hcons, hbyte, ih, twoTo_byte_succ, Nat.mod_mul]

namespace Value

def pattern : Value → Nat
  | float v => v.bits
  | uint8 v => v.toNat
  | uint16 v => v.toNat
  | uint32 v => v.toNat
  | int8 v => v.toUInt8.toNat
  | int16 v => v.toUInt16.toNat
  | int32 v => v.toUInt32.toNat

def ofPattern : ValueType → Nat → Value
  | .float, n => float (.ofBits n)
  | .uint8, n => uint8 (.ofNat n)
  | .uint16, n => uint16 (.ofNat n)
  | .uint32, n => uint32 (.ofNat n)
  | .int8, n => int8 (.ofNat n)
  | .int16, n => int16 (.ofNat n)
  | .int32, n => int32 (.ofNat n)

theorem bytes_eq (v : Value) : v.bytes = littleEndian v.width v.pattern := by
  cases v <;> rfl

theorem ofBytes?_eq (t : ValueType) (bytes : List UInt8) : ofBytes? t bytes =
    if bytes.length < t.size then none
    else some (ofPattern t (ofLittleEndian (bytes.take t.size))) := by
  cases t <;> rfl

theorem pattern_lt (v : Value) : v.pattern < twoTo (8 * v.width) := by
  cases v with
  | float v => exact v.isPattern.1
  | uint8 v => exact v.toNat_lt
  | uint16 v => exact v.toNat_lt
  | uint32 v => exact v.toNat_lt
  | int8 v => exact v.toUInt8.toNat_lt
  | int16 v => exact v.toUInt16.toNat_lt
  | int32 v => exact v.toUInt32.toNat_lt

theorem ofPattern_pattern (v : Value) : ofPattern v.type v.pattern = v := by
  cases v with
  | float v => exact congrArg float v.ofBits_bits
  | uint8 v => exact congrArg uint8 UInt8.ofNat_toNat
  | uint16 v => exact congrArg uint16 UInt16.ofNat_toNat
  | uint32 v => exact congrArg uint32 UInt32.ofNat_toNat
  | int8 v => exact congrArg (fun u : UInt8 => int8 u.toInt8) UInt8.ofNat_toNat
  | int16 v => exact congrArg (fun u : UInt16 => int16 u.toInt16) UInt16.ofNat_toNat
  | int32 v => exact congrArg (fun u : UInt32 => int32 u.toInt32) UInt32.ofNat_toNat

theorem length_bytes (v : Value) : v.bytes.length = v.width := by
  rw [bytes_eq, length_littleEndian]

theorem ofBytes?_bytes (v : Value) (rest : List UInt8) :
    ofBytes? v.type (v.bytes ++ rest) = some v := by
  have hl : v.bytes.length = v.type.size := v.length_bytes
  have hn : ¬(v.bytes ++ rest).length < v.type.size := by
    rw [List.length_append, hl]
    exact Nat.not_lt.mpr (Nat.le_add_right _ _)
  rw [ofBytes?_eq, if_neg hn, List.take_left' hl, bytes_eq, ofLittleEndian_littleEndian,
    Nat.mod_eq_of_lt v.pattern_lt, ofPattern_pattern]

end Value

theorem ValueType.type_cast (t : ValueType) (x : Binary .double) : (t.cast x).type = t := by
  cases t <;> rfl

end VehiclePid
