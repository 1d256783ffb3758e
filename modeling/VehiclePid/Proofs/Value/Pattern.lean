import Mathlib.Data.Nat.Digits.Defs
import VehiclePid.Proofs.Value.Cast

namespace VehiclePid

theorem ofLittleEndian_cons (b : UInt8) (bs : List UInt8) :
    ofLittleEndian (b :: bs) = b.toNat + 256 * ofLittleEndian bs := rfl

theorem ofLittleEndian_lt (bs : List UInt8) : ofLittleEndian bs < twoTo (8 * bs.length) := by
  induction bs with
  | nil => exact Nat.one_pos
  | cons b bs ih =>
    have hb := b.toNat_lt
    rw [ofLittleEndian_cons, List.length_cons, twoTo_byte_succ]
    omega

theorem littleEndian_ofLittleEndian (bs : List UInt8) :
    littleEndian bs.length (ofLittleEndian bs) = bs := by
  induction bs with
  | nil => rfl
  | cons b bs ih =>
    have hb : b.toNat < 256 := b.toNat_lt
    have hbyte : UInt8.ofNat (b.toNat + 256 * ofLittleEndian bs) = b := by
      apply UInt8.toNat_inj.mp
      rw [UInt8.toNat_ofNat']
      omega
    have hrest : (b.toNat + 256 * ofLittleEndian bs) / 256 = ofLittleEndian bs := by omega
    rw [List.length_cons, ofLittleEndian_cons, littleEndian, hbyte, hrest, ih]

theorem ofLittleEndian_eq_ofDigits (bs : List UInt8) :
    ofLittleEndian bs = Nat.ofDigits 256 (bs.map UInt8.toNat) := by
  induction bs with
  | nil => rfl
  | cons b bs ih => rw [ofLittleEndian_cons, ih, List.map_cons, Nat.ofDigits_cons]

namespace Value

variable {v : Value} {t : ValueType} {n : ℕ} {bs : List UInt8}

def IsNaN (n : ℕ) : Prop := 0x7F800000 < n % 0x80000000

instance (n : ℕ) : Decidable (IsNaN n) := inferInstanceAs (Decidable (_ < _))

/-- The bytes that stand for the same value of the type, and are those of a value. -/
def oneNaN (t : ValueType) (bs : List UInt8) : List UInt8 :=
  if t = .float ∧ IsNaN (ofLittleEndian bs) then [0x00, 0x00, 0xC0, 0x7F] else bs

theorem type_ofPattern (t : ValueType) (n : ℕ) : (ofPattern t n).type = t := by
  cases t <;> rfl

theorem pattern_ofPattern (h : n < twoTo (8 * t.size)) :
    (ofPattern t n).pattern = if t = .float ∧ IsNaN n then 0x7FC00000 else n := by
  cases t with
  | float =>
    have hn : n % (2 * Format.single.signWeight) = n := Nat.mod_eq_of_lt h
    change (Binary.ofBits n : Binary .single).bits = _
    rw [Binary.ofBits]
    by_cases hnan : IsNaN n
    · have hle : ¬n % Format.single.signWeight ≤ Format.single.infinity := Nat.not_le.mpr hnan
      rw [dif_neg (by rwa [hn]), if_pos ⟨rfl, hnan⟩]
      rfl
    · have hle : n % Format.single.signWeight ≤ Format.single.infinity := Nat.le_of_not_lt hnan
      rw [dif_pos (by rwa [hn]), if_neg fun hc => hnan hc.2]
      exact hn
  | uint8 | uint16 | uint32 | int8 | int16 | int32 => exact Nat.mod_eq_of_lt h

theorem bytes_ofPattern (hlen : bs.length = t.size) :
    (ofPattern t (ofLittleEndian bs)).bytes = oneNaN t bs := by
  have hlt := ofLittleEndian_lt bs
  rw [hlen] at hlt
  rw [bytes_eq, width, type_ofPattern, pattern_ofPattern hlt, oneNaN]
  split
  · rename_i h
    rw [h.1]
    rfl
  · rw [← hlen, littleEndian_ofLittleEndian]

theorem ofBytes?_eq_none_iff : ofBytes? t bs = none ↔ bs.length < t.size := by
  rw [ofBytes?_eq]
  by_cases h : bs.length < t.size <;> simp [h]

theorem exists_ofBytes? (h : t.size ≤ bs.length) :
    ∃ u, ofBytes? t bs = some u ∧ u.type = t ∧ u.bytes = oneNaN t (bs.take t.size) := by
  refine ⟨_, ?_, type_ofPattern t _, bytes_ofPattern (List.length_take_of_le h)⟩
  rw [ofBytes?_eq, if_neg (Nat.not_lt.mpr h)]

theorem ofLittleEndian_bytes (v : Value) : ofLittleEndian v.bytes = v.pattern := by
  rw [bytes_eq, ofLittleEndian_littleEndian, Nat.mod_eq_of_lt v.pattern_lt]

theorem oneNaN_bytes (v : Value) : oneNaN v.type v.bytes = v.bytes := by
  have hread : ofPattern v.type (ofLittleEndian v.bytes) = v := by
    rw [ofLittleEndian_bytes, ofPattern_pattern]
  rw [← bytes_ofPattern v.length_bytes, hread]

theorem pattern_of_integer? {i : ℤ} (h : v.integer? = some i) :
    (v.pattern : ℤ) = i % twoTo (8 * v.width) := by
  have ht : v.type ≠ .float := by
    cases v with
    | float v => cases h
    | _ => exact nofun
  obtain ⟨j, hj, hp⟩ := integer_emod ht
  cases h.symm.trans hj
  exact hp.symm

/-- A value is read back from its bytes whatever follows them, and every sequence of bytes that is
long enough begins with those of a value, a NaN written as the one in use. They are the digits of
the pattern to the base 256, least significant first, and the pattern of an integer is its two's
complement. -/
theorem bytes_bijective :
    (∀ (v : Value) (rest : List UInt8), ofBytes? v.type (v.bytes ++ rest) = some v) ∧
    (∀ v : Value, v.bytes.length = v.width ∧ oneNaN v.type v.bytes = v.bytes) ∧
    (∀ (t : ValueType) (bs : List UInt8), ofBytes? t bs = none ↔ bs.length < t.size) ∧
    (∀ (t : ValueType) (bs : List UInt8), t.size ≤ bs.length →
      ∃ u, ofBytes? t bs = some u ∧ u.type = t ∧ u.bytes = oneNaN t (bs.take t.size)) ∧
    (∀ v : Value, Nat.ofDigits 256 (v.bytes.map UInt8.toNat) = v.pattern) ∧
    ∀ (v : Value) (i : ℤ), v.integer? = some i → (v.pattern : ℤ) = i % twoTo (8 * v.width) :=
  ⟨ofBytes?_bytes, fun v => ⟨v.length_bytes, v.oneNaN_bytes⟩, fun _ _ => ofBytes?_eq_none_iff,
    fun _ _ => exists_ofBytes?,
    fun v => (ofLittleEndian_eq_ofDigits v.bytes).symm.trans v.ofLittleEndian_bytes,
    fun _ _ => pattern_of_integer?⟩

theorem bytes_bijective_signed :
    ValueType.float.size ≤ [0x01, 0x00, 0xA0, 0xFF, 0x07].length ∧
      (∃ u, ofBytes? .float [0x01, 0x00, 0xA0, 0xFF, 0x07] = some u ∧ u.type = .float ∧
        u.bytes = [0x00, 0x00, 0xC0, 0x7F]) ∧
      (int16 (-2)).integer? = some (-2) ∧
      ((int16 (-2)).pattern : ℤ) = -2 % twoTo (8 * (int16 (-2)).width) :=
  ⟨by decide,
    bytes_bijective.2.2.2.1 .float [0x01, 0x00, 0xA0, 0xFF, 0x07] (by decide), rfl,
    bytes_bijective.2.2.2.2.2 (int16 (-2)) (-2) rfl⟩

end Value

end VehiclePid
