import VehiclePid.Binary.Basic
import VehiclePid.Proofs.Text.Digits

namespace VehiclePid.Hex

theorem isDigit_digit : ∀ d < 16, IsDigit (digit d) d := by decide

theorem exists_digit_of_mem_fixed {width n : Nat} {c : Char} (h : c ∈ fixed width n) :
    ∃ d < 16, c = digit d := by
  induction width generalizing n with
  | zero => cases h
  | succ width ih =>
    rw [fixed, List.mem_append, List.mem_singleton] at h
    obtain h | rfl := h
    · exact ih h
    · exact ⟨n % 16, Nat.mod_lt n (by decide), rfl⟩

theorem exists_digit_of_mem_encodeChars {bytes : List UInt8} {c : Char}
    (h : c ∈ encodeChars bytes) : ∃ d < 16, c = digit d := by
  obtain ⟨b, -, hc⟩ := List.mem_flatMap.mp h
  exact exists_digit_of_mem_fixed hc

theorem denotes_fixed {width n : Nat} (h : n < twoTo (4 * width)) : Denotes (fixed width n) n := by
  induction width generalizing n with
  | zero =>
    obtain rfl : n = 0 := Nat.lt_one_iff.mp h
    exact ⟨[], .nil, rfl⟩
  | succ width ih =>
    have hw : twoTo (4 * (width + 1)) = 16 * twoTo (4 * width) := by
      rw [show 4 * (width + 1) = 4 * width + 1 + 1 + 1 + 1 by omega]
      simp only [twoTo_succ]
      omega
    rw [hw] at h
    exact denotes_concat_iff.mpr ⟨n / 16, n % 16, ih (by omega),
      isDigit_digit _ (Nat.mod_lt n (by decide)), (Nat.div_add_mod n 16).symm⟩

theorem lt_twoTo_length (n : Nat) : n < twoTo (4 * length n) := by
  have hn : n < twoTo (n.log2 + 1) := Nat.lt_log2_self
  have hle : twoTo (n.log2 + 1) ≤ twoTo (4 * length n) := by
    apply Nat.pow_le_pow_right (by decide)
    unfold length
    omega
  exact Nat.lt_of_lt_of_le hn hle

theorem isNumber_padded (width n : Nat) : IsNumber (fixed (max width (length n)) n) n := by
  have hw : n < twoTo (4 * max width (length n)) := by
    apply Nat.lt_of_lt_of_le (lt_twoTo_length n)
    exact Nat.pow_le_pow_right (by decide) (Nat.mul_le_mul_left 4 (Nat.le_max_right _ _))
  have hn : fixed (max width (length n)) n ≠ [] := by
    obtain ⟨w, hw⟩ : ∃ w, max width (length n) = w + 1 :=
      ⟨max width (length n) - 1, by unfold length; omega⟩
    rw [hw, fixed]
    simp
  exact ⟨[], _, rfl, .inl rfl, hn, denotes_fixed hw⟩

theorem spells_encodeChars (bytes : List UInt8) : Spells (encodeChars bytes) bytes := by
  induction bytes with
  | nil => exact .nil
  | cons b r ih =>
    have hlt : b.toNat / 16 < 16 := by
      have := b.toNat_lt
      omega
    have hhigh : IsDigit (digit (b.toNat / 16 % 16)) (b.toNat / 16) := by
      rw [Nat.mod_eq_of_lt hlt]
      exact isDigit_digit _ hlt
    exact .cons hhigh (isDigit_digit _ (Nat.mod_lt b.toNat (by decide))) ih

/-- What is relied on of a writer and a reader of bytes. The digits are written in upper case, and an
odd number of bytes of text is noticed before a character that is no digit. -/
structure Transcribes (encode : List UInt8 → List Char)
    (decode : List Char → Except DecodeError (List UInt8)) : Prop where
  spells_encode : ∀ bytes, Spells (encode bytes) bytes
  exists_digit_of_mem_encode : ∀ bytes, ∀ c ∈ encode bytes, ∃ d < 16, c = digit d
  decode_eq_ok_iff : ∀ {cs bytes}, decode cs = .ok bytes ↔ Spells cs bytes
  decode_eq_error_iff : ∀ {cs e}, decode cs = .error e ↔
    ((String.ofList cs).utf8ByteSize % 2 = 1 ∧ e = .oddLength) ∨
      (String.ofList cs).utf8ByteSize % 2 = 0 ∧
        ∃ c n, EndsAt cs c n ∧ e = .badDigit (leading c) n

theorem transcribes : Transcribes encodeChars decodeChars where
  spells_encode := spells_encodeChars
  exists_digit_of_mem_encode _ _ := exists_digit_of_mem_encodeChars
  decode_eq_ok_iff := decodeChars_eq_ok_iff
  decode_eq_error_iff := decodeChars_eq_error_iff

end VehiclePid.Hex
