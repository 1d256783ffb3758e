import Mathlib.Data.Int.ModEq
import VehiclePid.Proofs.Binary.Exact
import VehiclePid.Proofs.Value.Bytes

namespace VehiclePid

def towardZero (q : ℚ) : ℤ := if 0 ≤ q then ⌊q⌋ else ⌈q⌉

theorem towardZero_neg {q : ℚ} (h : 0 ≤ q) : towardZero (-q) = -⌊q⌋ := by
  unfold towardZero
  by_cases hq : 0 ≤ -q
  · obtain rfl : q = 0 := le_antisymm (neg_nonneg.mp hq) h
    rw [if_pos hq, neg_zero, Int.floor_zero, neg_zero]
  · rw [if_neg hq, Int.ceil_neg]

theorem floor_mul_two_zpow (m : ℕ) (e : ℤ) :
    ⌊(m * 2 ^ e : ℚ)⌋ = (m * twoTo e.toNat / twoTo (-e).toNat : ℕ) := by
  rw [two_zpow_eq, ← mul_div_assoc, ← Nat.cast_mul, Rat.floor_natCast_div_natCast,
    Int.natCast_ediv]

namespace Binary

variable {f : Format} {x : Binary f}

theorem towardZero_of_datum {negative : Bool} {m : ℕ} {e : ℤ}
    (h : x.datum = .finite negative m e) : towardZero x.toRat =
      (if negative then -1 else 1) * (m * twoTo e.toNat / twoTo (-e).toNat : ℕ) := by
  have hpos : (0 : ℚ) ≤ m * 2 ^ e := by positivity
  rw [(toRat_of_datum h).2, sign, ← floor_mul_two_zpow]
  cases negative with
  | false =>
    rw [if_neg Bool.false_ne_true, if_neg Bool.false_ne_true, one_mul, one_mul, towardZero,
      if_pos hpos]
  | true => rw [if_pos rfl, if_pos rfl, neg_one_mul, neg_one_mul, towardZero_neg hpos]

theorem truncate_eq (h : x.isFinite = true) (limit : ℕ) :
    x.truncate limit = max (-(limit : ℤ) - 1) (min (towardZero x.toRat) limit) := by
  obtain ⟨m, e, hd, -⟩ := exists_datum h
  rw [truncate, hd, towardZero_of_datum hd]
  dsimp only
  generalize m * twoTo e.toNat / twoTo (-e).toNat = w
  split <;> omega

theorem truncate_ofNat {n : ℕ} (h : n ≤ 2 ^ 53) :
    (ofNat n : Binary .double).truncate 0x7FFFFFFFFFFFFFFF = n := by
  obtain ⟨hfinite, hrat⟩ := toRat_ofNat (f := .double) h
  have hwhole : towardZero (n : ℚ) = n := by
    rw [towardZero, if_pos (Nat.cast_nonneg n), Int.floor_natCast]
  rw [truncate_eq hfinite, hrat, hwhole]
  omega

theorem two_dvd_towardZero (h : x.isFinite = true)
    (hge : (2 * twoTo f.fractionBits : ℕ) ≤ |towardZero x.toRat|) : 2 ∣ towardZero x.toRat := by
  obtain ⟨m, e, hd, hm, -⟩ := exists_datum h
  have habs : |towardZero x.toRat| = (m * twoTo e.toNat / twoTo (-e).toNat : ℕ) := by
    rw [towardZero_of_datum hd, abs_mul, Nat.abs_cast]
    split <;> simp
  rw [habs, Nat.cast_le] at hge
  rw [← dvd_abs, habs]
  obtain he | he := le_or_gt e 0
  · rw [Int.toNat_of_nonpos he, twoTo_zero, Nat.mul_one] at hge
    exact absurd hm (hge.trans (Nat.div_le_self _ _)).not_gt
  · obtain ⟨n, rfl⟩ : ∃ n : ℕ, e = (n + 1 : ℕ) := ⟨(e - 1).toNat, by omega⟩
    have hn : (-((n + 1 : ℕ) : ℤ)).toNat = 0 := by omega
    rw [hn, twoTo_zero, Nat.div_one, Int.toNat_natCast, twoTo_succ, ← Nat.mul_assoc]
    exact_mod_cast Nat.dvd_mul_left 2 _

end Binary

namespace Value

variable {v : Value} {t : ValueType} {n : ℤ}

def integer? : Value → Option ℤ
  | float _ => none
  | uint8 v => some v.toNat
  | uint16 v => some v.toNat
  | uint32 v => some v.toNat
  | int8 v => some v.toInt
  | int16 v => some v.toInt
  | int32 v => some v.toInt

/-- The value of type `t` that is congruent to `n` modulo the power of two that `t` is wide. -/
def IsWrapped (v : Value) (t : ValueType) (n : ℤ) : Prop :=
  v.type = t ∧ ∃ i, v.integer? = some i ∧ i ≡ n [ZMOD twoTo (8 * t.size)]

theorem toNat_emod {w : ℕ} (b : BitVec w) : (b.toNat : ℤ) % (2 ^ w : ℕ) = b.toNat :=
  Int.emod_eq_of_lt (Int.natCast_nonneg _) (Int.ofNat_lt.mpr b.isLt)

theorem toInt_emod {w : ℕ} (b : BitVec w) : b.toInt % (2 ^ w : ℕ) = b.toNat := by
  rw [BitVec.toInt_eq_toNat_bmod, Int.bmod_emod, toNat_emod]

theorem integer_emod (h : v.type ≠ .float) :
    ∃ i, v.integer? = some i ∧ i % twoTo (8 * v.type.size) = v.pattern := by
  cases v with
  | float v => exact absurd rfl h
  | uint8 v => exact ⟨_, rfl, toNat_emod v.toBitVec⟩
  | uint16 v => exact ⟨_, rfl, toNat_emod v.toBitVec⟩
  | uint32 v => exact ⟨_, rfl, toNat_emod v.toBitVec⟩
  | int8 v => exact ⟨_, rfl, toInt_emod v.toBitVec⟩
  | int16 v => exact ⟨_, rfl, toInt_emod v.toBitVec⟩
  | int32 v => exact ⟨_, rfl, toInt_emod v.toBitVec⟩

theorem eq_of_pattern {u : Value} (ht : v.type = u.type) (hp : v.pattern = u.pattern) :
    v = u := by
  rw [← ofPattern_pattern v, ht, hp, ofPattern_pattern]

theorem isWrapped_iff (h : t ≠ .float) :
    v.IsWrapped t n ↔ v.type = t ∧ (v.pattern : ℤ) = n % twoTo (8 * t.size) := by
  refine and_congr_right fun ht => ?_
  subst ht
  obtain ⟨i, hi, hp⟩ := integer_emod h
  rw [← hp, hi]
  constructor
  · rintro ⟨j, hj, hn⟩
    cases hj
    exact hn
  · exact fun hn => ⟨i, rfl, hn⟩

theorem integer?_of_isWrapped {n : ℕ} (ht : t ∈ [.uint8, .uint16, .uint32]) (h : v.IsWrapped t n)
    (hn : n < twoTo (8 * t.size)) : v.integer? = some (n : ℤ) := by
  have hfloat : t ≠ .float := by
    rintro rfl
    revert ht
    decide
  obtain ⟨rfl, hp⟩ := (isWrapped_iff hfloat).mp h
  rw [Int.emod_eq_of_lt (Int.natCast_nonneg n) (by exact_mod_cast hn)] at hp
  rw [← hp]
  cases v with
  | uint8 v | uint16 v | uint32 v => rfl
  | _ =>
    exfalso
    revert ht
    simp [type]

end Value

namespace ValueType

open Value

variable {t : ValueType} {x : Binary .double} {v : Value}

theorem pattern_cast (h : t ≠ .float) (x : Binary .double) :
    ((t.cast x).pattern : ℤ) = x.truncate 0x7FFFFFFFFFFFFFFF % twoTo (8 * t.size) := by
  have unsigned : ∀ (w : ℕ) (n : ℤ),
      ((BitVec.ofNat w (n % (2 ^ w : ℕ)).toNat).toNat : ℤ) = n % (2 ^ w : ℕ) := by
    intro w n
    have hpos : (0 : ℤ) < (2 ^ w : ℕ) := by positivity
    have hlt := Int.emod_lt_of_pos n hpos
    have hnonneg := Int.emod_nonneg n hpos.ne'
    rw [BitVec.toNat_ofNat, Nat.mod_eq_of_lt (by omega), Int.toNat_of_nonneg hnonneg]
  have signed : ∀ (w : ℕ) (n : ℤ), ((BitVec.ofInt w n).toNat : ℤ) = n % (2 ^ w : ℕ) := by
    intro w n
    rw [BitVec.toNat_ofInt, Int.toNat_of_nonneg (Int.emod_nonneg n (by positivity))]
  cases t with
  | float => exact absurd rfl h
  | uint8 => exact unsigned 8 _
  | uint16 => exact unsigned 16 _
  | uint32 => exact unsigned 32 _
  | int8 => exact signed 8 _
  | int16 => exact signed 16 _
  | int32 => exact signed 32 _

theorem isWrapped_truncate_iff (h : t ≠ .float) :
    v.IsWrapped t (x.truncate 0x7FFFFFFFFFFFFFFF) ↔ v = t.cast x := by
  rw [isWrapped_iff h, ← pattern_cast h, Nat.cast_inj]
  constructor
  · rintro ⟨ht, hp⟩
    exact eq_of_pattern (ht.trans (t.type_cast x).symm) hp
  · rintro rfl
    exact ⟨t.type_cast x, rfl⟩

theorem wraps_iff_modEq (h : t ≠ .float) (n : ℤ) : (∀ v, v.IsWrapped t n ↔ v = t.cast x) ↔
    x.truncate 0x7FFFFFFFFFFFFFFF ≡ n [ZMOD twoTo (8 * t.size)] := by
  have hcast := (isWrapped_iff h).mp ((isWrapped_truncate_iff h).mpr (rfl : t.cast x = t.cast x))
  constructor
  · intro hn
    exact hcast.2.symm.trans ((isWrapped_iff h).mp ((hn _).mpr rfl)).2
  · intro hn v
    rw [← isWrapped_truncate_iff h, isWrapped_iff h, isWrapped_iff h, hn]

theorem isWrapped_natCast_iff {n : ℕ} (h : t ≠ .float) (hn : n ≤ 2 ^ 53) :
    v.IsWrapped t n ↔ v = t.cast (.ofNat n) := by
  rw [← isWrapped_truncate_iff h, Binary.truncate_ofNat hn]

/-- Clamping to 64 bits keeps the residue of the numbers in between and of the multiples below them.
The upper bound is odd, and so congruent to no even number above it. -/
theorem clamp_modEq_iff {w : ℕ} {n : ℤ} (hpos : 0 < w) (hw : w ≤ 63)
    (heven : 2 ^ 63 ≤ n → 2 ∣ n) : max (-2 ^ 63) (min n (2 ^ 63 - 1)) ≡ n [ZMOD twoTo w] ↔
      n < 2 ^ 63 ∧ (-2 ^ 63 ≤ n ∨ (twoTo w : ℤ) ∣ n) := by
  have hlow : (2 : ℤ) ∣ twoTo w := Int.natCast_dvd_natCast.mpr (twoTo_dvd hpos)
  have hhigh : (twoTo w : ℤ) ∣ 2 ^ 63 := Int.natCast_dvd_natCast.mpr (twoTo_dvd hw)
  obtain hge | hlt := le_or_gt (2 ^ 63) n
  · rw [min_eq_right (by omega), max_eq_right (by norm_num)]
    constructor
    · intro hn
      have := hlow.trans hn.dvd
      have := heven hge
      omega
    · exact fun hn => absurd hn.1 hge.not_gt
  · obtain hge | hlt' := le_or_gt (-2 ^ 63) n
    · rw [min_eq_left (by omega), max_eq_right hge]
      exact ⟨fun _ => ⟨hlt, .inl hge⟩, fun _ => Int.ModEq.rfl⟩
    · rw [min_eq_left (by omega), max_eq_left hlt'.le, Int.modEq_iff_dvd, sub_neg_eq_add,
        Int.dvd_add_left hhigh]
      exact ⟨fun hn => ⟨hlt, .inr hn⟩, fun hn => hn.2.resolve_left hlt'.not_ge⟩

/-- A cast drops the fraction and wraps what is left of a number that 64 bits hold. Any other is
clamped first, which shows unless it is negative and wraps to zero. -/
theorem cast_wraps_iff (h : t ≠ .float) :
    (t.cast .nan).integer? = some 0 ∧
    ∀ x : Binary .double, x.isFinite = true →
      (∀ v, v.IsWrapped t (max (-2 ^ 63) (min (towardZero x.toRat) (2 ^ 63 - 1))) ↔ v = t.cast x) ∧
      ((∀ v, v.IsWrapped t (towardZero x.toRat) ↔ v = t.cast x) ↔
        towardZero x.toRat < 2 ^ 63 ∧
          (-2 ^ 63 ≤ towardZero x.toRat ∨ (twoTo (8 * t.size) : ℤ) ∣ towardZero x.toRat)) := by
  constructor
  · cases t with
    | float => exact absurd rfl h
    | _ => rfl
  intro x hx
  have hclamp : x.truncate 0x7FFFFFFFFFFFFFFF =
      max (-2 ^ 63) (min (towardZero x.toRat) (2 ^ 63 - 1)) := by
    rw [Binary.truncate_eq hx]
    norm_num
  have heven : 2 ^ 63 ≤ towardZero x.toRat → 2 ∣ towardZero x.toRat := by
    intro hge
    refine Binary.two_dvd_towardZero hx (le_trans ?_ (hge.trans (le_abs_self _)))
    decide
  have hsize : 0 < t.size ∧ t.size ≤ 4 := by cases t <;> decide
  refine ⟨fun v => by rw [← hclamp, isWrapped_truncate_iff h], (wraps_iff_modEq h _).trans ?_⟩
  rw [hclamp]
  exact clamp_modEq_iff (by omega) (by omega) heven

theorem cast_wraps_iff_uint8 : uint8 ≠ .float ∧
    (Binary.ofBits 0x4072C80000000000 : Binary .double).isFinite = true ∧
    towardZero (Binary.ofBits 0x4072C80000000000 : Binary .double).toRat = 300 ∧
    ∀ v, IsWrapped v uint8 300 ↔ v = .uint8 44 := by
  have hd : (Binary.ofBits 0x4072C80000000000 : Binary .double).datum =
      .finite false 5286451906347008 (-44) := by decide
  have hx : towardZero (Binary.ofBits 0x4072C80000000000 : Binary .double).toRat = 300 :=
    Binary.towardZero_of_datum hd
  have h := ((cast_wraps_iff (t := uint8) (by decide)).2 (.ofBits 0x4072C80000000000) rfl).2
  rw [hx] at h
  exact ⟨by decide, rfl, hx, h.mpr (by norm_num)⟩

/-- The number `2 ^ 63` wraps to zero, but is clamped to one less. -/
theorem cast_two_pow_63 :
    (Binary.ofBits 0x43E0000000000000 : Binary .double).isFinite = true ∧
    towardZero (Binary.ofBits 0x43E0000000000000 : Binary .double).toRat = 2 ^ 63 ∧
    cast uint8 (Binary.ofBits 0x43E0000000000000) = .uint8 255 ∧
    IsWrapped (.uint8 0) uint8 (2 ^ 63) ∧ ¬IsWrapped (.uint8 255) uint8 (2 ^ 63) := by
  have hd : (Binary.ofBits 0x43E0000000000000 : Binary .double).datum =
      .finite false 4503599627370496 11 := by decide
  refine ⟨rfl, Binary.towardZero_of_datum hd, rfl, ⟨rfl, 0, rfl, by decide⟩, ?_⟩
  rintro ⟨-, i, hi, hn⟩
  cases hi
  revert hn
  decide

end ValueType

end VehiclePid
