import Mathlib.Algebra.BigOperators.Fin
import VehiclePid.Formula.Evaluate
import VehiclePid.Proofs.Binary.Nearest

namespace VehiclePid

theorem Binary.exists_double_eq_two_pow {e : ℕ} (he : e ≤ 1024) :
    ∃ y : Binary .double, y ≠ nan ∧ y.toRat = 2 ^ e := by
  have hinf : 2047 * twoTo 52 = Format.double.infinity := rfl
  have hexp : (Format.double.fractionBits + (1022 + e : ℕ) + Format.double.minExponent : ℤ) =
      e := by
    rw [show Format.double.minExponent = -1074 from rfl]
    simp only [Format.fractionBits]
    omega
  obtain ⟨y, hy, hr⟩ := exists_toRat_eq_two_zpow (f := .double) (k := 1022 + e)
    (hinf ▸ Nat.mul_le_mul_right _ (by omega))
  exact ⟨y, hy, by rw [hr, hexp, zpow_natCast]⟩

theorem Binary.IsNearest.not_of_add_le {x : Binary .double} {k n : ℚ} (hx : x.IsNearest k)
    (hk0 : 0 ≤ k) (hk : k ≤ 2 ^ 64) (hn : 2 ^ 64 + k ≤ n) : ¬x.IsNearest n := by
  intro h
  obtain ⟨y, hy, hr⟩ := exists_double_eq_two_pow (e := 63) (by omega)
  obtain ⟨z, hz, hs⟩ := exists_double_eq_two_pow (e := 64) (by omega)
  obtain ⟨w, hw, ht⟩ := exists_double_eq_two_pow (e := 65) (by omega)
  -- nothing but `2 ^ 64` is nearest to both
  have hk64 : |z.toRat - k| = 2 ^ 64 - k := by rw [hs, abs_of_nonneg (sub_nonneg.mpr hk)]
  have hn64 : |z.toRat - n| = n - 2 ^ 64 := by
    rw [hs, abs_of_nonpos (by linarith), neg_sub]
  have hle := (abs_le.mp ((hx.le z hz).trans hk64.le)).2
  have hge := (abs_le.mp ((h.le z hz).trans hn64.le)).1
  have hx64 : x.toRat = z.toRat := by linarith
  -- and then the distances to `2 ^ 63` and `2 ^ 65` leave less than `2 ^ 64` between them
  have hbelow := hx.le y hy
  have habove := h.le w hw
  rw [hx64, hk64, hr, le_abs'] at hbelow
  rw [hx64, hn64, ht, le_abs'] at habove
  rcases hbelow with hbelow | hbelow <;> rcases habove with habove | habove <;> linarith

namespace Formula

variable {raw : List UInt8}

def total (raw : List UInt8) : ℕ :=
  ∑ i : Fin raw.length, raw[i].toNat * 256 ^ (raw.length - 1 - i)

theorem total_cons (b : UInt8) (raw : List UInt8) :
    total (b :: raw) = b.toNat * 256 ^ raw.length + total raw := by
  refine (Fin.sum_univ_succ _).trans (congrArg _ (Finset.sum_congr rfl fun i _ => ?_))
  have hpos : raw.length + 1 - 1 - (i + 1) = raw.length - 1 - i := by omega
  exact congrArg (raw[i].toNat * 256 ^ ·) hpos

theorem total_append (high low : List UInt8) :
    total (high ++ low) = total high * 256 ^ low.length + total low := by
  induction high with
  | nil => exact (Nat.zero_add _).symm.trans (congrArg (· + total low) (Nat.zero_mul _).symm)
  | cons b high ih =>
    rw [List.cons_append, total_cons, total_cons, ih, List.length_append, pow_add]
    ring

theorem total_lt (raw : List UInt8) : total raw < 256 ^ raw.length := by
  induction raw with
  | nil => exact Nat.one_pos
  | cons b raw ih =>
    have hb : (b.toNat + 1) * 256 ^ raw.length ≤ 256 * 256 ^ raw.length :=
      Nat.mul_le_mul_right _ b.toNat_lt
    rw [Nat.succ_mul] at hb
    rw [total_cons, List.length_cons, pow_succ']
    omega

theorem total_mod (raw : List UInt8) : total raw % 2 ^ 64 = total (raw.drop (raw.length - 8)) := by
  have hweight : 256 ^ 8 = 2 ^ 64 := by norm_num
  by_cases hlen : raw.length < 8
  · have hlt := (total_lt raw).trans (Nat.pow_lt_pow_right (by norm_num) hlen)
    rw [Nat.sub_eq_zero_of_le hlen.le, List.drop_zero]
    exact Nat.mod_eq_of_lt (hweight ▸ hlt)
  · have hlow : (raw.drop (raw.length - 8)).length = 8 := by
      rw [List.length_drop]
      omega
    have hlt := total_lt (raw.drop (raw.length - 8))
    rw [hlow, hweight] at hlt
    conv_lhs => rw [← List.take_append_drop (raw.length - 8) raw]
    rw [total_append, hlow, hweight, Nat.mul_add_mod', Nat.mod_eq_of_lt hlt]

theorem toNat_shift_byte (n : UInt64) (b : UInt8) :
    (n <<< 8 ||| b.toUInt64).toNat = (n.toNat * 256 + b.toNat) % 2 ^ 64 := by
  have hb : b.toNat < 2 ^ 8 := b.toNat_lt
  have hmod : b.toNat = b.toNat % 2 ^ 64 := (Nat.mod_eq_of_lt (by omega)).symm
  rw [UInt64.toNat_or, UInt64.toNat_shiftLeft, UInt8.toNat_toUInt64, hmod, ← Nat.or_mod_two_pow,
    ← hmod, show (8 : UInt64).toNat % 64 = 8 from rfl, ← Nat.shiftLeft_add_eq_or_of_lt hb,
    Nat.shiftLeft_eq]

theorem toNat_bigEndian (raw : List UInt8) : (bigEndian raw).toNat = total raw % 2 ^ 64 := by
  have fold : ∀ n : UInt64, (raw.foldl (fun (n : UInt64) b => n <<< 8 ||| b.toUInt64) n).toNat =
      (n.toNat * 256 ^ raw.length + total raw) % 2 ^ 64 := by
    induction raw with
    | nil =>
      intro n
      rw [List.foldl_nil, List.length_nil, pow_zero, Nat.mul_one]
      exact (Nat.mod_eq_of_lt n.toNat_lt).symm
    | cons b raw ih =>
      intro n
      rw [List.foldl_cons, ih, toNat_shift_byte, total_cons, List.length_cons, Nat.add_mod,
        Nat.mul_mod, Nat.mod_mod, ← Nat.mul_mod, ← Nat.add_mod, pow_succ]
      ring_nf
  rw [bigEndian, fold, UInt64.toNat_zero, Nat.zero_mul, Nat.zero_add]

theorem evaluate_identity (h : raw ≠ []) :
    identity.evaluate raw = .ok (.ofNat (total raw % 2 ^ 64)) := by
  have hlen : ¬raw.length < identity.needed := Nat.not_lt.mpr (List.length_pos_iff.mpr h)
  rw [evaluate, if_neg hlen, if_pos (show identity.isIdentity = true from rfl), toNat_bigEndian]

/-- The identity rounds what the last eight bytes denote, and so it gives the double nearest to the
number that all bytes denote just if that number is below `2 ^ 64`. -/
theorem evaluate_identity_nearest (h : raw ≠ []) :
    (∀ x, identity.evaluate raw = .ok x ↔
      x.negative = false ∧ x.IsNearest (total raw % 2 ^ 64 : ℕ)) ∧
    identity.evaluate raw = identity.evaluate (raw.drop (raw.length - 8)) ∧
    ((∃ x, identity.evaluate raw = .ok x ∧ x.IsNearest (total raw)) ↔ total raw < 2 ^ 64) := by
  have hmod : total raw % 2 ^ 64 < 2 ^ 64 := Nat.mod_lt _ (by norm_num)
  have hnear := Binary.isNearest_ofNat (f := .double) (total raw % 2 ^ 64)
  refine ⟨fun x => ?_, ?_, ?_, fun hlt => ?_⟩
  · rw [evaluate_identity h, Except.ok.injEq]
    constructor
    · rintro rfl
      exact ⟨Binary.negative_ofNat _, hnear⟩
    · rintro ⟨hneg, hx⟩
      exact hnear.unique hx ((Binary.negative_ofNat _).trans hneg.symm)
  · have hdrop : raw.drop (raw.length - 8) ≠ [] := by
      rw [Ne, List.drop_eq_nil_iff]
      have := List.length_pos_iff.mpr h
      omega
    rw [evaluate_identity h, evaluate_identity hdrop, ← total_mod, Nat.mod_mod]
  · rintro ⟨x, hx, hn⟩
    cases (evaluate_identity h).symm.trans hx
    by_contra hge
    -- what is dropped weighs at least `2 ^ 64`
    have hdiv : 2 ^ 64 + total raw % 2 ^ 64 ≤ total raw := by
      have := Nat.mod_lt (total raw) (show 0 < 2 ^ 64 by norm_num)
      omega
    refine hnear.not_of_add_le (Nat.cast_nonneg _) ?_ ?_ hn
    · exact_mod_cast hmod.le
    · exact_mod_cast hdiv
  · rw [Nat.mod_eq_of_lt hlt] at hnear
    exact ⟨_, by rw [evaluate_identity h, Nat.mod_eq_of_lt hlt], hnear⟩

theorem evaluate_identity_nearest_leading_zero : [0, 0, 0, 0, 0, 0, 0, 0x01, 0x2C] ≠ [] ∧
    (∀ x, identity.evaluate [0, 0, 0, 0, 0, 0, 0, 0x01, 0x2C] = .ok x ↔
      x.negative = false ∧ x.IsNearest (300 : ℕ)) ∧
    identity.evaluate [0, 0, 0, 0, 0, 0, 0, 0x01, 0x2C] =
      identity.evaluate [0, 0, 0, 0, 0, 0, 0x01, 0x2C] ∧
    ((∃ x, identity.evaluate [0, 0, 0, 0, 0, 0, 0, 0x01, 0x2C] = .ok x ∧ x.IsNearest (300 : ℕ)) ↔
      300 < 2 ^ 64) :=
  ⟨by decide, evaluate_identity_nearest (by decide)⟩

/-- A one before eight zeros is lost. -/
theorem evaluate_identity_nine_bytes :
    identity.evaluate [0x01, 0, 0, 0, 0, 0, 0, 0, 0] = .ok (.ofNat 0) ∧
    total [0x01, 0, 0, 0, 0, 0, 0, 0, 0] = 2 ^ 64 ∧
    ¬∃ x, identity.evaluate [0x01, 0, 0, 0, 0, 0, 0, 0, 0] = .ok x ∧
      x.IsNearest (total [0x01, 0, 0, 0, 0, 0, 0, 0, 0]) := by
  have he : identity.evaluate [0x01, 0, 0, 0, 0, 0, 0, 0, 0] = .ok (.ofNat 0) := rfl
  have ht : total [0x01, 0, 0, 0, 0, 0, 0, 0, 0] = 2 ^ 64 := rfl
  refine ⟨he, ht, ?_⟩
  rintro ⟨x, hx, hn⟩
  cases he.symm.trans hx
  rw [ht] at hn
  refine (Binary.isNearest_ofNat 0).not_of_add_le ?_ ?_ ?_ hn <;> norm_num

end Formula

end VehiclePid
