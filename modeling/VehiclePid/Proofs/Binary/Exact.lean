import VehiclePid.Proofs.Binary.Nearest

namespace VehiclePid

theorem Format.exists_steps_eq {f : Format} {m : ℕ} (hm : m ≤ 2 * twoTo f.fractionBits)
    (k : ℕ) : ∃ r ≤ k * twoTo f.fractionBits + m, f.steps r = m * twoTo k := by
  induction k generalizing m with
  | zero => exact ⟨0 * twoTo f.fractionBits + m, le_rfl, steps_eq hm (.inl rfl)⟩
  | succ k ih =>
    by_cases hfull : twoTo f.fractionBits ≤ m
    · exact ⟨_, le_rfl, steps_eq hm (.inr hfull)⟩
    · obtain ⟨r, hr, hsteps⟩ := ih (Nat.mul_le_mul_left 2 (Nat.le_of_not_le hfull))
      refine ⟨r, hr.trans ?_, ?_⟩
      · rw [Nat.succ_mul k]
        omega
      · rw [hsteps, twoTo_succ]
        ring

namespace Binary

variable {f : Format} {x : Binary f} {q : ℚ} {n : ℕ}

theorem isNearest_of_toRat_eq (h : x ≠ nan) (hq : x.toRat = q) : x.IsNearest q where
  ne_nan := h
  le y _ := by
    rw [hq, sub_self, abs_zero]
    exact abs_nonneg _
  even y _ hne heq := by
    rw [hq, sub_self, abs_zero, abs_eq_zero, sub_eq_zero] at heq
    exact absurd (heq.trans hq.symm) hne

theorem toRat_ofNat (h : n ≤ 2 * twoTo f.fractionBits) :
    (ofNat n : Binary f).isFinite = true ∧ (ofNat n : Binary f).toRat = n := by
  obtain ⟨k, hk, hlarge⟩ : ∃ k : ℕ, f.minExponent = -k ∧
      (k + 2) * twoTo f.fractionBits < f.infinity := by
    cases f with
    | single => exact ⟨149, rfl, by decide⟩
    | double => exact ⟨1074, rfl, by decide⟩
  obtain ⟨r, hr, hsteps⟩ := Format.exists_steps_eq h k
  have hlt : r < f.infinity := by
    rw [Nat.add_mul] at hlarge
    omega
  obtain ⟨hneg, hmag, -, hnan⟩ := ofBits_fields false hlt.le rfl
  generalize (ofBits ((if false then f.signWeight else 0) + r) : Binary f) = y at *
  have hy : y.toRat = n := by
    rw [toRat, hneg, hmag, hsteps, hk, zpow_neg, zpow_natCast, sign, if_neg Bool.false_ne_true,
      one_mul, Nat.cast_mul, cast_twoTo, mul_inv_cancel_right₀ (pow_ne_zero k two_ne_zero)]
  have heq : ofNat n = y :=
    (isNearest_ofNat n).unique (isNearest_of_toRat_eq hnan hy) ((negative_ofNat n).trans hneg.symm)
  rw [heq]
  exact ⟨decide_eq_true (hmag ▸ hlt), hy⟩

end Binary

end VehiclePid
