import Mathlib.Algebra.Order.Field.Power
import Mathlib.Data.Rat.Floor
import VehiclePid.Binary.Round

namespace VehiclePid

theorem cast_twoTo (n : ℕ) : (twoTo n : ℚ) = 2 ^ n := by
  induction n with
  | zero => rfl
  | succ n ih => rw [twoTo_succ, Nat.cast_mul, ih, pow_succ, Nat.cast_ofNat]

theorem two_zpow_eq (e : ℤ) : (2 : ℚ) ^ e = twoTo e.toNat / twoTo (-e).toNat := by
  rw [cast_twoTo, cast_twoTo]
  obtain ⟨n, rfl | rfl⟩ := e.eq_nat_or_neg
  · simp
  · simp

namespace Format

variable {f : Format} {k m n : ℕ}

/-- The number of a magnitude's pattern, in steps of the smallest positive number. Infinity counts
as the power of two above the largest number. -/
def steps (f : Format) (n : ℕ) : ℕ :=
  if n < twoTo f.fractionBits then n
  else (twoTo f.fractionBits + n % twoTo f.fractionBits) * twoTo (n / twoTo f.fractionBits - 1)

theorem exists_grid (f : Format) (n : ℕ) : ∃ k m, n = k * twoTo f.fractionBits + m ∧
    m < 2 * twoTo f.fractionBits ∧ (k = 0 ∨ twoTo f.fractionBits ≤ m) := by
  have hp := twoTo_pos f.fractionBits
  by_cases hn : n < twoTo f.fractionBits
  · exact ⟨0, n, by rw [Nat.zero_mul, Nat.zero_add], by omega, .inl rfl⟩
  · have hq : 0 < n / twoTo f.fractionBits := Nat.div_pos (Nat.le_of_not_lt hn) hp
    have hr := Nat.mod_lt n hp
    refine ⟨n / twoTo f.fractionBits - 1, twoTo f.fractionBits + n % twoTo f.fractionBits, ?_,
      by omega, .inr (Nat.le_add_right _ _)⟩
    rw [← Nat.add_assoc, ← Nat.succ_mul, Nat.succ_eq_add_one, Nat.sub_add_cancel hq,
      Nat.div_add_mod']

theorem steps_eq (hm : m ≤ 2 * twoTo f.fractionBits) (hk : k = 0 ∨ twoTo f.fractionBits ≤ m) :
    f.steps (k * twoTo f.fractionBits + m) = m * twoTo k := by
  have hp := twoTo_pos f.fractionBits
  unfold steps
  generalize twoTo f.fractionBits = p at *
  by_cases hlt : m < p
  · obtain rfl : k = 0 := by omega
    rw [Nat.zero_mul, Nat.zero_add, if_pos hlt, twoTo_zero, Nat.mul_one]
  · have hge : ¬k * p + m < p := fun h => hlt (Nat.lt_of_le_of_lt (Nat.le_add_left _ _) h)
    rw [if_neg hge, Nat.add_comm (k * p), Nat.add_mul_mod_self_right,
      Nat.add_mul_div_right _ _ hp]
    obtain rfl | hlt2 := Nat.eq_or_lt_of_le hm
    · rw [Nat.mul_mod_left, Nat.mul_div_cancel _ hp, Nat.add_zero, Nat.add_comm 2 k,
        show k + 2 - 1 = k + 1 from rfl, twoTo_succ, Nat.mul_comm (twoTo k), ← Nat.mul_assoc,
        Nat.mul_comm p]
    · have hdiv : m / p = 1 := Nat.div_eq_of_lt_le (by omega) (by omega)
      have hmod : p + m % p = m := by
        have h := Nat.div_add_mod m p
        rw [hdiv, Nat.mul_one] at h
        exact h
      rw [hdiv, hmod, Nat.add_comm 1 k, Nat.add_sub_cancel]

theorem steps_strictMono (f : Format) : StrictMono f.steps := by
  apply strictMono_nat_of_lt_succ
  intro n
  obtain ⟨k, m, rfl, hm, hk⟩ := f.exists_grid n
  have hk' : k = 0 ∨ twoTo f.fractionBits ≤ m + 1 := hk.imp_right Nat.le_succ_of_le
  rw [Nat.add_assoc, steps_eq hm.le hk, steps_eq hm hk']
  exact Nat.mul_lt_mul_of_pos_right (Nat.lt_succ_self m) (twoTo_pos k)

theorem twoTo_dvd_steps (h : k = 0 ∨ (k + 1) * twoTo f.fractionBits ≤ n) :
    twoTo k ∣ f.steps n := by
  obtain rfl | h := h
  · exact one_dvd _
  · obtain ⟨l, m, rfl, hm, hl⟩ := f.exists_grid n
    rw [steps_eq hm.le hl]
    refine Nat.dvd_mul_left_of_dvd (twoTo_dvd ?_) m
    by_contra hlt
    have := Nat.mul_le_mul_right (twoTo f.fractionBits) (Nat.lt_of_not_le hlt)
    rw [Nat.succ_mul] at this
    rw [Nat.succ_mul] at h
    omega

end Format

namespace Binary

variable {f : Format} {x : Binary f}

def sign (negative : Bool) : ℚ := if negative then -1 else 1

def toRat (x : Binary f) : ℚ := sign x.negative * (f.steps x.magnitude * 2 ^ f.minExponent)

theorem exists_datum (h : x.isFinite = true) : ∃ m e, x.datum = .finite x.negative m e ∧
    m < 2 * twoTo f.fractionBits ∧ x.toRat = sign x.negative * (m * 2 ^ e) := by
  have hlt : x.magnitude < f.infinity := of_decide_eq_true h
  have hp := twoTo_pos f.fractionBits
  have hr := Nat.mod_lt x.magnitude hp
  rw [datum, if_neg (Nat.not_lt.mpr hlt.le), if_neg hlt.ne]
  by_cases hb : x.magnitude / twoTo f.fractionBits = 0
  · refine ⟨_, _, if_pos hb, by omega, ?_⟩
    have hn := (Nat.div_eq_zero_iff_lt hp).mp hb
    rw [toRat, Format.steps, if_pos hn, Nat.mod_eq_of_lt hn]
  · refine ⟨_, _, if_neg hb, by omega, ?_⟩
    have hn : ¬x.magnitude < twoTo f.fractionBits := fun hn => hb (Nat.div_eq_of_lt hn)
    have he : ∀ q : ℕ, q ≠ 0 → f.minExponent + q - 1 = (q - 1 : ℕ) + f.minExponent := by omega
    rw [toRat, Format.steps, if_neg hn, he _ hb, zpow_add₀ two_ne_zero, zpow_natCast, ← cast_twoTo,
      Nat.cast_mul, mul_assoc]

theorem toRat_of_datum {negative : Bool} {m : ℕ} {e : ℤ} (h : x.datum = .finite negative m e) :
    x.isFinite = true ∧ x.toRat = sign negative * (m * 2 ^ e) := by
  have hf : x.isFinite = true := by
    apply decide_eq_true
    by_contra hn
    unfold datum at h
    split at h
    · cases h
    · rw [if_pos (by omega)] at h
      cases h
  obtain ⟨m', e', hd, -, hr⟩ := exists_datum hf
  cases h.symm.trans hd
  exact ⟨hf, hr⟩

end Binary

end VehiclePid
