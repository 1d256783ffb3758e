import VehiclePid.Proofs.Binary.Nearest

namespace VehiclePid

namespace Nearest

variable {v : ℕ → ℚ} {p : ℕ → Prop} {m : ℕ} {y : ℚ}

theorem of_between (hv : StrictMono v) (hp : p m) (hlow : ∀ j, m = j + 1 → v j + v m ≤ 2 * y)
    (hhigh : 2 * y ≤ v m + v (m + 1))
    (heven : (∃ j, m = j + 1 ∧ v j + v m = 2 * y) ∨ 2 * y = v m + v (m + 1) → m % 2 = 0) :
    Nearest v p m y := by
  have below : ∀ k < m, |v m - y| ≤ |v k - y| ∧ (|v k - y| = |v m - y| → m % 2 = 0) := by
    intro k hk
    obtain ⟨j, rfl⟩ : ∃ j, m = j + 1 := ⟨m - 1, by omega⟩
    have hkj : v k ≤ v j := hv.monotone (Nat.le_of_lt_succ hk)
    have hjm : v j < v (j + 1) := hv (Nat.lt_succ_self j)
    have hmid := hlow j rfl
    have hle : |v (j + 1) - y| ≤ y - v j := abs_le.mpr ⟨by linarith, by linarith⟩
    rw [abs_of_nonpos (by linarith : v k - y ≤ 0)]
    refine ⟨by linarith, fun heq => heven (.inl ⟨j, rfl, le_antisymm hmid ?_⟩)⟩
    obtain hle' | hle' := le_abs'.mp (heq ▸ (by linarith) : y - v j ≤ |v (j + 1) - y|)
    · linarith
    · linarith
  have above : ∀ k, m < k → |v m - y| ≤ |v k - y| ∧ (|v k - y| = |v m - y| → m % 2 = 0) := by
    intro k hk
    have hmk : v (m + 1) ≤ v k := hv.monotone hk
    have hmm : v m < v (m + 1) := hv (Nat.lt_succ_self m)
    have hle : |v m - y| ≤ v (m + 1) - y := abs_le.mpr ⟨by linarith, by linarith⟩
    rw [abs_of_nonneg (by linarith : 0 ≤ v k - y)]
    refine ⟨by linarith, fun heq => heven (.inr (le_antisymm hhigh ?_))⟩
    obtain hle' | hle' := le_abs'.mp (heq ▸ (by linarith) : v (m + 1) - y ≤ |v m - y|)
    · linarith
    · linarith
  refine ⟨hp, fun k _ => ?_, fun k _ hne heq => ?_⟩
  · obtain hk | rfl | hk := Nat.lt_trichotomy k m
    · exact (below k hk).1
    · exact le_rfl
    · exact (above k hk).1
  · obtain hk | rfl | hk := Nat.lt_trichotomy k m
    · exact (below k hk).2 heq
    · exact absurd rfl hne
    · exact (above k hk).2 heq

end Nearest

namespace Format

variable {f : Format} {j k m : ℕ}

theorem steps_eq_quarters (hm : m ≤ 2 * twoTo f.fractionBits)
    (hk : k = 0 ∨ twoTo f.fractionBits ≤ m) :
    (f.steps (k * twoTo f.fractionBits + m) : ℚ) * 2 ^ f.minExponent =
      4 * m * 2 ^ (f.minExponent + k - 2) := by
  rw [steps_eq hm hk, Nat.cast_mul, cast_twoTo, zpow_sub₀ two_ne_zero, zpow_add₀ two_ne_zero,
    zpow_natCast]
  ring

theorem steps_pred (hj : j + 1 = k * twoTo f.fractionBits + m) (hm : m ≠ 0)
    (hle : m < 2 * twoTo f.fractionBits) (hk : k = 0 ∨ twoTo f.fractionBits ≤ m) :
    (f.steps j : ℚ) * 2 ^ f.minExponent =
      (4 * m - (if m = twoTo f.fractionBits ∧ f.minExponent < f.minExponent + k then 2 else 4)) *
        2 ^ (f.minExponent + k - 2) := by
  split
  · rename_i hstart
    obtain ⟨l, rfl⟩ : ∃ l, k = l + 1 := ⟨k - 1, by omega⟩
    obtain ⟨n, hn⟩ := Nat.exists_eq_succ_of_ne_zero (twoTo_pos f.fractionBits).ne'
    have hj' : j = l * twoTo f.fractionBits + (twoTo f.fractionBits + n) := by
      rw [Nat.succ_mul] at hj
      omega
    have hfiner : (2 : ℚ) ^ (f.minExponent + (l + 1 : ℕ) - 2) =
        2 * 2 ^ (f.minExponent + l - 2) := by
      rw [Nat.cast_succ, ← add_assoc, add_sub_right_comm, zpow_add_one₀ two_ne_zero, mul_comm]
    rw [hj', steps_eq_quarters (by omega) (.inr (Nat.le_add_right _ _)), hstart.1, hn, hfiner]
    push_cast
    ring
  · rename_i hstart
    obtain ⟨n, rfl⟩ := Nat.exists_eq_succ_of_ne_zero hm
    have hj' : j = k * twoTo f.fractionBits + n := by omega
    rw [hj', steps_eq_quarters (by omega) (by omega)]
    push_cast
    ring

end Format

namespace Binary

variable {f : Format} {x : Binary f} {q : ℚ}

theorem exists_grid_of_datum {negative : Bool} {m : ℕ} {e : ℤ}
    (h : x.datum = .finite negative m e) :
    ∃ k : ℕ, e = f.minExponent + k ∧ x.negative = negative ∧
      x.magnitude = k * twoTo f.fractionBits + m ∧ x.magnitude < f.infinity ∧
      m < 2 * twoTo f.fractionBits ∧ (k = 0 ∨ twoTo f.fractionBits ≤ m) := by
  have hp := twoTo_pos f.fractionBits
  have hlt : x.magnitude < f.infinity := of_decide_eq_true (toRat_of_datum h).1
  have hr := Nat.mod_lt x.magnitude hp
  have hdiv := Nat.div_add_mod' x.magnitude (twoTo f.fractionBits)
  rw [datum, if_neg (Nat.not_lt.mpr hlt.le), if_neg hlt.ne] at h
  by_cases hb : x.magnitude / twoTo f.fractionBits = 0
  · have hd := (if_pos hb).symm.trans h
    cases hd
    refine ⟨0, by simp, rfl, ?_, hlt, by omega, .inl rfl⟩
    rw [hb] at hdiv
    exact hdiv.symm
  · have hd := (if_neg hb).symm.trans h
    cases hd
    obtain ⟨k, hk⟩ := Nat.exists_eq_succ_of_ne_zero hb
    rw [hk] at hdiv ⊢
    refine ⟨k, by omega, rfl, ?_, hlt, by omega, .inr (Nat.le_add_right _ _)⟩
    rw [← Nat.add_assoc, ← Nat.succ_mul, hdiv]

/-- A finite number is the nearest one to the reals between the middles. In quarters of the last
place they lie two above the number and two below it, or one where a grid starts. -/
theorem nearest_of_between {negative : Bool} {m : ℕ} {e : ℤ} (h : x.datum = .finite negative m e)
    (hm : m ≠ 0)
    (hlow : (4 * m - (if m = twoTo f.fractionBits ∧ f.minExponent < e then 1 else 2)) *
      (2 : ℚ) ^ (e - 2) ≤ q)
    (hhigh : q ≤ (4 * m + 2) * (2 : ℚ) ^ (e - 2))
    (heven : q = (4 * m - (if m = twoTo f.fractionBits ∧ f.minExponent < e then 1 else 2)) *
      (2 : ℚ) ^ (e - 2) ∨ q = (4 * m + 2) * (2 : ℚ) ^ (e - 2) → m % 2 = 0) :
    Nearest (fun r => f.steps r * 2 ^ f.minExponent) (· ≤ f.infinity) x.magnitude q := by
  obtain ⟨k, rfl, -, hmag, hlt, hle, hk⟩ := exists_grid_of_datum h
  have hparity : x.magnitude % 2 = m % 2 := by
    rw [hmag, Nat.add_mod, Nat.mul_mod, f.twoTo_fractionBits_even, Nat.mul_zero, Nat.zero_mod,
      Nat.zero_add, Nat.mod_mod]
  have hself := Format.steps_eq_quarters hle.le hk
  have hnext := Format.steps_eq_quarters hle (hk.imp_right Nat.le_succ_of_le)
  rw [← hmag] at hself
  rw [Nat.add_succ, ← hmag] at hnext
  push_cast at hnext
  have hprev : ∀ j, x.magnitude = j + 1 → (f.steps j : ℚ) * 2 ^ f.minExponent +
      f.steps x.magnitude * 2 ^ f.minExponent =
      2 * ((4 * m - (if m = twoTo f.fractionBits ∧ f.minExponent < f.minExponent + k then 1
        else 2)) * 2 ^ (f.minExponent + k - 2)) := by
    intro j hj
    rw [hself, Format.steps_pred (hj.symm.trans hmag) hm hle hk]
    split <;> ring
  refine .of_between f.strictMono_value hlt.le (fun j hj => ?_) ?_ ?_
  · rw [hprev j hj]
    linarith
  · rw [hself, hnext]
    linarith
  · rw [hparity]
    rintro (⟨j, hj, heq⟩ | heq)
    · rw [hprev j hj] at heq
      exact heven (.inl (by linarith))
    · rw [hself, hnext] at heq
      exact heven (.inr (by linarith))

end Binary

end VehiclePid
