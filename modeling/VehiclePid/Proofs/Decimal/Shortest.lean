import Mathlib.Algebra.Order.Floor.Semifield
import VehiclePid.Decimal.Shortest
import VehiclePid.Proofs.Binary.Between

namespace VehiclePid

theorem cast_tenTo (n : ℕ) : (tenTo n : ℚ) = 10 ^ n := by
  induction n with
  | zero => rfl
  | succ n ih => rw [tenTo_succ, Nat.cast_mul, ih, pow_succ, Nat.cast_ofNat]

theorem ten_zpow_eq (e : ℤ) : (10 : ℚ) ^ e = tenTo e.toNat / tenTo (-e).toNat := by
  rw [cast_tenTo, cast_tenTo]
  obtain ⟨n, rfl | rfl⟩ := e.eq_nat_or_neg
  · simp
  · simp

theorem ten_zpow_lt_two_zpow {k a : ℤ} (hpos : 0 ≤ a → 10 * k < 3 * a)
    (hneg : a < 0 → 93 * k < 28 * a) : (10 : ℚ) ^ k < 2 ^ a := by
  have compare : ∀ p q : ℕ, q ≠ 0 → q * k < p * a → ((10 : ℚ) ^ p) ^ a ≤ ((2 : ℚ) ^ q) ^ a →
      (10 : ℚ) ^ k < 2 ^ a := by
    intro p q hq hlt hle
    refine lt_of_pow_lt_pow_left₀ q (by positivity) ?_
    calc ((10 : ℚ) ^ k) ^ q = 10 ^ (q * k) := by rw [← zpow_natCast, ← zpow_mul, mul_comm]
      _ < 10 ^ (p * a) := zpow_lt_zpow_right₀ (by norm_num) hlt
      _ = ((10 : ℚ) ^ p) ^ a := by rw [zpow_mul, zpow_natCast]
      _ ≤ ((2 : ℚ) ^ q) ^ a := hle
      _ = ((2 : ℚ) ^ a) ^ q := by rw [← zpow_natCast, ← zpow_natCast, zpow_comm]
  obtain ha | ha := le_or_gt 0 a
  · exact compare 3 10 (by decide) (hpos ha) (zpow_le_zpow_left₀ ha (by positivity) (by norm_num))
  · refine compare 28 93 (by decide) (hneg ha) ?_
    obtain ⟨n, rfl⟩ : ∃ n : ℕ, a = -n := ⟨(-a).toNat, by omega⟩
    rw [zpow_neg, zpow_neg, zpow_natCast, zpow_natCast]
    exact inv_anti₀ (by positivity) (pow_le_pow_left₀ (by positivity) (by norm_num) n)

namespace Decimal

def Scaled.toRat (x : Scaled) : ℚ := x.digits * 10 ^ x.exponent

theorem Scaled.toRat_eq (x : Scaled) : x.toRat =
    (x.digits * tenTo x.exponent.toNat : ℕ) / (tenTo (-x.exponent).toNat : ℕ) := by
  rw [toRat, ten_zpow_eq, Nat.cast_mul, mul_div_assoc]

namespace Interval

variable {i : Interval} {x : Scaled} {q : ℚ} {tie : Tie} {k e : ℤ}

def Holds (i : Interval) (q : ℚ) : Prop :=
  if i.closed then i.lower ≤ q * i.denominator ∧ q * i.denominator ≤ i.upper
  else i.lower < q * i.denominator ∧ q * i.denominator < i.upper

theorem contains_iff : i.contains x = true ↔ i.Holds x.toRat := by
  have hd : (0 : ℚ) < (tenTo (-x.exponent).toNat : ℕ) := Nat.cast_pos.mpr (tenTo_pos _)
  have hq : x.toRat * i.denominator * (tenTo (-x.exponent).toNat : ℕ) =
      (x.digits * tenTo x.exponent.toNat * i.denominator : ℕ) := by
    rw [x.toRat_eq, mul_right_comm, div_mul_cancel₀ _ hd.ne', ← Nat.cast_mul]
  have above : ∀ a : ℕ, a * tenTo (-x.exponent).toNat ≤
      x.digits * tenTo x.exponent.toNat * i.denominator ↔ (a : ℚ) ≤ x.toRat * i.denominator := by
    intro a
    rw [← Nat.cast_le (α := ℚ), ← hq, Nat.cast_mul, mul_le_mul_iff_of_pos_right hd]
  have below : ∀ a : ℕ, x.digits * tenTo x.exponent.toNat * i.denominator ≤
      a * tenTo (-x.exponent).toNat ↔ x.toRat * i.denominator ≤ a := by
    intro a
    rw [← Nat.cast_le (α := ℚ), ← hq, Nat.cast_mul, mul_le_mul_iff_of_pos_right hd]
  rw [contains, Holds]
  split
  · rw [Bool.and_eq_true, decide_eq_true_iff, decide_eq_true_iff, above, below]
  · rw [Bool.and_eq_true, decide_eq_true_iff, decide_eq_true_iff, ← not_le, ← not_le, above, below,
      not_le, not_le]

theorem Holds.bounds (h : i.Holds q) : (i.lower : ℚ) ≤ q * i.denominator ∧
    q * i.denominator ≤ i.upper := by
  unfold Holds at h
  split at h
  · exact h
  · exact ⟨h.1.le, h.2.le⟩

theorem Holds.closed (h : i.Holds q) (hend : q * i.denominator = i.lower ∨
    q * i.denominator = i.upper) : i.closed = true := by
  unfold Holds at h
  split at h
  · assumption
  · obtain hend | hend := hend
    · exact absurd hend h.1.ne'
    · exact absurd hend h.2.ne

theorem holds_of_lt (hlow : i.lower < q * i.denominator) (hhigh : q * i.denominator < i.upper) :
    i.Holds q := by
  unfold Holds
  split
  · exact ⟨hlow.le, hhigh.le⟩
  · exact ⟨hlow, hhigh⟩

theorem contains_of_pick? (h : i.pick? tie k = some x) : i.contains x = true := by
  unfold pick? at h
  dsimp only at h
  split at h
  · rename_i hlow hhigh
    cases h
    split
    · exact hlow
    · exact hhigh
  · cases h
    assumption
  · cases h
    assumption
  · cases h

theorem floorOn_bounds (hd : 0 < i.denominator) (k : ℤ) :
    (i.floorOn k).digits * 10 ^ k * i.denominator ≤ (i.value : ℚ) ∧
      (i.value : ℚ) < ((i.floorOn k).digits + 1) * 10 ^ k * i.denominator := by
  have hd : (0 : ℚ) < i.denominator := Nat.cast_pos.mpr hd
  have hten : (0 : ℚ) < 10 ^ k * i.denominator := by positivity
  have hquot : ((i.value * tenTo (-k).toNat : ℕ) : ℚ) / (i.denominator * tenTo k.toNat : ℕ) =
      i.value / (10 ^ k * i.denominator) := by
    rw [ten_zpow_eq, Nat.cast_mul, Nat.cast_mul, div_mul_eq_mul_div, div_div_eq_mul_div,
      mul_comm (i.denominator : ℚ)]
  have hdigits : (i.floorOn k).digits = ⌊(i.value : ℚ) / (10 ^ k * i.denominator)⌋₊ := by
    rw [← hquot, Nat.floor_div_eq_div]
    rfl
  rw [hdigits, mul_assoc, mul_assoc, ← le_div_iff₀ hten, ← div_lt_iff₀ hten]
  exact ⟨Nat.floor_le (by positivity), Nat.lt_floor_add_one _⟩

theorem exists_pick? (hd : 0 < i.denominator) (hlow : i.lower < i.value)
    (hgrid : i.value + 10 ^ k * i.denominator < (i.upper : ℚ)) : ∃ x, i.pick? tie k = some x := by
  have hhigh : i.contains ⟨(i.floorOn k).digits + 1, k⟩ = true := by
    obtain ⟨hle, hlt⟩ := i.floorOn_bounds hd k
    rw [contains_iff, Scaled.toRat, Nat.cast_add_one]
    refine holds_of_lt ((Nat.cast_lt.mpr hlow).trans hlt) ?_
    rw [add_mul, add_mul, one_mul]
    linarith
  unfold pick?
  dsimp only
  rw [hhigh]
  split
  · exact ⟨_, rfl⟩
  · exact ⟨_, rfl⟩
  · exact ⟨_, rfl⟩
  · rename_i hno
    cases hno

theorem contains_search {grids j : ℕ} (hj : j < grids) (h : ∃ x, i.pick? tie (e - j) = some x) :
    i.contains (i.search tie grids e) = true := by
  induction grids generalizing e j with
  | zero => exact absurd hj (Nat.not_lt_zero j)
  | succ grids ih =>
    rw [search]
    cases hp : i.pick? tie e with
    | some x => exact contains_of_pick? hp
    | none =>
      obtain ⟨j, rfl⟩ : ∃ l, j = l + 1 := by
        refine Nat.exists_eq_succ_of_ne_zero fun h0 => ?_
        obtain ⟨x, hx⟩ := h
        rw [h0, Nat.cast_zero, sub_zero, hp] at hx
        cases hx
      refine ih (Nat.lt_of_succ_lt_succ hj) ?_
      rwa [sub_sub, add_comm 1, ← Nat.cast_add_one]

variable {f : Format} {x : Binary f} {negative : Bool} {m : ℕ}

theorem cast_of (f : Format) (e : ℤ) (hm : m ≠ 0) :
    ((of f m e).lower : ℚ) = (4 * m - (if m = twoTo f.fractionBits ∧ f.minExponent < e then 1
        else 2)) * 2 ^ (e - 2) * (of f m e).denominator ∧
      ((of f m e).value : ℚ) = 4 * m * 2 ^ (e - 2) * (of f m e).denominator ∧
      ((of f m e).upper : ℚ) = (4 * m + 2) * 2 ^ (e - 2) * (of f m e).denominator := by
  have hscale : (2 : ℚ) ^ (e - 2) * twoTo (2 - e).toNat = twoTo (e - 2).toNat := by
    rw [two_zpow_eq, neg_sub, div_mul_cancel₀ _ (Nat.cast_ne_zero.mpr (twoTo_pos _).ne')]
  simp only [of, mul_assoc, hscale]
  refine ⟨?_, by push_cast; ring, by push_cast; ring⟩
  split
  · rw [Nat.cast_mul, Nat.cast_sub (by omega)]
    push_cast
    ring
  · rw [Nat.cast_mul, Nat.cast_sub (by omega)]
    push_cast
    ring

theorem denominator_pos (f : Format) (m : ℕ) (e : ℤ) : 0 < (of f m e).denominator := twoTo_pos _

theorem nearest_of_holds (hx : x.datum = .finite negative m e) (hm : m ≠ 0)
    (h : (of f m e).Holds q) :
    Nearest (fun r => f.steps r * 2 ^ f.minExponent) (· ≤ f.infinity) x.magnitude q := by
  obtain ⟨hlower, -, hupper⟩ := cast_of f e hm
  have hd : (0 : ℚ) < (of f m e).denominator := Nat.cast_pos.mpr (denominator_pos f m e)
  obtain ⟨hlow, hhigh⟩ := h.bounds
  rw [hlower] at hlow
  rw [hupper] at hhigh
  refine Binary.nearest_of_between hx hm (le_of_mul_le_mul_right hlow hd)
    (le_of_mul_le_mul_right hhigh hd) fun hend => ?_
  have hclosed : (of f m e).closed = true := by
    apply h.closed
    rw [hlower, hupper]
    exact hend.imp (congrArg (· * _)) (congrArg (· * _))
  exact of_decide_eq_true hclosed

theorem bounds_of_datum (hx : x.datum = .finite negative m e) :
    m < 2 ^ 53 ∧ -1074 ≤ e ∧ e < 973 := by
  obtain ⟨k, rfl, -, hmag, hlt, hm, -⟩ := Binary.exists_grid_of_datum hx
  rw [hmag] at hlt
  cases f with
  | single =>
    change k * 2 ^ 23 + m < 255 * 2 ^ 23 at hlt
    change m < 2 * 2 ^ 23 at hm
    change m < 2 ^ 53 ∧ -1074 ≤ (-149 : ℤ) + k ∧ (-149 : ℤ) + k < 973
    omega
  | double =>
    change k * 2 ^ 52 + m < 2047 * 2 ^ 52 at hlt
    change m < 2 * 2 ^ 52 at hm
    change m < 2 ^ 53 ∧ -1074 ≤ (-1074 : ℤ) + k ∧ (-1074 : ℤ) + k < 973
    omega

theorem holds_shortest (hx : x.datum = .finite negative m e) (hm : m ≠ 0) (tie : Tie) :
    (of f m e).Holds (shortest tie f m e).toRat := by
  obtain ⟨hlower, hvalue, hupper⟩ := cast_of f e hm
  obtain ⟨hm53, hlow, hhigh⟩ := bounds_of_datum hx
  have hd : (0 : ℚ) < (of f m e).denominator := Nat.cast_pos.mpr (denominator_pos f m e)
  have hlog : m.log2 < 53 := (Nat.log2_lt hm).mpr hm53
  -- the last grid is finer than half the last place
  have hgrid : (10 : ℚ) ^ (ceilLog10 m e - (21 : ℕ)) < 2 ^ (e - 1) := by
    unfold ceilLog10
    exact ten_zpow_lt_two_zpow (by omega) (by omega)
  have hhalf : (2 : ℚ) ^ (e - 1) = 2 * 2 ^ (e - 2) := by
    rw [show e - 1 = 1 + (e - 2) by ring, zpow_add₀ two_ne_zero, zpow_one]
  refine contains_iff.mp (contains_search (j := 21) (by decide)
    (exists_pick? (denominator_pos f m e) ?_ ?_))
  · rw [← Nat.cast_lt (α := ℚ), hlower, hvalue]
    refine mul_lt_mul_of_pos_right (mul_lt_mul_of_pos_right ?_ (by positivity)) hd
    split <;> linarith
  · rw [hvalue, hupper, ← add_mul, add_mul _ (2 : ℚ), ← hhalf]
    exact mul_lt_mul_of_pos_right (by linarith) hd

end Interval

variable {f : Format} {x : Binary f} {m : ℕ} {e : ℤ}

/-- The shortest decimal of a positive number is rounded to the number. -/
theorem ofQuotient_shortest (hx : x.datum = .finite false m e) (hm : m ≠ 0) (tie : Tie) :
    Binary.ofQuotient false
      ((shortest tie f m e).digits * tenTo (shortest tie f m e).exponent.toNat)
      (tenTo (-(shortest tie f m e).exponent).toNat) = x := by
  have hr := f.nearest_rank
    ((shortest tie f m e).digits * tenTo (shortest tie f m e).exponent.toNat)
    (tenTo_pos (-(shortest tie f m e).exponent).toNat)
  rw [← Scaled.toRat_eq] at hr
  have hnear := Interval.nearest_of_holds hx hm (Interval.holds_shortest hx hm tie)
  obtain ⟨-, -, hneg, -⟩ := Binary.exists_grid_of_datum hx
  have hrank := Nearest.unique f.strictMono_value hr hnear
  obtain ⟨hneg', hmag, -, -⟩ := Binary.ofBits_fields false hr.admitted rfl
  exact Binary.eq_of_fields (hneg'.trans hneg.symm) (hmag.trans hrank)

end Decimal

end VehiclePid
