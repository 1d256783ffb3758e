import Mathlib.Data.Nat.Cast.Order.Field
import Mathlib.Tactic.Linarith
import Mathlib.Tactic.Positivity
import Mathlib.Tactic.Ring
import VehiclePid.Proofs.Binary.Number

namespace VehiclePid

/-- Of the points `v k` that `p` admits, that of `m` is nearest to `y`, and `m` is even if another
point is as near. -/
structure Nearest (v : ℕ → ℚ) (p : ℕ → Prop) (m : ℕ) (y : ℚ) : Prop where
  admitted : p m
  le : ∀ k, p k → |v m - y| ≤ |v k - y|
  even : ∀ k, p k → v k ≠ v m → |v k - y| = |v m - y| → m % 2 = 0

section Whole

variable {n d m : ℕ} {y : ℚ}

theorem cast_div_eq (n : ℕ) (hd : 0 < d) : (n : ℚ) / d = (n / d : ℕ) + ((n % d : ℕ) : ℚ) / d := by
  have hd : (d : ℚ) ≠ 0 := Nat.cast_ne_zero.mpr hd.ne'
  rw [div_eq_iff hd, add_mul, div_mul_cancel₀ _ hd]
  exact_mod_cast (Nat.div_add_mod' n d).symm

theorem abs_divNearest_sub (n : ℕ) (hd : 0 < d) : |(divNearest n d : ℚ) - n / d| ≤ 1 / 2 ∧
    (|(divNearest n d : ℚ) - n / d| = 1 / 2 → divNearest n d % 2 = 0) := by
  have hd' : (0 : ℚ) < d := Nat.cast_pos.mpr hd
  rw [cast_div_eq n hd]
  have hr : (0 : ℚ) ≤ ((n % d : ℕ) : ℚ) / d := by positivity
  have hr1 : ((n % d : ℕ) : ℚ) / d < 1 :=
    (div_lt_one hd').mpr (Nat.cast_lt.mpr (Nat.mod_lt n hd))
  have hlt : 2 * (n % d) < d ↔ ((n % d : ℕ) : ℚ) / d < 1 / 2 := by
    rw [div_lt_div_iff₀ hd' two_pos, ← Nat.cast_lt (α := ℚ)]
    push_cast
    rw [mul_comm, one_mul]
  have hgt : d < 2 * (n % d) ↔ 1 / 2 < ((n % d : ℕ) : ℚ) / d := by
    rw [div_lt_div_iff₀ two_pos hd', ← Nat.cast_lt (α := ℚ)]
    push_cast
    rw [mul_comm, one_mul]
  unfold divNearest
  dsimp only
  rw [if_congr hlt rfl rfl, if_congr hgt rfl rfl]
  generalize ((n % d : ℕ) : ℚ) / d = t at *
  split
  · rw [sub_add_cancel_left, abs_neg, abs_of_nonneg hr]
    exact ⟨by linarith, fun h => by linarith⟩
  · split
    · have ha : |((n / d + 1 : ℕ) : ℚ) - ((n / d : ℕ) + t)| = 1 - t := by
        rw [Nat.cast_add_one, add_sub_add_left_eq_sub, abs_of_pos (by linarith)]
      rw [ha]
      exact ⟨by linarith, fun h => by linarith⟩
    · have ht : t = 1 / 2 := by linarith
      subst ht
      refine ⟨?_, fun _ => by omega⟩
      rw [Nat.cast_add, add_sub_add_left_eq_sub]
      obtain h | h := Nat.mod_two_eq_zero_or_one (n / d) <;> rw [h] <;> norm_num

theorem nearest_of_abs_sub_le (h : |(m : ℚ) - y| ≤ 1 / 2)
    (he : |(m : ℚ) - y| = 1 / 2 → m % 2 = 0) : Nearest (fun k => k) (fun _ => True) m y := by
  have far : ∀ k : ℕ, (k : ℚ) ≠ m → 1 - |(m : ℚ) - y| ≤ |(k : ℚ) - y| := by
    intro k hk
    have hi : (1 : ℤ) ≤ |(k : ℤ) - m| := Int.one_le_abs (sub_ne_zero.mpr (by exact_mod_cast hk))
    have hq : (1 : ℚ) ≤ |(k : ℚ) - m| := by exact_mod_cast hi
    have ht := abs_sub_le (k : ℚ) y m
    rw [abs_sub_comm y] at ht
    linarith
  refine ⟨trivial, fun k _ => ?_, fun k _ hk heq => he ?_⟩
  · by_cases hk : (k : ℚ) = m
    · rw [hk]
    · have := far k hk
      linarith
  · have := far k hk
    linarith

theorem nearest_divNearest (n : ℕ) (hd : 0 < d) :
    Nearest (fun k => k) (fun _ => True) (divNearest n d) (n / d) :=
  nearest_of_abs_sub_le (abs_divNearest_sub n hd).1 (abs_divNearest_sub n hd).2

theorem Nearest.le_of_le {j : ℕ} (h : Nearest (fun k => k) (fun _ => True) m y) (hj : y ≤ j) :
    m ≤ j := by
  by_contra hlt
  have hlt : (j : ℚ) < m := Nat.cast_lt.mpr (Nat.lt_of_not_le hlt)
  have hle := h.le j trivial
  rw [abs_of_nonneg (by linarith), abs_of_nonneg (by linarith)] at hle
  linarith

theorem Nearest.ge_of_ge {j : ℕ} (h : Nearest (fun k => k) (fun _ => True) m y) (hj : j ≤ y) :
    j ≤ m := by
  by_contra hlt
  have hlt : (m : ℚ) < j := Nat.cast_lt.mpr (Nat.lt_of_not_le hlt)
  have hle := h.le j trivial
  rw [abs_of_nonpos (by linarith), abs_of_nonpos (by linarith)] at hle
  linarith

end Whole

namespace Nearest

variable {v : ℕ → ℚ} {p : ℕ → Prop} {m i : ℕ} {y c : ℚ}

theorem scale (h : Nearest v p m y) (hc : 0 < c) : Nearest (fun k => v k * c) p m (y * c) := by
  have dist : ∀ k, |v k * c - y * c| = |v k - y| * c := by
    intro k
    rw [← sub_mul, abs_mul, abs_of_pos hc]
  refine ⟨h.admitted, fun k hk => ?_, fun k hk hne heq => h.even k hk ?_ ?_⟩
  · rw [dist, dist]
    exact mul_le_mul_of_nonneg_right (h.le k hk) hc.le
  · exact fun he => hne (congrArg (· * c) he)
  · rw [dist, dist] at heq
    exact mul_right_cancel₀ hc.ne' heq

theorem cap (hv : StrictMono v) (h : Nearest v (fun _ => True) m y) :
    Nearest v (· ≤ i) (min m i) y := by
  by_cases hm : m ≤ i
  · rw [Nat.min_eq_left hm]
    exact ⟨hm, fun k _ => h.le k trivial, fun k _ => h.even k trivial⟩
  · have hi : v i < v m := hv (Nat.lt_of_not_le hm)
    have hy : v i < y := by
      by_contra hy
      have hle := h.le i trivial
      rw [abs_of_nonneg (by linarith), abs_of_nonneg (by linarith)] at hle
      linarith
    have dist : ∀ k ≤ i, |v k - y| = y - v k := by
      intro k hk
      have hle := hv.monotone hk
      rw [abs_of_nonpos (by linarith), neg_sub]
    rw [Nat.min_eq_right (Nat.le_of_not_le hm)]
    refine ⟨le_rfl, fun k hk => ?_, fun k hk hne heq => absurd ?_ hne⟩
    · rw [dist k hk, dist i le_rfl]
      have hle := hv.monotone hk
      linarith
    · rw [dist k hk, dist i le_rfl] at heq
      linarith

theorem not_lt (hv : StrictMono v) (h : Nearest v (· ≤ i) m y) {k : ℕ}
    (h' : Nearest v (· ≤ i) k y) : ¬m < k := by
  intro hlt
  have hmk : v m < v k := hv hlt
  have heq : |v m - y| = |v k - y| :=
    le_antisymm (h.le k h'.admitted) (h'.le m h.admitted)
  have hy : v m - y = -(v k - y) :=
    (abs_eq_abs.mp heq).resolve_left fun he => hmk.ne (sub_left_injective he)
  -- both are even, so a point lies between them, nearer to their middle
  have hm := h.even k h'.admitted hmk.ne' heq.symm
  have hk := h'.even m h.admitted hmk.ne heq
  have hnext : m + 1 < k := by omega
  have hle := h.le (m + 1) (hnext.le.trans h'.admitted)
  have h1 : v m < v (m + 1) := hv (Nat.lt_succ_self m)
  have h2 : v (m + 1) < v k := hv hnext
  have hnear : |v (m + 1) - y| < v k - y := abs_lt.mpr ⟨by linarith, by linarith⟩
  rw [heq, abs_of_pos (by linarith)] at hle
  exact absurd hnear hle.not_gt

theorem unique (hv : StrictMono v) (h : Nearest v (· ≤ i) m y) {k : ℕ}
    (h' : Nearest v (· ≤ i) k y) : m = k :=
  Nat.le_antisymm (Nat.le_of_not_lt (not_lt hv h' h)) (Nat.le_of_not_lt (not_lt hv h h'))

end Nearest

namespace Format

variable {f : Format} {k m n d : ℕ} {y : ℚ}

theorem twoTo_fractionBits_even (f : Format) : twoTo f.fractionBits % 2 = 0 := by
  cases f <;> rfl

theorem nearest_steps (hm : Nearest (fun k => k) (fun _ => True) m (y / 2 ^ k))
    (hle : m ≤ 2 * twoTo f.fractionBits) (hk : k = 0 ∨ (twoTo f.fractionBits : ℚ) ≤ y / 2 ^ k) :
    Nearest (fun n => f.steps n) (fun _ => True) (k * twoTo f.fractionBits + m) y := by
  have hpow : (0 : ℚ) < 2 ^ k := by positivity
  have hr : f.steps (k * twoTo f.fractionBits + m) = m * twoTo k :=
    steps_eq hle (hk.imp_right hm.ge_of_ge)
  have dist : ∀ j : ℕ, |((j * twoTo k : ℕ) : ℚ) - y| = |(j : ℚ) - y / 2 ^ k| * 2 ^ k := by
    intro j
    rw [Nat.cast_mul, cast_twoTo, ← abs_of_pos hpow, ← abs_mul, abs_of_pos hpow, sub_mul,
      div_mul_cancel₀ _ hpow.ne']
  -- Off the grid lie only numbers before its start, and its start is nearer than these.
  have off : ∀ n, ¬twoTo k ∣ f.steps n → |((m * twoTo k : ℕ) : ℚ) - y| < |(f.steps n : ℚ) - y| := by
    intro n hn
    have hn : ¬(k = 0 ∨ (k + 1) * twoTo f.fractionBits ≤ n) := fun h => hn (twoTo_dvd_steps h)
    obtain ⟨hk0, hlt⟩ := not_or.mp hn
    have hstart : f.steps ((k + 1) * twoTo f.fractionBits) = twoTo f.fractionBits * twoTo k := by
      rw [Nat.succ_mul]
      exact steps_eq (Nat.le_mul_of_pos_left _ two_pos) (.inr le_rfl)
    have hlt := f.steps_strictMono (Nat.lt_of_not_le hlt)
    rw [hstart] at hlt
    have hlt : (f.steps n : ℚ) < ((twoTo f.fractionBits * twoTo k : ℕ) : ℚ) := Nat.cast_lt.mpr hlt
    have hy : ((twoTo f.fractionBits * twoTo k : ℕ) : ℚ) ≤ y := by
      rw [Nat.cast_mul, cast_twoTo k]
      exact (le_div_iff₀ hpow).mp (hk.resolve_left hk0)
    have hnear := mul_le_mul_of_nonneg_right (hm.le (twoTo f.fractionBits) trivial) hpow.le
    rw [← dist, ← dist, abs_of_nonpos (sub_nonpos.mpr hy)] at hnear
    refine lt_of_le_of_lt hnear ?_
    rw [abs_of_nonpos (by linarith)]
    linarith
  refine ⟨trivial, fun n _ => ?_, fun n _ hne heq => ?_⟩
  · rw [hr]
    by_cases hn : twoTo k ∣ f.steps n
    · obtain ⟨j, hj⟩ := hn
      rw [hj, Nat.mul_comm (twoTo k), dist, dist]
      exact mul_le_mul_of_nonneg_right (hm.le j trivial) hpow.le
    · exact (off n hn).le
  · rw [hr] at hne heq
    have hn : twoTo k ∣ f.steps n := by
      by_contra hn
      exact (off n hn).ne' heq
    obtain ⟨j, hj⟩ := hn
    rw [hj, Nat.mul_comm (twoTo k)] at hne heq
    rw [dist, dist] at heq
    have hmj : (j : ℚ) ≠ m := fun h => hne (by rw [Nat.cast_injective h])
    have heven := hm.even j trivial hmj (mul_right_cancel₀ hpow.ne' heq)
    rw [Nat.add_mod, Nat.mul_mod, f.twoTo_fractionBits_even, heven, Nat.mul_zero]

theorem div_lt_two_zpow_iff (n : ℕ) (hd : 0 < d) (e : ℤ) :
    n * twoTo (-e).toNat < d * twoTo e.toNat ↔ (n / d : ℚ) < 2 ^ e := by
  have hd : (0 : ℚ) < d := Nat.cast_pos.mpr hd
  have hp : (0 : ℚ) < twoTo (-e).toNat := Nat.cast_pos.mpr (twoTo_pos _)
  rw [two_zpow_eq, div_lt_div_iff₀ hd hp, mul_comm ((twoTo e.toNat : ℕ) : ℚ)]
  exact_mod_cast Iff.rfl

theorem two_zpow_floorLog2 (hn : 0 < n) (hd : 0 < d) :
    (2 : ℚ) ^ floorLog2 n d ≤ n / d ∧ (n / d : ℚ) < 2 ^ (floorLog2 n d + 1) := by
  have log : ∀ {a : ℕ}, 0 < a → (2 : ℚ) ^ (a.log2 : ℤ) ≤ a ∧ (a : ℚ) < 2 ^ (a.log2 + 1 : ℤ) := by
    intro a ha
    constructor
    · exact_mod_cast Nat.log2_self_le ha.ne'
    · exact_mod_cast @Nat.lt_log2_self a
  obtain ⟨hn1, hn2⟩ := log hn
  obtain ⟨hd1, hd2⟩ := log hd
  have hd' : (0 : ℚ) < d := Nat.cast_pos.mpr hd
  have hlo : (2 : ℚ) ^ ((n.log2 : ℤ) - d.log2 - 1) ≤ n / d := by
    rw [sub_sub, zpow_sub₀ two_ne_zero]
    exact div_le_div₀ (Nat.cast_nonneg n) hn1 hd' hd2.le
  have hhi : (n / d : ℚ) < 2 ^ ((n.log2 : ℤ) - d.log2 + 1) := by
    rw [sub_add_eq_add_sub, zpow_sub₀ two_ne_zero]
    exact div_lt_div₀ hn2 hd1 (by positivity) (by positivity)
  unfold floorLog2
  dsimp only
  rw [if_congr (div_lt_two_zpow_iff n hd _) rfl rfl]
  split
  · rename_i h
    rw [sub_add_cancel]
    exact ⟨hlo, h⟩
  · rename_i h
    exact ⟨le_of_not_gt h, hhi⟩

@[simp] theorem steps_zero (f : Format) : f.steps 0 = 0 := if_pos (twoTo_pos _)

theorem strictMono_value (f : Format) :
    StrictMono fun r => (f.steps r : ℚ) * 2 ^ f.minExponent := fun _ _ h =>
  mul_lt_mul_of_pos_right (Nat.cast_lt.mpr (f.steps_strictMono h)) (by positivity)

/-- The rank of a quotient is the pattern of the magnitude nearest to it. -/
theorem nearest_rank (f : Format) (n : ℕ) (hd : 0 < d) :
    Nearest (fun r => f.steps r * 2 ^ f.minExponent) (· ≤ f.infinity) (f.rank n d) (n / d) := by
  unfold rank
  obtain rfl | hn := Nat.eq_zero_or_pos n
  · have hzero : |(f.steps 0 : ℚ) * 2 ^ f.minExponent - (0 : ℕ) / d| = 0 := by simp
    rw [if_pos rfl]
    refine ⟨Nat.zero_le _, fun k _ => ?_, fun _ _ _ _ => rfl⟩
    rw [hzero]
    exact abs_nonneg _
  · rw [if_neg hn.ne']
    obtain ⟨hlo, hhi⟩ := two_zpow_floorLog2 hn hd
    generalize floorLog2 n d = l at *
    dsimp only
    generalize he : max (l - f.fractionBits) f.minExponent = e
    obtain ⟨k, hk⟩ : ∃ k : ℕ, e = f.minExponent + k := ⟨(e - f.minExponent).toNat, by omega⟩
    have hgrid : (e - f.minExponent).toNat = k := by omega
    rw [hgrid]
    have hmin : (0 : ℚ) < 2 ^ f.minExponent := by positivity
    have hpow : (0 : ℚ) < 2 ^ e := by positivity
    -- the quotient in steps of the grid
    have hscale : (n : ℚ) / d / 2 ^ f.minExponent / 2 ^ k = n / d / 2 ^ e := by
      rw [div_div _ _ ((2 : ℚ) ^ k), hk, zpow_add₀ two_ne_zero, zpow_natCast]
    have hq : ((n * twoTo (-e).toNat : ℕ) : ℚ) / (d * twoTo e.toNat : ℕ) = n / d / 2 ^ e := by
      rw [two_zpow_eq, Nat.cast_mul, Nat.cast_mul, mul_div_mul_comm, div_div_eq_mul_div,
        mul_div_assoc]
    have hm := nearest_divNearest (n * twoTo (-e).toNat) (Nat.mul_pos hd (twoTo_pos e.toNat))
    rw [hq] at hm
    have hle : (n : ℚ) / d / 2 ^ e ≤ (2 * twoTo f.fractionBits : ℕ) := by
      rw [div_le_iff₀ hpow, Nat.mul_comm, ← twoTo_succ, cast_twoTo, ← zpow_natCast,
        ← zpow_add₀ two_ne_zero]
      exact hhi.le.trans (zpow_le_zpow_right₀ one_le_two (by omega))
    have hge : k = 0 ∨ (twoTo f.fractionBits : ℚ) ≤ n / d / 2 ^ e := by
      refine or_iff_not_imp_left.mpr fun hk0 => ?_
      rw [le_div_iff₀ hpow, cast_twoTo, ← zpow_natCast, ← zpow_add₀ two_ne_zero]
      exact (zpow_le_zpow_right₀ one_le_two (by omega)).trans hlo
    rw [← hscale] at hm hge
    have hs := ((nearest_steps hm (hm.le_of_le (hscale ▸ hle)) hge).cap
      (v := fun r => (f.steps r : ℚ)) (i := f.infinity)
      fun a b hab => Nat.cast_lt.mpr (f.steps_strictMono hab)).scale hmin
    rwa [div_mul_cancel₀ _ hmin.ne'] at hs

end Format

namespace Binary

variable {f : Format} {x y : Binary f} {q a b : ℚ}

/-- No number of the format is nearer to `q`, and the pattern is even if another is as near. From the
middle between the largest number and the power of two above it, that is infinity. -/
structure IsNearest (x : Binary f) (q : ℚ) : Prop where
  ne_nan : x ≠ nan
  le : ∀ y : Binary f, y ≠ nan → |x.toRat - q| ≤ |y.toRat - q|
  even : ∀ y : Binary f, y ≠ nan → y.toRat ≠ x.toRat → |y.toRat - q| = |x.toRat - q| →
    x.bits % 2 = 0

theorem abs_sign_mul_sub (s : Bool) (a q : ℚ) : |sign s * a - sign s * q| = |a - q| := by
  rw [← mul_sub, abs_mul]
  cases s <;> simp [sign]

theorem abs_sign_mul_sub_of_ne {s t : Bool} (h : t ≠ s) (ha : 0 ≤ a) (hq : 0 ≤ q) :
    |sign t * a - sign s * q| = a + q := by
  have hs : sign s = -sign t := by
    cases s <;> cases t <;> simp_all [sign]
  rw [hs, neg_mul, sub_neg_eq_add, ← mul_add, abs_mul, abs_of_nonneg (add_nonneg ha hq)]
  cases t <;> simp [sign]

theorem abs_sub_le_abs_sign (s t : Bool) (ha : 0 ≤ a) (hq : 0 ≤ q) :
    |a - q| ≤ |sign t * a - sign s * q| := by
  by_cases h : t = s
  · rw [h, abs_sign_mul_sub]
  · rw [abs_sign_mul_sub_of_ne h ha hq]
    exact abs_le.mpr ⟨by linarith, by linarith⟩

theorem sign_mul_eq_of_abs_eq {s t : Bool} (ha : 0 ≤ a) (hq : 0 ≤ q) (hle : |a - q| ≤ q)
    (h : |sign t * a - sign s * q| = |a - q|) : sign t * a = sign s * a := by
  by_cases hs : t = s
  · rw [hs]
  · rw [abs_sign_mul_sub_of_ne hs ha hq] at h
    rw [← h] at hle
    obtain rfl : a = 0 := by linarith
    rw [mul_zero, mul_zero]

theorem magnitude_le (h : x ≠ nan) : x.magnitude ≤ f.infinity := by
  obtain ⟨n, hn, hle | rfl⟩ := x
  · exact hle
  · exact absurd rfl h

theorem ofBits_fields (negative : Bool) {n : ℕ} (h : n ≤ f.infinity) {x : Binary f}
    (hx : x = ofBits ((if negative then f.signWeight else 0) + n)) :
    x.negative = negative ∧ x.magnitude = n ∧ x.bits % 2 = n % 2 ∧ x ≠ nan := by
  have hs : f.infinity < f.signWeight := by cases f <;> decide
  have heven : f.signWeight % 2 = 0 := by cases f <;> rfl
  have hq : f.quietNaN % f.signWeight = f.quietNaN := by cases f <;> rfl
  have hi : f.infinity < f.quietNaN := by cases f <;> decide
  have hlt : (if negative then f.signWeight else 0) + n < 2 * f.signWeight := by
    split <;> omega
  have hmod : ((if negative then f.signWeight else 0) + n) % f.signWeight = n := by
    split
    · rw [Nat.add_mod_left, Nat.mod_eq_of_lt (by omega)]
    · rw [Nat.zero_add, Nat.mod_eq_of_lt (by omega)]
  have hb : x.bits = (if negative then f.signWeight else 0) + n := by
    rw [hx, ofBits, dif_pos (by rwa [Nat.mod_eq_of_lt hlt, hmod])]
    exact Nat.mod_eq_of_lt hlt
  refine ⟨?_, ?_, ?_, ?_⟩
  · rw [Binary.negative, hb]
    cases negative <;> simp
    omega
  · rw [magnitude, hb, hmod]
  · rw [hb]
    split <;> omega
  · rintro rfl
    rw [← hb, bits_nan, hq] at hmod
    omega

theorem exists_toRat_eq_two_zpow {k : ℕ} (h : (k + 1) * twoTo f.fractionBits ≤ f.infinity) :
    ∃ y : Binary f, y ≠ nan ∧ y.toRat = 2 ^ (f.fractionBits + k + f.minExponent : ℤ) := by
  obtain ⟨hneg, hmag, -, hnan⟩ := ofBits_fields false h rfl
  have hsteps : f.steps ((k + 1) * twoTo f.fractionBits) = twoTo (f.fractionBits + k) := by
    rw [Nat.succ_mul, Format.steps_eq (by omega) (.inr le_rfl), twoTo_add]
  refine ⟨_, hnan, ?_⟩
  rw [toRat, hneg, hmag, sign, if_neg Bool.false_ne_true, one_mul, hsteps, cast_twoTo,
    zpow_add₀ two_ne_zero, ← Nat.cast_add, zpow_natCast]

theorem isNearest_ofQuotient (negative : Bool) (n : ℕ) {d : ℕ} (hd : 0 < d) :
    (ofQuotient negative n d : Binary f).IsNearest (sign negative * (n / d)) := by
  have hr := f.nearest_rank n hd
  obtain ⟨hneg, hmag, heven, hnan⟩ := ofBits_fields negative hr.admitted
    (rfl : (ofQuotient negative n d : Binary f) = _)
  have hx : (ofQuotient negative n d : Binary f).toRat =
      sign negative * (f.steps (f.rank n d) * 2 ^ f.minExponent) := by
    rw [toRat, hneg, hmag]
  have hq : (0 : ℚ) ≤ n / d := by positivity
  have hpos : ∀ k, (0 : ℚ) ≤ f.steps k * 2 ^ f.minExponent := fun k => by positivity
  have hzero : |(f.steps (f.rank n d) : ℚ) * 2 ^ f.minExponent - n / d| ≤ n / d := by
    have h := hr.le 0 (Nat.zero_le _)
    rwa [Format.steps_zero, Nat.cast_zero, zero_mul, zero_sub, abs_neg, abs_of_nonneg hq] at h
  refine ⟨hnan, fun y hy => ?_, fun y hy hne heq => ?_⟩
  · rw [hx, abs_sign_mul_sub]
    exact (hr.le _ (magnitude_le hy)).trans (abs_sub_le_abs_sign _ _ (hpos _) hq)
  · rw [heven]
    rw [hx, abs_sign_mul_sub] at heq
    rw [hx] at hne
    have hle := abs_sub_le_abs_sign negative y.negative (hpos y.magnitude) hq
    refine hr.even _ (magnitude_le hy) (fun hab => hne ?_)
      (le_antisymm (hle.trans heq.le) (hr.le _ (magnitude_le hy)))
    rw [toRat, hab] at heq
    rw [toRat, hab]
    exact sign_mul_eq_of_abs_eq (hpos _) hq hzero heq

theorem isNearest_ofNat (n : ℕ) : (ofNat n : Binary f).IsNearest n := by
  have h := isNearest_ofQuotient (f := f) false n one_pos
  rwa [Nat.cast_one, div_one, sign, if_neg Bool.false_ne_true, one_mul] at h

theorem negative_ofNat (n : ℕ) : (ofNat n : Binary f).negative = false :=
  (ofBits_fields false (f.nearest_rank n one_pos).admitted rfl).1

theorem bits_eq (x : Binary f) :
    x.bits = (if x.negative then f.signWeight else 0) + x.magnitude := by
  have hlt : x.bits < 2 * f.signWeight := x.isPattern.1
  rw [magnitude]
  by_cases hs : f.signWeight ≤ x.bits
  · rw [negative, if_pos (decide_eq_true hs), Nat.mod_eq_sub_mod hs, Nat.mod_eq_of_lt (by omega)]
    omega
  · rw [negative, decide_eq_false hs, if_neg Bool.false_ne_true, Nat.zero_add,
      Nat.mod_eq_of_lt (Nat.lt_of_not_le hs)]

theorem eq_of_fields (hs : x.negative = y.negative) (hm : x.magnitude = y.magnitude) : x = y := by
  have hb : x.bits = y.bits := by rw [bits_eq x, bits_eq y, hs, hm]
  cases x
  cases y
  cases hb
  rfl

theorem bits_mod_two (x : Binary f) : x.bits % 2 = x.magnitude % 2 := by
  have h : 2 ∣ f.signWeight := by cases f <;> decide
  exact (Nat.mod_mod_of_dvd _ h).symm

theorem sign_mul_sign (s : Bool) : sign s * sign s = 1 := by
  cases s <;> norm_num [sign]

theorem IsNearest.nearest (h : x.IsNearest q) :
    Nearest (fun r => f.steps r * 2 ^ f.minExponent) (· ≤ f.infinity) x.magnitude
      (sign x.negative * q) := by
  -- the number of a magnitude, with the sign of `x`
  have number : ∀ k ≤ f.infinity, ∃ y : Binary f, y ≠ nan ∧
      y.toRat = sign x.negative * (f.steps k * 2 ^ f.minExponent) := by
    intro k hk
    obtain ⟨hneg, hmag, -, hnan⟩ := ofBits_fields x.negative hk rfl
    exact ⟨_, hnan, by rw [toRat, hneg, hmag]⟩
  have dist : ∀ a, |sign x.negative * a - q| = |a - sign x.negative * q| := by
    intro a
    rw [← abs_sign_mul_sub x.negative a, ← mul_assoc, sign_mul_sign, one_mul]
  refine ⟨magnitude_le h.ne_nan, fun k hk => ?_, fun k hk hne heq => ?_⟩
  · obtain ⟨y, hy, hr⟩ := number k hk
    have hle := h.le y hy
    rwa [hr, toRat, dist, dist] at hle
  · obtain ⟨y, hy, hr⟩ := number k hk
    rw [← bits_mod_two]
    refine h.even y hy (fun he => hne ?_) ?_
    · rw [hr, toRat] at he
      have hs : sign x.negative ≠ 0 := left_ne_zero_of_mul_eq_one (sign_mul_sign x.negative)
      exact mul_left_cancel₀ hs he
    · rw [hr, toRat, dist, dist]
      exact heq

/-- Only the sign of zero is left open. -/
theorem IsNearest.unique (hx : x.IsNearest q) (hy : y.IsNearest q)
    (hs : x.negative = y.negative) : x = y :=
  eq_of_fields hs (Nearest.unique f.strictMono_value hx.nearest (hs ▸ hy.nearest))

end Binary

end VehiclePid
