import Mathlib.Data.List.TakeWhile
import VehiclePid.Decimal.Layout
import VehiclePid.Decimal.Literal
import VehiclePid.Proofs.Decimal.Shortest

namespace VehiclePid.Decimal

variable {f : Format} {ds es whole fraction : List Char} {k n : ℕ}

theorem naturalOfDigits_eq (ds : List Char) : naturalOfDigits ds = Nat.ofDigitChars 10 ds 0 := rfl

theorem naturalOfDigits_toDigits (n : ℕ) : naturalOfDigits (Nat.toDigits 10 n) = n :=
  Nat.ofDigitChars_ten_toDigits

theorem naturalOfDigits_append_zeros (ds : List Char) (k : ℕ) :
    naturalOfDigits (ds ++ List.replicate k '0') = naturalOfDigits ds * tenTo k := by
  rw [naturalOfDigits_eq, Nat.ofDigitChars_append, Nat.ofDigitChars_replicate_zero, Nat.mul_comm]
  rfl

theorem naturalOfDigits_zeros_append (k : ℕ) (ds : List Char) :
    naturalOfDigits (List.replicate k '0' ++ ds) = naturalOfDigits ds := by
  rw [naturalOfDigits_eq, Nat.ofDigitChars_append, Nat.ofDigitChars_replicate_zero, Nat.mul_zero]
  rfl

theorem isDigit_of_mem_zeros {c : Char} (h : c ∈ List.replicate k '0') : isDigit c = true := by
  rw [List.eq_of_mem_replicate h]
  rfl

theorem isDigit_of_mem_text {s : Scaled} {c : Char} (h : c ∈ s.text) : isDigit c = true :=
  Nat.isDigit_of_mem_toDigits (by decide) (by decide) h

theorem Scaled.text_ne_nil (s : Scaled) : s.text ≠ [] := Nat.toDigits_ne_nil

theorem literal?_digits (hd : ∀ c ∈ ds, isDigit c = true) (hne : ds ≠ []) :
    (literal? ds : Option (Binary f)) = some (.ofQuotient false (naturalOfDigits ds) 1) := by
  have htake : ds.takeWhile isDigit = ds := List.takeWhile_eq_self_iff.mpr hd
  have hdrop : ds.dropWhile isDigit = [] := List.dropWhile_eq_nil_iff.mpr hd
  rw [literal?, htake, hdrop]
  simp [hne]

theorem literal?_point (hw : ∀ c ∈ whole, isDigit c = true) (hf : ∀ c ∈ fraction, isDigit c = true)
    (hne : whole ++ fraction ≠ []) :
    (literal? (whole ++ '.' :: fraction) : Option (Binary f)) =
      some (.ofQuotient false (naturalOfDigits (whole ++ fraction)) (tenTo fraction.length)) := by
  have htake : (whole ++ '.' :: fraction).takeWhile isDigit = whole := by
    rw [List.takeWhile_append_of_pos hw, List.takeWhile_cons_of_neg (by decide), List.append_nil]
  have hdrop : (whole ++ '.' :: fraction).dropWhile isDigit = '.' :: fraction := by
    rw [List.dropWhile_append_of_pos hw, List.dropWhile_cons_of_neg (by decide)]
  have hall : fraction.all isDigit = true := List.all_eq_true.mpr hf
  rw [literal?, htake, hdrop]
  simp only [List.drop_one, List.tail_cons, List.head?_cons, Option.all_some, beq_self_eq_true,
    hall, List.isEmpty_eq_false_iff.mpr hne, Bool.not_true, Bool.or_false]
  rfl

theorem naturalOfDigits_text (s : Scaled) : naturalOfDigits s.text = s.digits :=
  naturalOfDigits_toDigits s.digits

theorem toList_positional_of_nonneg {s : Scaled} (h : 0 ≤ s.exponent) :
    (s.positional "").toList = s.text ++ List.replicate s.exponent.toNat '0' := by
  unfold Scaled.positional
  dsimp only
  rw [if_pos h]
  simp [zeros]

theorem exists_point_of_neg {s : Scaled} (h : s.exponent < 0) : ∃ whole fraction,
    (s.positional "").toList = whole ++ '.' :: fraction ∧ (∀ c ∈ whole, isDigit c = true) ∧
      (∀ c ∈ fraction, isDigit c = true) ∧ whole ++ fraction ≠ [] ∧
      naturalOfDigits (whole ++ fraction) = s.digits ∧ fraction.length = (-s.exponent).toNat := by
  have hpos : 0 < s.text.length := List.length_pos_iff.mpr s.text_ne_nil
  have hleading : s.leading = s.exponent + (s.text.length - 1) := rfl
  unfold Scaled.positional
  dsimp only
  rw [if_neg h.not_ge]
  split
  · refine ⟨s.text.take (s.leading.toNat + 1), s.text.drop (s.leading.toNat + 1), by simp,
      fun _ hc => isDigit_of_mem_text (List.mem_of_mem_take hc),
      fun _ hc => isDigit_of_mem_text (List.mem_of_mem_drop hc), ?_, ?_, ?_⟩
    · rw [List.take_append_drop]
      exact s.text_ne_nil
    · rw [List.take_append_drop, naturalOfDigits_text]
    · rw [List.length_drop]
      omega
  · refine ⟨List.replicate 1 '0', List.replicate (-s.leading - 1).toNat '0' ++ s.text,
      by simp [zeros], fun _ => isDigit_of_mem_zeros, ?_, by simp, ?_, ?_⟩
    · rw [List.forall_mem_append]
      exact ⟨fun _ => isDigit_of_mem_zeros, fun _ => isDigit_of_mem_text⟩
    · rw [naturalOfDigits_zeros_append, naturalOfDigits_zeros_append, naturalOfDigits_text]
    · rw [List.length_append, List.length_replicate]
      omega

theorem literal?_positional (s : Scaled) :
    (literal? (s.positional "").toList : Option (Binary f)) = some (.ofQuotient false
      (s.digits * tenTo s.exponent.toNat) (tenTo (-s.exponent).toNat)) := by
  obtain hexp | hexp := lt_or_ge s.exponent 0
  · obtain ⟨whole, fraction, htext, hwhole, hfrac, hne, hvalue, hlen⟩ := exists_point_of_neg hexp
    have hnat : s.exponent.toNat = 0 := by omega
    rw [htext, literal?_point hwhole hfrac hne, hvalue, hlen, hnat, tenTo_zero, Nat.mul_one]
  · have hneg : (-s.exponent).toNat = 0 := by omega
    rw [toList_positional_of_nonneg hexp, literal?_digits, naturalOfDigits_append_zeros,
      naturalOfDigits_text, hneg, tenTo_zero]
    · rw [List.forall_mem_append]
      exact ⟨fun _ => isDigit_of_mem_text, fun _ => isDigit_of_mem_zeros⟩
    · simp [s.text_ne_nil]

theorem unsigned_of_literal? {x : Binary f} (h : literal? ds = some x) :
    x.negative = false ∧ x ≠ .nan := by
  unfold literal? at h
  dsimp only at h
  split at h
  · cases h
  · obtain ⟨hneg, -, -, hnan⟩ := Binary.ofBits_fields false
      (f.nearest_rank _ (tenTo_pos _)).admitted (Option.some.inj h).symm
    exact ⟨hneg, hnan⟩

variable {x : Binary f}

theorem ofQuotient_zero (hneg : x.negative = false) (hmag : x.magnitude = 0) (d : ℕ) :
    Binary.ofQuotient false 0 d = x := by
  obtain ⟨hneg', hmag', -, -⟩ := Binary.ofBits_fields false (Nat.zero_le f.infinity) rfl
  exact Binary.eq_of_fields (hneg'.trans hneg.symm) (hmag'.trans hmag.symm)

/-- A finite number without a sign is read from its text. -/
theorem literal?_render (hneg : x.negative = false) (hx : x.isFinite = true) :
    literal? (Layout.plain.render x).toList = some x := by
  obtain ⟨m, e, hd, -⟩ := Binary.exists_datum hx
  rw [hneg] at hd
  by_cases hm : m = 0
  · subst hm
    have htext : Layout.plain.render x = "0" := by
      rw [Layout.render, hd]
      rfl
    obtain ⟨k, -, -, hmag, -, -, hk⟩ := Binary.exists_grid_of_datum hd
    have hzero : x.magnitude = 0 := by
      obtain rfl | hk := hk
      · rw [hmag, Nat.zero_mul]
      · exact absurd (twoTo_pos f.fractionBits) hk.not_gt
    have hone : "0".toList = List.replicate 1 '0' := rfl
    rw [htext, hone, literal?_digits (fun _ => isDigit_of_mem_zeros) (by simp)]
    exact congrArg some (ofQuotient_zero hneg hzero 1)
  · have htext : Layout.plain.render x = (shortest .up f m e).positional "" := by
      rw [Layout.render, hd]
      simp [hm, Layout.plain]
    rw [htext, literal?_positional, ofQuotient_shortest hd hm]

theorem render_infinity (hneg : x.negative = false) (hx : x.magnitude = f.infinity) :
    Layout.plain.render x = "inf" := by
  have hd : x.datum = .infinite false := by
    rw [Binary.datum, if_neg (Nat.not_lt.mpr hx.le), if_pos hx, hneg]
  rw [Layout.render, hd]
  rfl

theorem finite_or_infinity (hx : x ≠ .nan) : x.isFinite = true ∨ x.magnitude = f.infinity := by
  obtain h | h := Nat.lt_or_eq_of_le (Binary.magnitude_le hx)
  · exact .inl (decide_eq_true h)
  · exact .inr h

/-- The number of a text, which is infinity unless it is a literal. -/
def read (cs : List Char) : Binary f := (literal? cs).getD (.infinite false)

theorem read_render (hx : x.negative = false ∧ x ≠ .nan) :
    read (Layout.plain.render x).toList = x := by
  obtain hf | hf := finite_or_infinity hx.2
  · rw [read, literal?_render hx.1 hf, Option.getD_some]
  · have hread : (read "inf".toList : Binary f) = .infinite false := rfl
    obtain ⟨hneg, hmag, -, -⟩ :=
      Binary.ofBits_fields false (le_refl f.infinity) (rfl : Binary.infinite false = _)
    rw [render_infinity hx.1 hf, hread]
    exact Binary.eq_of_fields (hneg.trans hx.1.symm) (hmag.trans hf.symm)

theorem render_eq_or (hx : x.negative = false ∧ x ≠ .nan) : Layout.plain.render x = "inf" ∨
    ∀ c ∈ (Layout.plain.render x).toList, isDigit c = true ∨ c = '.' := by
  obtain hf | hf := finite_or_infinity hx.2
  · exact .inr (isDigit_or_eq_point_of_literal? (literal?_render hx.1 hf))
  · exact .inl (render_infinity hx.1 hf)

end VehiclePid.Decimal
