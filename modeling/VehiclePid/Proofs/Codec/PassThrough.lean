import VehiclePid.Proofs.Codec.Response
import VehiclePid.Proofs.Formula.Identity
import VehiclePid.Proofs.Value.Cast

namespace VehiclePid

variable {d : Descriptor} {raw : List UInt8}

theorem Formula.total_lt_twoTo {n : ℕ} (hn : raw.length ≤ n) : total raw < twoTo (8 * n) := by
  have hpow : 256 ^ n = twoTo (8 * n) := (pow_mul 2 8 n).symm
  rw [← hpow]
  exact (total_lt raw).trans_le (Nat.pow_le_pow_right (by norm_num) hn)

namespace Descriptor

theorem required_of_identity (hf : d.formula = .identity) : d.required = d.width.toNat := by
  rw [required, hf]
  rfl

theorem interpret_of_short (hf : d.formula = .identity) (h : raw.length < d.width.toNat) :
    d.interpret raw = .error (.insufficientBytes d.width.toNat raw.length) := by
  rw [← required_of_identity hf] at h ⊢
  rw [interpret, result, if_pos h]
  rfl

theorem interpret_of_identity (hf : d.formula = .identity) (hw : 1 ≤ d.width.toNat)
    (hw' : d.width.toNat ≤ 8) (h : d.width.toNat ≤ raw.length) :
    d.interpret raw = .ok (d.type.cast (.ofNat (Formula.total (raw.take d.width.toNat)))) := by
  have hlen : (raw.take d.width.toNat).length = d.width.toNat := List.length_take_of_le h
  have hne : raw.take d.width.toNat ≠ [] := by
    rw [Ne, ← List.length_eq_zero_iff, hlen]
    omega
  have hlt : Formula.total (raw.take d.width.toNat) < 2 ^ 64 :=
    Formula.total_lt_twoTo (hlen.le.trans hw')
  rw [interpret, result, required_of_identity hf, if_neg (Nat.not_lt.mpr h), hf,
    Formula.evaluate_identity hne, Nat.mod_eq_of_lt hlt]
  rfl

end Descriptor

namespace Codec

variable {c : Codec} {r : Registry} {key : Key} {v : Value}

theorem decode_response (hd : c.registry.get? key = some d) (hr : raw.length = d.width.toNat)
    (hl : raw.length ≤ Frame.maxRaw) (hm : key.mode < 0xC0) (hv : d.interpret raw = .ok v) :
    c.decode (c.response key raw) = .ok ⟨key, d, raw, v⟩ :=
  decode_eq_ok_iff.mpr ⟨locate_response hd hr hl hm, hv⟩

theorem decode_response_of_wraps (hm : 0xC0 ≤ key.mode) :
    c.decode (c.response key raw) = .error (.notAResponse (key.mode - 0xC0)) := by
  obtain ⟨hlt, heq⟩ := mark_wraps hm
  have hbyte : (c.response key raw).data[1] = key.mode + responseMark := getElem_response 1 _
  have hu := locate_of_unmarked (c := c) headerLength_le_response (hbyte ▸ hlt)
  rw [decode, hu, hbyte, heq]
  rfl

/-- Raw bytes without a formula are interpreted as the number that they are, wrapped to the width of
an integer type, and a response with these bytes decodes to it unless its mode is wrapped around. -/
theorem interpret_blank_wraps (hb : d.source.toList.all Text.isBlank = true)
    (hf : Formula.compile d.source = .ok d.formula) (hw : 1 ≤ d.width.toNat)
    (hw' : d.width.toNat ≤ 6) (ht : d.type ≠ .float) :
    (∀ raw, d.width.toNat ≤ raw.length → ∃ v, d.interpret raw = .ok v ∧
      (∀ u : Value, u.IsWrapped d.type (Formula.total (raw.take d.width.toNat)) ↔ u = v) ∧
      (d.type ∈ [.uint8, .uint16, .uint32] → 8 * d.width.toNat ≤ 8 * d.type.size →
        v.integer? = some (Formula.total (raw.take d.width.toNat) : ℤ))) ∧
    (∀ raw, raw.length < d.width.toNat →
      d.interpret raw = .error (.insufficientBytes d.width.toNat raw.length)) ∧
    ∀ (r : Registry) (c : Codec) (key : Key) (raw : List UInt8), c.Over r → r.get? key = some d →
      raw.length = d.width.toNat → d.width.toNat ≤ 5 →
      ∃ f v, c.respond key raw = .ok f ∧ d.interpret raw = .ok v ∧
        (key.mode < 0xC0 → c.decode f = .ok ⟨key, d, raw, v⟩) ∧
        (0xC0 ≤ key.mode → c.decode f = .error (.notAResponse (key.mode - 0xC0))) := by
  have hid := Formula.eq_identity_of_compile hb hf
  have hlen : ∀ raw : List UInt8, (raw.take d.width.toNat).length ≤ d.width.toNat := fun raw =>
    List.length_take.le.trans (Nat.min_le_left _ _)
  have hvalue : ∀ raw : List UInt8, d.width.toNat ≤ raw.length → ∃ v, d.interpret raw = .ok v ∧
      ∀ u : Value, u.IsWrapped d.type (Formula.total (raw.take d.width.toNat)) ↔ u = v := by
    intro raw h
    have hlt := Formula.total_lt_twoTo ((hlen raw).trans hw')
    exact ⟨_, Descriptor.interpret_of_identity hid hw (by omega) h,
      fun u => ValueType.isWrapped_natCast_iff ht (hlt.le.trans (by decide))⟩
  refine ⟨fun raw h => ?_, fun raw => Descriptor.interpret_of_short hid,
    fun r c key raw hc hd hr hw5 => ?_⟩
  · obtain ⟨v, hv, hwrapped⟩ := hvalue raw h
    refine ⟨v, hv, hwrapped, fun hunsigned hfits => ?_⟩
    refine Value.integer?_of_isWrapped hunsigned ((hwrapped v).mpr rfl) ?_
    exact Formula.total_lt_twoTo ((hlen raw).trans (Nat.le_of_mul_le_mul_left hfits (by decide)))
  · obtain ⟨v, hv, -⟩ := hvalue raw hr.ge
    have hl : raw.length ≤ Frame.maxRaw := hr.le.trans hw5
    rw [← hc.registry_eq] at hd
    exact ⟨_, v, respond_eq_ok_iff.mpr ⟨hl, ⟨d, hd, hr⟩, rfl⟩, hv,
      fun hm => decode_response hd hr hl hm hv, decode_response_of_wraps⟩

theorem interpret_blank_wraps_int16 :
    ∃ r d e, Registry.build [⟨⟨1, 1⟩, "Low", "", 3, .int16, ""⟩,
        ⟨⟨1, 2⟩, "Whole", "", 2, .uint16, " "⟩] = .ok r ∧
      r.get? ⟨1, 1⟩ = some d ∧ r.get? ⟨1, 2⟩ = some e ∧
      d.interpret [0x01, 0xFF, 0xFE, 0x99] = .ok (.int16 (-2)) ∧
      d.interpret [0x01, 0xFF] = .error (.insufficientBytes 3 2) ∧
      (∃ v, e.interpret [0x12, 0x34] = .ok v ∧ v.integer? = some 0x1234) ∧
      ∃ f v, (standard r).respond ⟨1, 1⟩ [0x01, 0xFF, 0xFE] = .ok f ∧
        (standard r).decode f = .ok ⟨⟨1, 1⟩, d, [0x01, 0xFF, 0xFE], v⟩ := by
  let d : Descriptor := ⟨⟨1, 1⟩, "Low", ⟨0⟩, 3, .int16, "", .identity⟩
  let e : Descriptor := ⟨⟨1, 2⟩, "Whole", ⟨0⟩, 2, .uint16, " ", .identity⟩
  let r : Registry := ⟨[d, e], [""]⟩
  have hr : Registry.build [⟨⟨1, 1⟩, "Low", "", 3, .int16, ""⟩,
      ⟨⟨1, 2⟩, "Whole", "", 2, .uint16, " "⟩] = .ok r := by rfl
  have hd : r.get? ⟨1, 1⟩ = some d := rfl
  have he : r.get? ⟨1, 2⟩ = some e := rfl
  have hfd : Formula.compile "" = .ok .identity := by rfl
  have hfe : Formula.compile " " = .ok .identity := by rfl
  obtain ⟨hlow, hshort, hdecode⟩ :=
    @interpret_blank_wraps d (by decide) hfd (by decide) (by decide) nofun
  obtain ⟨hwhole, -⟩ := @interpret_blank_wraps e (by decide) hfe (by decide) (by decide) nofun
  obtain ⟨v, hv, hwrapped, -⟩ := hlow [0x01, 0xFF, 0xFE, 0x99] (by decide)
  obtain rfl : .int16 (-2) = v := (hwrapped _).mp ⟨rfl, -2, rfl, by decide⟩
  obtain ⟨w, hw, -, hlossless⟩ := hwhole [0x12, 0x34] (by decide)
  have htotal : Formula.total [0x12, 0x34] = 0x1234 := by decide
  have hinteger : w.integer? = some (Formula.total [0x12, 0x34] : ℤ) :=
    hlossless (by decide) (by decide)
  rw [htotal] at hinteger
  obtain ⟨f, u, hf, -, hu, -⟩ :=
    hdecode r (standard r) ⟨1, 1⟩ [0x01, 0xFF, 0xFE] (.inl rfl) hd rfl (by decide)
  exact ⟨r, d, e, hr, hd, he, hv, hshort _ (by decide), ⟨w, hw, hinteger⟩,
    f, u, hf, hu (by decide)⟩

theorem interpret_blank_wrapped_mode :
    ∃ r d f, Registry.build [⟨⟨0xC0, 1⟩, "High", "", 1, .uint8, ""⟩] = .ok r ∧
      r.get? ⟨0xC0, 1⟩ = some d ∧ d.source.toList.all Text.isBlank = true ∧
      Formula.compile d.source = .ok d.formula ∧ d.width = 1 ∧ d.type = .uint8 ∧
      (standard r).respond ⟨0xC0, 1⟩ [5] = .ok f ∧ d.interpret [5] = .ok (.uint8 5) ∧
      (standard r).decode f = .error (.notAResponse 0) ∧
      ¬∃ x, (standard r).decode f = .ok x ∧ x.value = .uint8 5 := by
  let d : Descriptor := ⟨⟨0xC0, 1⟩, "High", ⟨0⟩, 1, .uint8, "", .identity⟩
  let r : Registry := ⟨[d], [""]⟩
  have hr : Registry.build [⟨⟨0xC0, 1⟩, "High", "", 1, .uint8, ""⟩] = .ok r := by rfl
  have hf : (standard r).respond ⟨0xC0, 1⟩ [5] =
    .ok ⟨0x7E7, 8, #v[3, 0, 1, 5, 0xCC, 0xCC, 0xCC, 0xCC]⟩ := by rfl
  have hv : d.interpret [5] = .ok (.uint8 5) := by decide
  have hx : (standard r).decode ⟨0x7E7, 8, #v[3, 0, 1, 5, 0xCC, 0xCC, 0xCC, 0xCC]⟩ =
    .error (.notAResponse 0) := by rfl
  have hc : Formula.compile "" = .ok .identity := by rfl
  refine ⟨r, d, _, hr, rfl, by decide, hc, rfl, rfl, hf, hv, hx, ?_⟩
  rintro ⟨x, h, -⟩
  cases hx.symm.trans h

end Codec

end VehiclePid
