import VehiclePid.Proofs.Codec.Relevance
import VehiclePid.Proofs.Codec.Storing

namespace VehiclePid

theorem Descriptor.maxRaw_lt_required_iff {d : Descriptor} (hw : Frame.maxRaw < d.width.toNat) :
    Frame.maxRaw < d.required ↔ d.formula.isIdentity = true ∨ Frame.maxRaw < d.formula.operands := by
  unfold required
  split <;> rename_i hi <;> simp [hi, hw]

namespace Codec

variable {c : Codec} {r : Registry} {records : List Record} {key : Key} {d : Descriptor} {f : Frame}
  {raw : List UInt8}

theorem room_response (hl : raw.length ≤ Frame.maxRaw) :
    (c.response key raw).room = raw.length := by
  have hl' : raw.length ≤ 8 - 3 := hl
  have hp : (c.response key raw).payload.length = 8 := Frame.length_payload _
  rw [Frame.room, toNat_count_response hl, hp, Nat.add_sub_cancel_left, Nat.min_eq_left hl']

theorem addresses_response (hm : key.mode < 0xC0) : (c.response key raw).Addresses key := by
  rw [Frame.Addresses, getElem_response, getElem_response]
  refine ⟨mark_le hm, ?_⟩
  simp

theorem respond_of_wide (hd : c.registry.get? key = some d) (hw : Frame.maxRaw < d.width.toNat)
    (raw : List UInt8) : ∃ e, c.respond key raw = .error e := by
  apply Except.exists_eq_error_iff.mpr
  rintro ⟨f, hf⟩
  obtain ⟨hl, ⟨d', hd', hr⟩, -⟩ := respond_eq_ok_iff.mp hf
  obtain rfl : d = d' := Option.some.inj (hd.symm.trans hd')
  omega

/-- What no frame has room for is not decoded, and what one has room for is decoded from a response
that is just as long. -/
theorem refused_iff {y : Record} (hy : d.From y) (hd : c.registry.get? key = some d) :
    (∀ f, f.Addresses key → ∃ e, c.decode f = .error e) ↔
      Frame.maxRaw < d.required ∨ 0xC0 ≤ key.mode := by
  constructor
  · intro h
    by_contra hn
    rw [not_or, Nat.not_lt, UInt8.not_le] at hn
    obtain ⟨hr, hm⟩ := hn
    have hl : (List.replicate d.required (0 : UInt8)).length ≤ Frame.maxRaw := by simpa using hr
    have ha : (c.response key (List.replicate d.required 0)).Addresses key := addresses_response hm
    have hroom : d.required ≤ (c.response key (List.replicate d.required 0)).room := by
      simp [room_response hl]
    have hx := (exists_decode_iff hy ha hd).mpr ⟨headerLength_le_response, hroom⟩
    exact Except.exists_eq_error_iff.mp (h _ ha) hx
  · rintro (hr | hm) f ha
    · have hroom := f.room_le
      apply Except.exists_eq_error_iff.mpr
      rw [exists_decode_iff hy ha hd]
      rintro ⟨-, h⟩
      omega
    · exact absurd ha.mode_lt (UInt8.not_lt.mpr hm)

/-- A parameter wider than a frame's raw bytes is never framed. It is never decoded just when its
formula needs more than those, unless no frame can be about it. -/
theorem wide_refused_iff (hr : Registry.build records = .ok r) (hc : c.Over r)
    (hd : r.get? key = some d) (hw : Frame.maxRaw < d.width.toNat) :
    (∀ raw, ∃ e, c.respond key raw = .error e) ∧
      ((∀ f, f.Addresses key → (∃ e, c.decode f = .error e) ∧
          ∀ out, ∃ e, (c.store f).run.run out = (.error e, out)) ↔
        d.formula.isIdentity = true ∨ Frame.maxRaw < d.formula.operands ∨ 0xC0 ≤ key.mode) := by
  obtain ⟨y, -, hy⟩ := (Registry.holds_of_build hr).exists_from hd
  rw [← hc.registry_eq] at hd
  refine ⟨respond_of_wide hd hw, ?_⟩
  rw [← or_assoc, ← Descriptor.maxRaw_lt_required_iff hw, ← refused_iff hy hd]
  constructor
  · intro h f ha
    exact (h f ha).1
  · intro h f ha
    obtain ⟨e, he⟩ := h f ha
    exact ⟨⟨e, he⟩, fun out => ⟨e, store_of_error he out⟩⟩

theorem wide_refused_iff_identity :
    ∃ r d, Registry.build [⟨⟨1, 0x42⟩, "Wide", "", 6, .uint32, ""⟩] = .ok r ∧
      r.get? ⟨1, 0x42⟩ = some d ∧ Frame.maxRaw < d.width.toNat ∧
      (∃ e, (standard r).respond ⟨1, 0x42⟩ [1, 2, 3, 4, 5, 6] = .error e) ∧
      ∃ e, (standard r).decode ⟨0x7E7, 8, #v[8, 0x41, 0x42, 1, 2, 3, 4, 5]⟩ = .error e :=
  let d : Descriptor := ⟨⟨1, 0x42⟩, "Wide", ⟨0⟩, 6, .uint32, "", .identity⟩
  let r : Registry := ⟨[d], [""]⟩
  have hr : Registry.build [⟨⟨1, 0x42⟩, "Wide", "", 6, .uint32, ""⟩] = .ok r := by rfl
  have hd : r.get? ⟨1, 0x42⟩ = some d := rfl
  have h := wide_refused_iff hr (.inl rfl) hd (by decide)
  ⟨r, d, hr, hd, by decide, h.1 _, (h.2.mpr (.inl rfl) _ ⟨by decide, rfl⟩).1⟩

theorem wide_decoded :
    ∃ r d, Registry.build [⟨⟨1, 0x42⟩, "Wide", "", 6, .uint8, "A"⟩] = .ok r ∧
      r.get? ⟨1, 0x42⟩ = some d ∧ d.width = 6 ∧
      Frame.Addresses ⟨0x7E7, 8, #v[8, 0x41, 0x42, 1, 2, 3, 4, 5]⟩ ⟨1, 0x42⟩ ∧
      (standard r).decode ⟨0x7E7, 8, #v[8, 0x41, 0x42, 1, 2, 3, 4, 5]⟩ =
        .ok ⟨⟨1, 0x42⟩, d, [1, 2, 3, 4, 5], .uint8 1⟩ ∧
      ((standard r).store ⟨0x7E7, 8, #v[8, 0x41, 0x42, 1, 2, 3, 4, 5]⟩).run.run [0, 0] =
        (.ok 1, [1, 0]) :=
  let d : Descriptor := ⟨⟨1, 0x42⟩, "Wide", ⟨0⟩, 6, .uint8, "A", ⟨[.operand 0], 1⟩⟩
  let r : Registry := ⟨[d], [""]⟩
  ⟨r, d, by rfl, rfl, rfl, ⟨by decide, rfl⟩, by rfl, by rfl⟩

end Codec

end VehiclePid
