import VehiclePid.Proofs.Codec.Basic
import VehiclePid.Proofs.Frame.Text
import VehiclePid.Proofs.Registry.Build

namespace VehiclePid.Codec

variable {c : Codec} {r : Registry} {key : Key} {raw : List UInt8} {d : Descriptor} {f : Frame}

theorem payload_response (hl : raw.length ≤ Frame.maxRaw) :
    (c.response key raw).payload =
      .ofNat (2 + raw.length) :: (key.mode + responseMark) :: key.pid ::
        (raw ++ List.replicate (5 - raw.length) c.addressing.padding) := by
  have hle : raw.length + 3 ≤ 8 := Nat.add_le_add_right hl 3
  have hn : 8 - (raw.length + 3) = 5 - raw.length := by omega
  have hf : (8 : UInt8).toNat = 8 := rfl
  rw [Frame.payload_eq_toList (Nat.le_of_eq hf.symm)]
  refine (@Frame.toList_fill (_ :: _ :: _ :: raw) _ hle).trans ?_
  simp [hn]

theorem headerLength_le_response :
    Frame.headerLength ≤ (c.response key raw).len.toNat :=
  (by decide : Frame.headerLength ≤ (8 : UInt8).toNat)

theorem getElem_response (i : Nat) (h : i < 8) :
    (c.response key raw).data[i] = (.ofNat (2 + raw.length) :: (key.mode + responseMark) ::
      key.pid :: raw).getD i c.addressing.padding := getElem_frame _ _ _ h

theorem toNat_count_response (hl : raw.length ≤ Frame.maxRaw) :
    (c.response key raw).count.toNat = 2 + raw.length := toNat_count_frame _ _ _ _ hl

theorem mark_le {mode : UInt8} (h : mode < 0xC0) : responseMark ≤ mode + responseMark := by
  have h : mode.toNat < 192 := UInt8.lt_iff_toNat_lt.mp h
  have hs : (mode + responseMark).toNat = (mode.toNat + 64) % 256 := UInt8.toNat_add _ _
  have hm : responseMark.toNat = 64 := rfl
  rw [UInt8.le_iff_toNat_le, hs, hm]
  omega

theorem locate_response (hd : c.registry.get? key = some d) (hr : raw.length = d.width.toNat)
    (hl : raw.length ≤ Frame.maxRaw) (hm : key.mode < 0xC0) :
    c.locate (c.response key raw) = .ok (key, d, raw) := by
  rw [locate_eq_ok_iff, payload_response hl, toNat_count_response hl, getElem_response,
    getElem_response]
  refine ⟨headerLength_le_response, mark_le hm, ?_, hd, ?_⟩
  · simp
  · rw [← hr, Nat.add_sub_cancel_left, Nat.min_self]
    simp

theorem mark_wraps {mode : UInt8} (h : 0xC0 ≤ mode) :
    mode + responseMark < responseMark ∧ mode + responseMark = mode - 0xC0 := by
  have hn : responseMark = -0xC0 := rfl
  have h : 192 ≤ mode.toNat := UInt8.le_iff_toNat_le.mp h
  have hlt := mode.toNat_lt
  have hs : (mode + responseMark).toNat = (mode.toNat + 64) % 256 := UInt8.toNat_add _ _
  have hm : responseMark.toNat = 64 := rfl
  refine ⟨?_, by rw [hn, UInt8.sub_eq_add_neg]⟩
  rw [UInt8.lt_iff_toNat_lt, hs, hm]
  omega

/-- A response reads back from its text, and decodes to what it was built from. A mode that the mark
wraps around is not decoded. -/
theorem roundtrip_of_respond {records : List Record} (hr : Registry.build records = .ok r)
    (hc : c.Over r) (h : c.respond key raw = .ok f) :
    Frame.parse f.render = .ok f ∧
      (key.mode < 0xC0 → ∃ d v, r.get? key = some d ∧ d.formula.evaluate raw = .ok v ∧
        c.decode f = .ok ⟨key, d, raw, d.type.cast v⟩) ∧
      (0xC0 ≤ key.mode → c.decode f = .error (.notAResponse (key.mode - 0xC0))) := by
  obtain ⟨hl, ⟨d, hd, hw⟩, rfl⟩ := respond_eq_ok_iff.mp h
  refine ⟨Frame.parse_render_of_full hc.responseId_le rfl, fun hm => ?_, fun hm => ?_⟩
  · have hd' := hd
    rw [hc.registry_eq] at hd'
    obtain ⟨x, -, hx⟩ := (Registry.holds_of_build hr).exists_from hd'
    obtain ⟨v, hv, hi⟩ := hx.interpret_eq (hw ▸ hx.required_le)
    rw [List.take_of_length_le (Nat.le_of_eq hw)] at hv
    exact ⟨d, v, hd', hv, decode_eq_ok_iff.mpr ⟨locate_response hd hw hl hm, hi⟩⟩
  · obtain ⟨hlt, heq⟩ := mark_wraps hm
    have hbyte : (c.response key raw).data[1] = key.mode + responseMark := getElem_response 1 _
    have hu := locate_of_unmarked (c := c) headerLength_le_response (hbyte ▸ hlt)
    rw [decode, hu, hbyte, heq]
    rfl

theorem roundtrip_of_respond_engine_speed :
    ∃ r, Registry.build [⟨⟨1, 0x0C⟩, "Engine Speed", "rpm", 2, .uint16, "(A*256+B)/4"⟩] = .ok r ∧
      (standard r).respond ⟨1, 0x0C⟩ [77, 130] =
        .ok ⟨0x7E7, 8, #v[4, 0x41, 0x0C, 77, 130, 0xCC, 0xCC, 0xCC]⟩ ∧
      Frame.parse (Frame.render ⟨0x7E7, 8, #v[4, 0x41, 0x0C, 77, 130, 0xCC, 0xCC, 0xCC]⟩) =
        .ok ⟨0x7E7, 8, #v[4, 0x41, 0x0C, 77, 130, 0xCC, 0xCC, 0xCC]⟩ ∧
      ∃ d v, r.get? ⟨1, 0x0C⟩ = some d ∧ d.formula.evaluate [77, 130] = .ok v ∧
        (standard r).decode ⟨0x7E7, 8, #v[4, 0x41, 0x0C, 77, 130, 0xCC, 0xCC, 0xCC]⟩ =
          .ok ⟨⟨1, 0x0C⟩, d, [77, 130], d.type.cast v⟩ :=
  let r : Registry := ⟨[⟨⟨1, 0x0C⟩, "Engine Speed", ⟨0⟩, 2, .uint16, "(A*256+B)/4",
    ⟨[.operand 0, .literal (.ofNat 256), .operator .mul, .operand 1, .operator .add,
      .literal (.ofNat 4), .operator .div], 2⟩⟩], ["rpm"]⟩
  have hr : Registry.build
    [⟨⟨1, 0x0C⟩, "Engine Speed", "rpm", 2, .uint16, "(A*256+B)/4"⟩] = .ok r := by rfl
  have hf : (standard r).respond ⟨1, 0x0C⟩ [77, 130] =
    .ok ⟨0x7E7, 8, #v[4, 0x41, 0x0C, 77, 130, 0xCC, 0xCC, 0xCC]⟩ := by rfl
  have h := roundtrip_of_respond hr (.inl rfl) hf
  ⟨r, hr, hf, h.1, h.2.1 (by decide)⟩

example : Frame.render ⟨0x7E7, 8, #v[4, 0x41, 0x0C, 77, 130, 0xCC, 0xCC, 0xCC]⟩ =
    "7E7#04410C4D82CCCCCC" := by rfl

end VehiclePid.Codec
