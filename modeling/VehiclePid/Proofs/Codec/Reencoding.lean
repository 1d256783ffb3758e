import VehiclePid.Proofs.Codec.Response

namespace VehiclePid.Codec

variable {c : Codec} {key : Key} {raw : List UInt8} {d : Descriptor} {f : Frame}

theorem length_le_of_locate (h : c.locate f = .ok (key, d, raw)) : raw.length ≤ Frame.maxRaw := by
  rw [length_of_locate h]
  exact Nat.le_trans (Nat.min_le_right _ _) f.room_le

theorem isPrefix_of_locate (h : c.locate f = .ok (key, d, raw)) : raw <+: f.data.toList.drop 3 := by
  obtain ⟨-, -, -, -, rfl⟩ := locate_eq_ok_iff.mp h
  rw [Frame.payload, List.drop_take, List.take_take]
  exact List.take_prefix _ _

theorem drop_take_of_locate (h : c.locate f = .ok (key, d, raw)) :
    (f.data.toList.take (3 + raw.length)).drop 1 = (key.mode + responseMark) :: key.pid :: raw := by
  have hraw := List.prefix_iff_eq_take.mp (isPrefix_of_locate h)
  obtain ⟨r, hr, -⟩ := exists_toList_eq f
  obtain ⟨-, -, rfl, -, -⟩ := locate_eq_ok_iff.mp h
  rw [hr, List.drop_succ_cons, List.drop_succ_cons, List.drop_succ_cons, List.drop_zero] at hraw
  rw [hr, Nat.add_comm, List.take_succ_cons, List.take_succ_cons, List.take_succ_cons, ← hraw,
    UInt8.sub_add_cancel]
  rfl

/-- What a frame decodes to can be built, and decodes to the same, if its raw bytes fill the declared
width; if not, that is why it cannot. -/
theorem respond_of_decode {x : Decoded} (h : c.decode f = .ok x) :
    (x.raw.length = x.descriptor.width.toNat →
      ∃ g, c.respond x.key x.raw = .ok g ∧
        (g.data.toList.take (3 + x.descriptor.width.toNat)).drop 1 =
          (f.data.toList.take (3 + x.descriptor.width.toNat)).drop 1 ∧
        c.decode g = .ok x) ∧
      (x.raw.length ≠ x.descriptor.width.toNat →
        c.respond x.key x.raw =
          .error (.lengthMismatch x.key x.descriptor.width.toNat x.raw.length)) := by
  obtain ⟨hloc, hv⟩ := decode_eq_ok_iff.mp h
  have hl := length_le_of_locate hloc
  obtain ⟨-, -, -, hd, -⟩ := locate_eq_ok_iff.mp hloc
  refine ⟨fun hw => ?_, respond_of_length_ne hl hd⟩
  have hg := locate_response hd hw hl (addresses_of_locate hloc).mode_lt
  refine ⟨c.response x.key x.raw, respond_eq_ok_iff.mpr ⟨hl, ⟨_, hd, hw⟩, rfl⟩, ?_, ?_⟩
  · rw [← hw, drop_take_of_locate hg, drop_take_of_locate hloc]
  · exact decode_eq_ok_iff.mpr ⟨hg, hv⟩

theorem respond_of_decode_foreign :
    ∃ r d, Registry.build [⟨⟨1, 0x0C⟩, "Engine Speed", "rpm", 2, .uint16, "A*64"⟩] = .ok r ∧
      (standard r).decode ⟨0x123, 12, #v[0x20, 0x41, 0x0C, 77, 130, 1, 2, 3]⟩ =
        .ok ⟨⟨1, 0x0C⟩, d, [77, 130], .uint16 4928⟩ ∧
      (∃ g, (standard r).respond ⟨1, 0x0C⟩ [77, 130] = .ok g ∧
        (g.data.toList.take 5).drop 1 = [0x41, 0x0C, 77, 130] ∧
        (standard r).decode g = .ok ⟨⟨1, 0x0C⟩, d, [77, 130], .uint16 4928⟩) ∧
      (standard r).decode ⟨0x123, 12, #v[3, 0x41, 0x0C, 77, 130, 1, 2, 3]⟩ =
        .ok ⟨⟨1, 0x0C⟩, d, [77], .uint16 4928⟩ ∧
      (standard r).respond ⟨1, 0x0C⟩ [77] = .error (.lengthMismatch ⟨1, 0x0C⟩ 2 1) :=
  let d : Descriptor := ⟨⟨1, 0x0C⟩, "Engine Speed", ⟨0⟩, 2, .uint16, "A*64",
    ⟨[.operand 0, .literal (.ofNat 64), .operator .mul], 1⟩⟩
  let r : Registry := ⟨[d], ["rpm"]⟩
  have hr : Registry.build
    [⟨⟨1, 0x0C⟩, "Engine Speed", "rpm", 2, .uint16, "A*64"⟩] = .ok r := by rfl
  have hf : (standard r).decode ⟨0x123, 12, #v[0x20, 0x41, 0x0C, 77, 130, 1, 2, 3]⟩ =
    .ok ⟨⟨1, 0x0C⟩, d, [77, 130], .uint16 4928⟩ := by rfl
  have hs : (standard r).decode ⟨0x123, 12, #v[3, 0x41, 0x0C, 77, 130, 1, 2, 3]⟩ =
    .ok ⟨⟨1, 0x0C⟩, d, [77], .uint16 4928⟩ := by rfl
  ⟨r, d, hr, hf, (respond_of_decode hf).1 rfl, hs, (respond_of_decode hs).2 (by decide)⟩

end VehiclePid.Codec
