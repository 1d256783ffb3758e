import VehiclePid.Proofs.Codec.Reencoding

namespace VehiclePid.Codec

variable {c : Codec} {r : Registry} {records : List Record} {key : Key} {raw : List UInt8}
  {d : Descriptor} {f g : Frame} {x : Decoded}

theorem exists_locate_iff (ha : f.Addresses key) (hd : c.registry.get? key = some d) :
    (∃ raw, c.locate f = .ok (key, d, raw)) ↔ Frame.headerLength ≤ f.len.toNat := by
  constructor
  · rintro ⟨raw, h⟩
    exact (locate_eq_ok_iff.mp h).1
  · intro h
    exact ⟨_, locate_eq_ok_iff.mpr ⟨h, ha.1, ha.2, hd, rfl⟩⟩

/-- A frame that is about a registered parameter decodes just when it has the header and room for
the bytes that the value needs. -/
theorem exists_decode_iff {y : Record} (hy : d.From y) (ha : f.Addresses key)
    (hd : c.registry.get? key = some d) :
    (∃ x, c.decode f = .ok x) ↔ Frame.headerLength ≤ f.len.toNat ∧ d.required ≤ f.room := by
  have hle := hy.required_le
  rw [← exists_locate_iff ha hd]
  constructor
  · rintro ⟨⟨key', d', raw, v⟩, hx⟩
    obtain ⟨hl, hv⟩ := decode_eq_ok_iff.mp hx
    obtain ⟨-, -, hk, hd', -⟩ := locate_eq_ok_iff.mp hl
    obtain rfl : key = key' := ha.2.trans hk.symm
    obtain rfl : d = d' := Option.some.inj (hd.symm.trans hd')
    have hn := hy.exists_interpret_iff.mp ⟨v, hv⟩
    have hlen := length_of_locate hl
    exact ⟨⟨raw, hl⟩, by omega⟩
  · rintro ⟨⟨raw, hl⟩, hn⟩
    have hlen := length_of_locate hl
    have hr : d.required ≤ raw.length := by omega
    obtain ⟨v, hv⟩ := hy.exists_interpret_iff.mpr hr
    exact ⟨⟨key, d, raw, v⟩, decode_eq_ok_iff.mpr ⟨hl, hv⟩⟩

theorem take_of_locate {n : Nat} (h : c.locate f = .ok (key, d, raw)) (hn : n ≤ raw.length) :
    raw.take n = (f.data.toList.drop 3).take n := by
  obtain ⟨more, hm⟩ := isPrefix_of_locate h
  rw [← hm, List.take_append_of_le_length hn]

theorem take_drop_eq {data data' : Vector UInt8 8} {n : Nat}
    (h : ∀ i < 3 + n, 3 ≤ i → data[i]? = data'[i]?) :
    (data.toList.drop 3).take n = (data'.toList.drop 3).take n := by
  apply List.ext_getElem?
  intro i
  rw [List.getElem?_take, List.getElem?_take]
  by_cases hi : i < n
  · rw [if_pos hi, if_pos hi, List.getElem?_drop, List.getElem?_drop, Vector.getElem?_toList,
      Vector.getElem?_toList]
    exact h (3 + i) (by omega) (by omega)
  · rw [if_neg hi, if_neg hi]

theorem locate_congr {n : Nat} (hx : c.locate f = .ok (key, d, raw))
    (hl : Frame.headerLength ≤ g.len.toNat)
    (hd : ∀ i < 3 + n, 1 ≤ i → g.data[i]? = f.data[i]?) :
    ∃ raw', c.locate g = .ok (key, d, raw') := by
  obtain ⟨-, -, -, hr, -⟩ := locate_eq_ok_iff.mp hx
  have hm : g.data[1] = f.data[1] := Option.some.inj (hd 1 (by omega) (by omega))
  have hp : g.data[2] = f.data[2] := Option.some.inj (hd 2 (by omega) (by omega))
  exact (exists_locate_iff ((addresses_of_locate hx).congr hm hp) hr).mpr hl

theorem decode_congr {y : Record} (hy : x.descriptor.From y) (h : c.decode f = .ok x)
    (hl : Frame.headerLength ≤ g.len.toNat) (hr : x.descriptor.required ≤ g.room)
    (hd : ∀ i < 3 + x.descriptor.required, 1 ≤ i → g.data[i]? = f.data[i]?) :
    ∃ raw, c.decode g = .ok { x with raw := raw } := by
  obtain ⟨hf, hv⟩ := decode_eq_ok_iff.mp h
  obtain ⟨raw, hg⟩ := locate_congr hf hl hd
  have hle := hy.required_le
  have hlen := length_of_locate hg
  have hn := hy.exists_interpret_iff.mp ⟨_, hv⟩
  have ht : raw.take x.descriptor.required = x.raw.take x.descriptor.required := by
    rw [take_of_locate hg (by omega), take_of_locate hf hn]
    exact take_drop_eq fun i hi _ => hd i hi (by omega)
  exact ⟨raw, decode_eq_ok_iff.mpr ⟨hg, (hy.interpret_congr ht).trans hv⟩⟩

theorem decode_eq_of_padding (h : c.decode f = .ok x) (hl : g.len = f.len)
    (hd : ∀ i < 3 + x.raw.length, g.data[i]? = f.data[i]?) : c.decode g = .ok x := by
  obtain ⟨hf, hv⟩ := decode_eq_ok_iff.mp h
  have hlf := (locate_eq_ok_iff.mp hf).1
  obtain ⟨raw, hg⟩ := locate_congr (g := g) hf (hl ▸ hlf) fun i hi _ => hd i hi
  have hc : g.count = f.count := Option.some.inj (hd 0 (by omega))
  have hroom : g.room = f.room := by
    rw [Frame.room, Frame.room, hc, Frame.length_payload, Frame.length_payload, hl]
  have hlen : raw.length = x.raw.length := by
    rw [length_of_locate hg, length_of_locate hf, hroom]
  have ht : raw.take raw.length = x.raw.take x.raw.length := by
    rw [take_of_locate hg (Nat.le_refl _), take_of_locate hf (Nat.le_refl _), hlen]
    exact take_drop_eq fun i hi _ => hd i hi
  rw [List.take_length, List.take_length] at ht
  exact decode_eq_ok_iff.mpr ⟨ht ▸ hg, hv⟩

/-- A value depends on its key and the required bytes only. Neither a longer frame, nor a larger count,
nor other padding changes it. -/
theorem decode_eq_of_required (hr : Registry.build records = .ok r) (hc : c.Over r)
    (h : c.decode f = .ok x) :
    (∀ g : Frame, 3 + x.descriptor.required ≤ g.payload.length →
      2 + x.descriptor.required ≤ g.count.toNat →
      (∀ i < 3 + x.descriptor.required, 1 ≤ i → g.data[i]? = f.data[i]?) →
      ∃ raw, c.decode g = .ok { x with raw := raw }) ∧
    (∀ g : Frame, f.len ≤ g.len → f.count ≤ g.count →
      (∀ i < 3 + x.descriptor.required, 1 ≤ i → g.data[i]? = f.data[i]?) →
      ∃ raw, c.decode g = .ok { x with raw := raw }) ∧
    (∀ g : Frame, g.len = f.len → (∀ i < 3 + x.raw.length, g.data[i]? = f.data[i]?) →
      c.decode g = .ok x) := by
  obtain ⟨hloc, -⟩ := decode_eq_ok_iff.mp h
  obtain ⟨-, -, -, hd, -⟩ := locate_eq_ok_iff.mp hloc
  rw [hc.registry_eq] at hd
  obtain ⟨y, -, hy⟩ := (Registry.holds_of_build hr).exists_from hd
  refine ⟨fun g hp hn => ?_, fun g hl hn => ?_, fun g => decode_eq_of_padding h⟩
  · have hl := g.length_payload
    apply decode_congr hy h
    · change 3 ≤ _
      omega
    · refine Nat.le_min.mpr ⟨by omega, ?_⟩
      change _ ≤ _ - 3
      omega
  · rw [← hc.registry_eq] at hd
    obtain ⟨hlf, hrf⟩ := (exists_decode_iff hy (addresses_of_locate hloc) hd).mp ⟨x, h⟩
    have hl := UInt8.le_iff_toNat_le.mp hl
    have hn := UInt8.le_iff_toNat_le.mp hn
    refine decode_congr hy h (Nat.le_trans hlf hl) (Nat.le_trans hrf ?_)
    unfold Frame.room
    rw [Frame.length_payload, Frame.length_payload]
    omega

theorem decode_eq_of_required_engine_speed :
    ∃ r d, Registry.build [⟨⟨1, 0x0C⟩, "Engine Speed", "rpm", 2, .uint16, "A*64"⟩] = .ok r ∧
      d.required = 1 ∧
      (standard r).decode ⟨0x7E7, 4, #v[3, 0x41, 0x0C, 77, 130, 1, 2, 3]⟩ =
        .ok ⟨⟨1, 0x0C⟩, d, [77], .uint16 4928⟩ ∧
      (∃ raw, (standard r).decode ⟨0x123, 12, #v[0x20, 0x41, 0x0C, 77, 5, 6, 7, 8]⟩ =
        .ok ⟨⟨1, 0x0C⟩, d, raw, .uint16 4928⟩) ∧
      (∃ raw, (standard r).decode ⟨0x7E7, 8, #v[3, 0x41, 0x0C, 77, 130, 1, 2, 3]⟩ =
        .ok ⟨⟨1, 0x0C⟩, d, raw, .uint16 4928⟩) ∧
      (standard r).decode ⟨0x456, 4, #v[3, 0x41, 0x0C, 77, 0, 0, 0, 0]⟩ =
        .ok ⟨⟨1, 0x0C⟩, d, [77], .uint16 4928⟩ :=
  let d : Descriptor := ⟨⟨1, 0x0C⟩, "Engine Speed", ⟨0⟩, 2, .uint16, "A*64",
    ⟨[.operand 0, .literal (.ofNat 64), .operator .mul], 1⟩⟩
  let r : Registry := ⟨[d], ["rpm"]⟩
  have hr : Registry.build
    [⟨⟨1, 0x0C⟩, "Engine Speed", "rpm", 2, .uint16, "A*64"⟩] = .ok r := by rfl
  have hf : (standard r).decode ⟨0x7E7, 4, #v[3, 0x41, 0x0C, 77, 130, 1, 2, 3]⟩ =
    .ok ⟨⟨1, 0x0C⟩, d, [77], .uint16 4928⟩ := by rfl
  have h := decode_eq_of_required hr (.inl rfl) hf
  ⟨r, d, hr, rfl, hf, h.1 _ (by decide) (by decide) (by decide),
    h.2.1 _ (by decide) (by decide) (by decide), h.2.2 _ rfl (by decide)⟩

end VehiclePid.Codec
