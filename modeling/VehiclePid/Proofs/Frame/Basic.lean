import VehiclePid.Frame

namespace VehiclePid.Frame

@[simp] theorem getElem_fill (bytes : List UInt8) (filler : UInt8) (i : Nat) (h : i < 8) :
    (fill bytes filler)[i] = bytes.getD i filler := by
  simp [fill]

theorem toList_fill {bytes : List UInt8} (filler : UInt8) (h : bytes.length ≤ 8) :
    (fill bytes filler).toList = bytes ++ List.replicate (8 - bytes.length) filler := by
  apply List.ext_getElem
  · simp
    omega
  · intro i hi hi'
    rw [Vector.getElem_toList, getElem_fill, List.getElem_append, List.getD_eq_getElem?_getD]
    split
    · rename_i hb
      rw [List.getElem?_eq_getElem hb, Option.getD_some]
    · rename_i hb
      rw [List.getElem?_eq_none (Nat.le_of_not_lt hb), Option.getD_none, List.getElem_replicate]

theorem payload_eq_toList {f : Frame} (h : 8 ≤ f.len.toNat) : f.payload = f.data.toList :=
  List.take_of_length_le (by simpa using h)

theorem length_payload (f : Frame) : f.payload.length = min f.len.toNat 8 := by
  simp [payload]

theorem length_payload_le (f : Frame) : f.payload.length ≤ 8 :=
  length_payload f ▸ Nat.min_le_right _ _

/-- What the text of a frame keeps: the bytes that the length code covers, then zeros. -/
def normal (f : Frame) : Frame := ⟨f.id, .ofNat f.payload.length, fill f.payload 0⟩

theorem toNat_len_normal (f : Frame) : f.normal.len.toNat = min f.len.toNat 8 := by
  have hlt : f.payload.length < 256 := Nat.lt_of_le_of_lt (length_payload_le f) (by decide)
  rw [← length_payload]
  exact UInt8.toNat_ofNat_of_lt' hlt

theorem toList_normal (f : Frame) : f.normal.data.toList =
    f.payload ++ List.replicate (8 - min f.len.toNat 8) 0 := by
  rw [normal, toList_fill 0 (length_payload_le f), length_payload]

theorem getElem_normal (f : Frame) (i : Nat) (h : i < 8) :
    f.normal.data[i] = if i < f.len.toNat then f.data[i] else 0 := by
  rw [normal, getElem_fill, payload, List.getD_eq_getElem?_getD, List.getElem?_take,
    Vector.getElem?_toList, Vector.getElem?_eq_getElem h]
  split <;> rfl

theorem normal_eq_self_iff {f : Frame} : f.normal = f ↔
    f.len.toNat ≤ 8 ∧ ∀ i (h : i < 8), f.len.toNat ≤ i → f.data[i] = 0 := by
  constructor
  · intro h
    have hlen := toNat_len_normal f
    rw [h] at hlen
    refine ⟨by omega, fun i hi hle => ?_⟩
    have hdata := getElem_normal f i hi
    rwa [h, if_neg (Nat.not_lt.mpr hle)] at hdata
  · rintro ⟨hlen, hzero⟩
    have hl : f.normal.len = f.len := by
      rw [← UInt8.toNat_inj, toNat_len_normal, Nat.min_eq_left hlen]
    have hd : f.normal.data = f.data := by
      apply Vector.ext
      intro i hi
      rw [getElem_normal]
      split
      · rfl
      · rename_i hn
        exact (hzero i hi (Nat.le_of_not_lt hn)).symm
    calc
      f.normal = ⟨f.id, f.normal.len, f.normal.data⟩ := rfl
      _ = f := by rw [hl, hd]

end VehiclePid.Frame
