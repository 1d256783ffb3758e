import VehiclePid.Codec
import VehiclePid.Proofs.Frame.Text
import VehiclePid.Proofs.Registry.Build

namespace VehiclePid

def Addressing.Valid (a : Addressing) : Prop :=
  a.queryId.toNat + a.responseOffset.toNat ≤ Frame.maxId

/-- A codec over a registry, with the standard addressing or one that was accepted. -/
def Codec.Over (c : Codec) (r : Registry) : Prop :=
  c = .standard r ∨ ∃ a, Codec.withAddressing r a = .ok c

namespace Frame

/-- The mode and the parameter id that a frame stores, the mode with its mark, are those of a key. -/
def Addresses (f : Frame) (key : Key) : Prop :=
  responseMark ≤ f.data[1] ∧ key = ⟨f.data[1] - responseMark, f.data[2]⟩

theorem Addresses.congr {f g : Frame} {key : Key} (h : f.Addresses key)
    (hm : g.data[1] = f.data[1]) (hp : g.data[2] = f.data[2]) : g.Addresses key := by
  rw [Addresses, hm, hp]
  exact h

theorem Addresses.mode_lt {f : Frame} {key : Key} (h : f.Addresses key) : key.mode < 0xC0 := by
  obtain ⟨hm, rfl⟩ := h
  have hlt := f.data[1].toNat_lt
  have hs : (f.data[1] - responseMark).toNat = f.data[1].toNat - 64 := UInt8.toNat_sub_of_le _ _ hm
  have hn : (0xC0 : UInt8).toNat = 192 := rfl
  rw [UInt8.lt_iff_toNat_lt, hs, hn]
  omega

/-- How many raw bytes a frame has room for: the count byte and the length code both limit them. -/
def room (f : Frame) : Nat := min (f.count.toNat - 2) (f.payload.length - headerLength)

theorem room_le (f : Frame) : f.room ≤ maxRaw := by
  have hl := f.length_payload
  change min _ (_ - 3) ≤ 5
  omega

end Frame

namespace Codec

variable {c : Codec} {r : Registry} {key : Key} {raw : List UInt8} {d : Descriptor} {f : Frame}

theorem responseId_eq_ok_iff {a : Addressing} {id : UInt16} :
    a.responseId = .ok id ↔ a.Valid ∧ id = a.queryId + a.responseOffset := by
  unfold Addressing.responseId Addressing.Valid
  split
  · rename_i h
    simp [h, eq_comm]
  · rename_i h
    simp [h]

theorem withAddressing_eq_ok_iff {a : Addressing} :
    withAddressing r a = .ok c ↔ a.Valid ∧ c = ⟨r, a, a.queryId + a.responseOffset⟩ := by
  simp only [withAddressing, Except.map_eq_ok_iff, responseId_eq_ok_iff]
  constructor
  · rintro ⟨_, ⟨hv, rfl⟩, rfl⟩
    exact ⟨hv, rfl⟩
  · rintro ⟨hv, rfl⟩
    exact ⟨_, ⟨hv, rfl⟩, rfl⟩

theorem Over.withAddressing_eq (h : c.Over r) : withAddressing r c.addressing = .ok c := by
  obtain rfl | ⟨a, h⟩ := h
  · rfl
  · obtain ⟨-, rfl⟩ := withAddressing_eq_ok_iff.mp h
    exact h

theorem Over.registry_eq (h : c.Over r) : c.registry = r := by
  obtain ⟨-, hc⟩ := withAddressing_eq_ok_iff.mp h.withAddressing_eq
  exact congrArg registry hc

theorem Over.valid (h : c.Over r) : c.addressing.Valid :=
  (withAddressing_eq_ok_iff.mp h.withAddressing_eq).1

theorem Over.toNat_responseId (h : c.Over r) :
    c.responseId.toNat = c.addressing.queryId.toNat + c.addressing.responseOffset.toNat := by
  obtain ⟨hv, hc⟩ := withAddressing_eq_ok_iff.mp h.withAddressing_eq
  have hlt : c.addressing.queryId.toNat + c.addressing.responseOffset.toNat < 2 ^ 16 :=
    Nat.lt_of_le_of_lt hv (by decide)
  rw [show c.responseId = c.addressing.queryId + c.addressing.responseOffset from
    congrArg responseId hc, UInt16.toNat_add, Nat.mod_eq_of_lt hlt]

theorem Over.responseId_le (h : c.Over r) : c.responseId.toNat ≤ Frame.maxId :=
  h.toNat_responseId ▸ h.valid

theorem lookup_eq_ok_iff : c.lookup key = .ok d ↔ c.registry.get? key = some d := by
  rw [lookup, Except.mapError_eq_ok_iff, Registry.lookup_eq_ok_iff]

theorem lookup_eq_error_iff {e : Error} :
    c.lookup key = .error e ↔ c.registry.get? key = none ∧ e = .lookup (.unknownPid key) := by
  rw [lookup, Except.mapError_eq_error_iff]
  simp only [Registry.lookup_eq_error_iff]
  constructor
  · rintro ⟨_, ⟨hk, rfl⟩, rfl⟩
    exact ⟨hk, rfl⟩
  · rintro ⟨hk, rfl⟩
    exact ⟨_, ⟨hk, rfl⟩, rfl⟩

theorem getElem_frame (c : Codec) (id : UInt16) (bytes : List UInt8) {i : Nat} (h : i < 8) :
    (c.frame id bytes).data[i] = bytes.getD i c.addressing.padding := Frame.getElem_fill bytes _ i h

theorem toNat_count_frame (c : Codec) (id : UInt16) (mode pid : UInt8)
    (hl : raw.length ≤ Frame.maxRaw) :
    (c.frame id (.ofNat (2 + raw.length) :: mode :: pid :: raw)).count.toNat = 2 + raw.length := by
  have hle : 2 + raw.length ≤ 7 := Nat.add_le_add_left hl 2
  rw [Frame.count, getElem_frame]
  exact UInt8.toNat_ofNat_of_lt' (Nat.lt_of_le_of_lt hle (by decide))

def question (c : Codec) (key : Key) : Frame :=
  c.frame c.addressing.queryId [2, key.mode, key.pid]

theorem query_eq_ok_iff :
    c.query key = .ok f ↔ (∃ d, c.registry.get? key = some d) ∧
      f = c.question key := by
  rw [query, Except.bind_eq_ok_iff]
  constructor
  · rintro ⟨d, hd, h⟩
    cases h
    exact ⟨⟨d, lookup_eq_ok_iff.mp hd⟩, rfl⟩
  · rintro ⟨⟨d, hd⟩, rfl⟩
    exact ⟨d, lookup_eq_ok_iff.mpr hd, rfl⟩

def response (c : Codec) (key : Key) (raw : List UInt8) : Frame :=
  c.frame c.responseId (.ofNat (2 + raw.length) :: (key.mode + responseMark) :: key.pid :: raw)

theorem respond_eq_ok_iff :
    c.respond key raw = .ok f ↔ raw.length ≤ Frame.maxRaw ∧
      (∃ d, c.registry.get? key = some d ∧ raw.length = d.width.toNat) ∧
      f = c.response key raw := by
  unfold respond
  split
  · rename_i hl
    exact ⟨nofun, fun h => absurd h.1 (Nat.not_le_of_lt hl)⟩
  · rename_i hl
    rw [Except.bind_eq_ok_iff]
    constructor
    · rintro ⟨d, hd, h⟩
      split at h
      · cases h
      · rename_i hw
        cases h
        exact ⟨Nat.le_of_not_lt hl, ⟨d, lookup_eq_ok_iff.mp hd, Decidable.not_not.mp hw⟩, rfl⟩
    · rintro ⟨-, ⟨d, hd, hw⟩, rfl⟩
      refine ⟨d, lookup_eq_ok_iff.mpr hd, ?_⟩
      rw [if_neg (not_not_intro hw)]
      rfl

theorem exists_toList_eq (f : Frame) :
    ∃ r, f.data.toList = f.count :: f.data[1] :: f.data[2] :: r ∧ r.length = 5 := by
  obtain ⟨id, len, ⟨⟨data⟩, hd⟩⟩ := f
  match data, hd with
  | a :: b :: c :: r, hd => exact ⟨r, rfl, by simpa using hd⟩

theorem headers_eq_ok_iff {stored : Key} :
    headers f = .ok stored ↔ Frame.headerLength ≤ f.len.toNat ∧ stored = ⟨f.data[1], f.data[2]⟩ := by
  obtain ⟨r, hr, -⟩ := exists_toList_eq f
  have hp : f.payload = (f.count :: f.data[1] :: f.data[2] :: r).take f.len.toNat := by
    rw [← hr, Frame.payload]
  unfold headers
  rw [hp]
  by_cases hl : Frame.headerLength ≤ f.len.toNat
  · obtain ⟨n, hn⟩ : ∃ n, f.len.toNat = n + 3 := Nat.exists_eq_add_of_le' hl
    simp [hn, Frame.headerLength, eq_comm]
  · have hlen : f.len.toNat = 0 ∨ f.len.toNat = 1 ∨ f.len.toNat = 2 := by
      change ¬3 ≤ _ at hl
      omega
    obtain hn | hn | hn := hlen <;> simp [hn, Frame.headerLength]

theorem locate_eq_ok_iff :
    c.locate f = .ok (key, d, raw) ↔ Frame.headerLength ≤ f.len.toNat ∧
      responseMark ≤ f.data[1] ∧ key = ⟨f.data[1] - responseMark, f.data[2]⟩ ∧
      c.registry.get? key = some d ∧
      raw = (f.payload.drop Frame.headerLength).take
        (min d.width.toNat (f.count.toNat - 2)) := by
  rw [locate, Except.bind_eq_ok_iff]
  constructor
  · rintro ⟨stored, hs, h⟩
    obtain ⟨hl, rfl⟩ := headers_eq_ok_iff.mp hs
    split at h
    · cases h
    · rename_i hm
      obtain ⟨d', hd, h⟩ := Except.bind_eq_ok_iff.mp h
      cases h
      exact ⟨hl, UInt8.not_lt.mp hm, rfl, lookup_eq_ok_iff.mp hd, rfl⟩
  · rintro ⟨hl, hm, rfl, hd, rfl⟩
    refine ⟨_, headers_eq_ok_iff.mpr ⟨hl, rfl⟩, ?_⟩
    rw [if_neg (UInt8.not_lt.mpr hm), Except.bind_eq_ok_iff]
    exact ⟨d, lookup_eq_ok_iff.mpr hd, rfl⟩

theorem addresses_of_locate (h : c.locate f = .ok (key, d, raw)) : f.Addresses key := by
  obtain ⟨-, hm, hk, -, -⟩ := locate_eq_ok_iff.mp h
  exact ⟨hm, hk⟩

theorem length_of_locate (h : c.locate f = .ok (key, d, raw)) :
    raw.length = min d.width.toNat f.room := by
  obtain ⟨-, -, -, -, rfl⟩ := locate_eq_ok_iff.mp h
  rw [List.length_take, List.length_drop, Nat.min_assoc]
  rfl

theorem decode_eq_ok_iff {x : Decoded} :
    c.decode f = .ok x ↔ c.locate f = .ok (x.key, x.descriptor, x.raw) ∧
      x.descriptor.interpret x.raw = .ok x.value := by
  rw [decode, Except.bind_eq_ok_iff]
  constructor
  · rintro ⟨⟨key, d, raw⟩, hl, h⟩
    obtain ⟨v, hv, h⟩ := Except.bind_eq_ok_iff.mp h
    cases h
    exact ⟨hl, Except.mapError_eq_ok_iff.mp hv⟩
  · rintro ⟨hl, hv⟩
    refine ⟨_, hl, Except.bind_eq_ok_iff.mpr ⟨x.value, ?_, rfl⟩⟩
    exact Except.mapError_eq_ok_iff.mpr hv

theorem locate_of_unmarked (hl : Frame.headerLength ≤ f.len.toNat) (hm : f.data[1] < responseMark) :
    c.locate f = .error (.notAResponse f.data[1]) := by
  rw [locate, headers_eq_ok_iff.mpr ⟨hl, rfl⟩]
  exact if_pos hm

theorem respond_of_length_ne (hl : raw.length ≤ Frame.maxRaw) (hd : c.registry.get? key = some d)
    (hw : raw.length ≠ d.width.toNat) :
    c.respond key raw = .error (.lengthMismatch key d.width.toNat raw.length) := by
  rw [respond, if_neg (Nat.not_lt_of_le hl), lookup_eq_ok_iff.mpr hd]
  exact if_pos hw

end Codec

end VehiclePid
