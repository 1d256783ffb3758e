import VehiclePid.Proofs.Registry.Contents
import VehiclePid.Proofs.Schema.Loading
import VehiclePid.Schema.Yaml

namespace VehiclePid

/-- A full frame that holds a header, raw bytes and then padding. -/
structure Frame.Laid (f : Frame) (mode pid : UInt8) (raw : List UInt8) (padding : UInt8) :
    Prop where
  len_eq : f.len = 8
  count_eq : f.count.toNat = 2 + raw.length
  mode_eq : f.data[1]? = some mode
  pid_eq : f.data[2]? = some pid
  raw_eq : ∀ i < raw.length, f.data[3 + i]? = raw[i]?
  /-- The count says where the padding begins. -/
  padding_eq : ∀ i < 8, f.count.toNat < i → f.data[i]? = some padding
  headers_eq : Codec.headers f = .ok ⟨mode, pid⟩

namespace Codec

variable {c : Codec} {r : Registry} {key : Key} {raw : List UInt8} {d : Descriptor} {f : Frame}
  {a : Addressing} {s : Schema}

theorem getElem?_frame (c : Codec) (id : UInt16) (bytes : List UInt8) {i : Nat} (h : i < 8) :
    (c.frame id bytes).data[i]? = some (bytes.getD i c.addressing.padding) := by
  rw [Vector.getElem?_eq_getElem h, getElem_frame]

theorem laid_frame (c : Codec) (id : UInt16) (mode pid : UInt8) (hl : raw.length ≤ Frame.maxRaw) :
    (c.frame id (.ofNat (2 + raw.length) :: mode :: pid :: raw)).Laid mode pid raw
      c.addressing.padding := by
  have hcount := c.toNat_count_frame id mode pid hl
  have hl : raw.length ≤ 5 := hl
  refine ⟨rfl, hcount, getElem?_frame _ _ _ (by decide), getElem?_frame _ _ _ (by decide),
    fun i hi => ?_, fun i h hi => ?_, ?_⟩
  · rw [getElem?_frame _ _ _ (by omega), List.getD_eq_getElem?_getD, Nat.add_comm 3 i,
      List.getElem?_cons_succ, List.getElem?_cons_succ, List.getElem?_cons_succ,
      List.getElem?_eq_getElem hi, Option.getD_some]
  · rw [hcount] at hi
    rw [getElem?_frame _ _ _ h, List.getD_eq_getElem?_getD, List.getElem?_eq_none,
      Option.getD_none]
    simp only [List.length_cons]
    omega
  · rw [headers_eq_ok_iff, getElem_frame, getElem_frame]
    exact ⟨(by decide : Frame.headerLength ≤ (8 : UInt8).toNat), rfl⟩

theorem exists_withAddressing_iff : (∃ c, withAddressing r a = .ok c) ↔ a.Valid := by
  simp only [withAddressing_eq_ok_iff]
  exact ⟨fun ⟨_, hv, _⟩ => hv, fun hv => ⟨_, hv, rfl⟩⟩

theorem valid_of_parse {format : Schema.FileFormat} {text : String}
    (h : format.parse text = .ok s) : s.addressing.Valid := by
  unfold Schema.FileFormat.parse at h
  split at h
  · cases h
  · rename_i file _
    obtain ⟨xs, -, rfl⟩ := Schema.exists_denotes_of_ofFile h
    exact (Schema.exists_ofFile_iff.mp ⟨_, h⟩).1

theorem respond_of_large (h : Frame.maxRaw < raw.length) :
    c.respond key raw = .error (.rawTooLarge raw.length) := if_pos h

theorem respond_of_unknown (hl : raw.length ≤ Frame.maxRaw) (hk : c.registry.get? key = none) :
    c.respond key raw = .error (.lookup (.unknownPid key)) := by
  rw [respond, if_neg (Nat.not_lt_of_le hl), lookup_eq_error_iff.mpr ⟨hk, rfl⟩]
  rfl

theorem Over.laid_of_query (h : c.Over r) (hf : c.query key = .ok f) :
    f.id = c.addressing.queryId ∧ f.id.toNat ≤ 0x7FF ∧
      f.Laid key.mode key.pid [] c.addressing.padding := by
  obtain ⟨-, rfl⟩ := query_eq_ok_iff.mp hf
  have hid : c.addressing.queryId.toNat ≤ 0x7FF := Nat.le_trans (Nat.le_add_right _ _) h.valid
  have hcount : (2 : UInt8) = .ofNat (2 + ([] : List UInt8).length) := rfl
  have hnone : ([] : List UInt8).length ≤ Frame.maxRaw := Nat.zero_le _
  rw [question, hcount]
  exact ⟨rfl, hid, c.laid_frame c.addressing.queryId key.mode key.pid hnone⟩

theorem Over.laid_of_respond (h : c.Over r) (hf : c.respond key raw = .ok f) :
    f.id.toNat = c.addressing.queryId.toNat + c.addressing.responseOffset.toNat ∧
      f.id.toNat ≤ 0x7FF ∧ f.Laid (key.mode + 0x40) key.pid raw c.addressing.padding := by
  obtain ⟨hl, -, rfl⟩ := respond_eq_ok_iff.mp hf
  exact ⟨h.toNat_responseId, h.responseId_le, c.laid_frame _ _ _ hl⟩

/-- The frames that a codec builds over a registry, and the errors where it builds none. -/
structure Builds (c : Codec) (r : Registry) : Prop where
  exists_query_iff : ∀ key, (∃ f, c.query key = .ok f) ↔ r.contains key = true
  laid_of_query : ∀ key f, c.query key = .ok f →
    f.id = c.addressing.queryId ∧ f.id.toNat ≤ 0x7FF ∧
      f.Laid key.mode key.pid [] c.addressing.padding
  respond_of_large : ∀ key (raw : List UInt8), 5 < raw.length →
    c.respond key raw = .error (.rawTooLarge raw.length)
  respond_of_unknown : ∀ key (raw : List UInt8), raw.length ≤ 5 → r.get? key = none →
    c.respond key raw = .error (.lookup (.unknownPid key))
  respond_of_length_ne : ∀ key (raw : List UInt8) d, raw.length ≤ 5 → r.get? key = some d →
    raw.length ≠ d.width.toNat →
    c.respond key raw = .error (.lengthMismatch key d.width.toNat raw.length)
  exists_response : ∀ key (raw : List UInt8) d, raw.length ≤ 5 → r.get? key = some d →
    raw.length = d.width.toNat → ∃ f, c.respond key raw = .ok f
  laid_of_respond : ∀ key raw f, c.respond key raw = .ok f →
    f.id.toNat = c.addressing.queryId.toNat + c.addressing.responseOffset.toNat ∧
      f.id.toNat ≤ 0x7FF ∧ f.Laid (key.mode + 0x40) key.pid raw c.addressing.padding

theorem Over.builds (h : c.Over r) : c.Builds r where
  exists_query_iff key := by
    simp only [query_eq_ok_iff, h.registry_eq, Registry.contains_iff_exists_get?]
    exact ⟨fun ⟨_, hd, _⟩ => hd, fun hd => ⟨_, hd, rfl⟩⟩
  laid_of_query _ _ := h.laid_of_query
  respond_of_large _ _ := respond_of_large
  respond_of_unknown _ _ hl hk := respond_of_unknown hl (h.registry_eq ▸ hk)
  respond_of_length_ne _ _ _ hl hd := respond_of_length_ne hl (h.registry_eq ▸ hd)
  exists_response key raw d hl hd hw :=
    ⟨_, respond_eq_ok_iff.mpr ⟨hl, ⟨d, h.registry_eq ▸ hd, hw⟩, rfl⟩⟩
  laid_of_respond _ _ _ := h.laid_of_respond

/-- An addressing is accepted if both identifiers have 11 bits, as that of every schema has that was
read, and then each frame that is built has one of the two and the layout of its kind. -/
theorem built_frames_laid :
    (∀ (r : Registry) (a : Addressing),
      ((∃ c, withAddressing r a = .ok c) ↔
        a.queryId.toNat ≤ 0x7FF ∧ a.queryId.toNat + a.responseOffset.toNat ≤ 0x7FF) ∧
      ∀ c, withAddressing r a = .ok c → c.registry = r ∧ c.addressing = a) ∧
    (∀ (format : Schema.FileFormat) text s, format.parse text = .ok s →
      ∀ r, ∃ c, withAddressing r s.addressing = .ok c) ∧
    ∀ (c : Codec) (r : Registry), c.Over r → c.Builds r := by
  refine ⟨fun r a => ⟨?_, fun c h => ?_⟩, fun _ text s h r => ?_, fun c r h => h.builds⟩
  · rw [exists_withAddressing_iff]
    exact ⟨fun h => ⟨Nat.le_trans (Nat.le_add_right _ _) h, h⟩, And.right⟩
  · obtain ⟨-, rfl⟩ := withAddressing_eq_ok_iff.mp h
    exact ⟨rfl, rfl⟩
  · exact exists_withAddressing_iff.mpr (valid_of_parse h)

theorem built_frames_laid_edge :
    (∃ s, Schema.yaml.parse "codec: {query_id: 2039, padding: 0}" = .ok s ∧
      ∃ c, withAddressing .empty s.addressing = .ok c) ∧
    ∃ c r f, withAddressing r ⟨0x7F7, 8, 0⟩ = .ok c ∧ c.Builds r ∧
      c.respond ⟨0xFF, 1⟩ [1, 2, 3, 4, 5] = .ok f ∧ f.id.toNat = 0x7FF ∧
      f.Laid 0x3F 1 [1, 2, 3, 4, 5] 0 := by
  have hs : Schema.yaml.parse "codec: {query_id: 2039, padding: 0}" =
    .ok ⟨.blank, ⟨0x7F7, 8, 0⟩, []⟩ := by decide +kernel
  let d : Descriptor := ⟨⟨0xFF, 1⟩, "Edge", ⟨0⟩, 5, .uint8, "", .identity⟩
  let c : Codec := ⟨⟨[d], [""]⟩, ⟨0x7F7, 8, 0⟩, 0x7FF⟩
  have hc : withAddressing ⟨[d], [""]⟩ ⟨0x7F7, 8, 0⟩ = .ok c := by rfl
  obtain ⟨-, hparse, hbuilds⟩ := built_frames_laid
  have hb : c.Builds ⟨[d], [""]⟩ := hbuilds c _ (.inr ⟨_, hc⟩)
  obtain ⟨f, hf⟩ := hb.exists_response ⟨0xFF, 1⟩ [1, 2, 3, 4, 5] d (by decide) rfl rfl
  obtain ⟨hid, -, hlaid⟩ := hb.laid_of_respond _ _ _ hf
  exact ⟨⟨_, hs, hparse _ _ _ hs _⟩, c, _, f, hc, hb, hf, hid, hlaid⟩

end Codec

end VehiclePid
