import VehiclePid.Schema.Basic
import VehiclePid.Proofs.Codec.Basic
import VehiclePid.Proofs.Registry.Build

namespace VehiclePid

theorem Key.rank_le_iff {a b : Key} :
    a.rank ≤ b.rank ↔ a.mode < b.mode ∨ a.mode = b.mode ∧ a.pid ≤ b.pid := by
  have ha := a.pid.toNat_lt
  have hb := b.pid.toNat_lt
  rw [UInt8.lt_iff_toNat_lt, UInt8.le_iff_toNat_le, ← UInt8.toNat_inj, rank, rank]
  omega

namespace Schema

/-- The entries of a file, each under the text keys of its mode and its own. -/
def File.entries (f : File) : List (String × String × Entry) :=
  (f.modes.entries.map fun m => m.2.entries.map fun p => (m.1, p.1, p.2)).flatten

/-- Every text key stands for a byte, also that of a mode without entries. -/
def File.KeysRead (f : File) : Prop :=
  ∀ m ∈ f.modes.entries, (∃ b, parseId m.1 = .ok b) ∧ ∀ p ∈ m.2.entries, ∃ b, parseId p.1 = .ok b

structure Denotes (e : String × String × Entry) (x : Record) : Prop where
  mode_eq : parseId e.1 = .ok x.key.mode
  pid_eq : parseId e.2.1 = .ok x.key.pid
  record_eq : x = e.2.2.record x.key

variable {f g : File} {s : Schema} {xs ys : List Record}

theorem record_eq_ok_iff {mode : UInt8} {pid : String} {e : Entry} {x : Record} :
    (do return e.record ⟨mode, ← parseId pid⟩ : Except InvalidId Record) = .ok x ↔
      x.key.mode = mode ∧ parseId pid = .ok x.key.pid ∧ x = e.record x.key := by
  rw [Except.bind_eq_ok_iff]
  constructor
  · rintro ⟨b, hb, h⟩
    cases h
    exact ⟨rfl, hb, rfl⟩
  · rintro ⟨rfl, hb, hx⟩
    exact ⟨_, hb, congrArg Except.ok hx.symm⟩

theorem denotes_of_modeRecords {mode : String} {b : UInt8} {entries : Dictionary Entry}
    (hb : parseId mode = .ok b) (h : modeRecords b entries = .ok xs) :
    List.Forall₂ Denotes (entries.entries.map fun p => (mode, p.1, p.2)) xs := by
  rw [List.forall₂_map_left_iff]
  refine (Except.mapM_eq_ok_iff.mp h).imp fun p x hx => ?_
  obtain ⟨hm, hp, hr⟩ := record_eq_ok_iff.mp hx
  exact ⟨hm ▸ hb, hp, hr⟩

theorem denotes_of_fileRecords (h : fileRecords f.modes = .ok xs) :
    List.Forall₂ Denotes f.entries xs := by
  obtain ⟨lists, hl, h⟩ := Except.bind_eq_ok_iff.mp h
  cases h
  have each : List.Forall₂ (List.Forall₂ Denotes)
      (f.modes.entries.map fun m => m.2.entries.map fun p => (m.1, p.1, p.2)) lists := by
    rw [List.forall₂_map_left_iff]
    refine (Except.mapM_eq_ok_iff.mp hl).imp fun m xs hm => ?_
    obtain ⟨b, hb, hm⟩ := Except.bind_eq_ok_iff.mp hm
    exact denotes_of_modeRecords hb hm
  exact List.rel_flatten each

theorem exists_modeRecords_iff {b : UInt8} {entries : Dictionary Entry} :
    (∃ xs, modeRecords b entries = .ok xs) ↔ ∀ p ∈ entries.entries, ∃ c, parseId p.1 = .ok c := by
  rw [modeRecords, Except.exists_mapM_eq_ok_iff]
  refine forall₂_congr fun p _ => ?_
  simp only [record_eq_ok_iff]
  constructor
  · rintro ⟨x, -, hx, -⟩
    exact ⟨_, hx⟩
  · rintro ⟨c, hc⟩
    exact ⟨p.2.record ⟨b, c⟩, rfl, hc, rfl⟩

theorem exists_fileRecords_iff : (∃ xs, fileRecords f.modes = .ok xs) ↔ f.KeysRead := by
  rw [fileRecords, Except.exists_bind_pure_iff, Except.exists_mapM_eq_ok_iff]
  refine forall₂_congr fun m _ => ?_
  simp only [Except.bind_eq_ok_iff]
  constructor
  · rintro ⟨xs, b, hb, hx⟩
    exact ⟨⟨b, hb⟩, exists_modeRecords_iff.mp ⟨xs, hx⟩⟩
  · rintro ⟨⟨b, hb⟩, hp⟩
    obtain ⟨xs, hx⟩ := exists_modeRecords_iff.mpr hp
    exact ⟨xs, b, hb, hx⟩

def sortByKey (xs : List Record) : List Record :=
  xs.mergeSort fun a b => a.key.rank ≤ b.key.rank

theorem sortByKey_eq (xs : List Record) : sortByKey xs = sortBy Record.key xs := rfl

theorem sortByKey_perm (xs : List Record) : (sortByKey xs).Perm xs := sortBy_perm Record.key xs

theorem pairwise_sortByKey (xs : List Record) :
    (sortByKey xs).Pairwise fun a b => a.key.rank ≤ b.key.rank := pairwise_sortBy Record.key xs

theorem sortByKey_eq_of_perm (hx : (xs.map Record.key).Nodup) (h : xs.Perm ys) :
    sortByKey xs = sortByKey ys := by
  rw [sortByKey_eq, sortByKey_eq, sortBy_eq_of_perm hx h]

theorem ofFile_eq (h : fileRecords f.modes = .ok xs) :
    ofFile f = (f.addressing.responseId.mapError .addressing).map fun _ =>
      ⟨f.info, f.addressing, sortByKey xs⟩ := by
  unfold ofFile
  cases f.addressing.responseId with
  | error e => rfl
  | ok id =>
    change ((fileRecords f.modes).mapError LoadError.invalidId >>= _) = _
    rw [h]
    rfl

theorem exists_ofFile_iff :
    (∃ s, ofFile f = .ok s) ↔ f.addressing.Valid ∧ f.KeysRead := by
  rw [← exists_fileRecords_iff]
  constructor
  · rintro ⟨s, h⟩
    obtain ⟨_, ha, h⟩ := Except.bind_eq_ok_iff.mp h
    obtain ⟨xs, hx, -⟩ := Except.bind_eq_ok_iff.mp h
    refine ⟨?_, xs, Except.mapError_eq_ok_iff.mp hx⟩
    cases hr : f.addressing.responseId with
    | error e =>
      rw [hr] at ha
      cases ha
    | ok id => exact (Codec.responseId_eq_ok_iff.mp hr).1
  · rintro ⟨ha, xs, hx⟩
    rw [ofFile_eq hx, Codec.responseId_eq_ok_iff.mpr ⟨ha, rfl⟩]
    exact ⟨_, rfl⟩

theorem exists_denotes_of_ofFile (h : ofFile f = .ok s) :
    ∃ xs, List.Forall₂ Denotes f.entries xs ∧ s = ⟨f.info, f.addressing, sortByKey xs⟩ := by
  obtain ⟨-, hk⟩ := exists_ofFile_iff.mp ⟨s, h⟩
  obtain ⟨xs, hx⟩ := exists_fileRecords_iff.mpr hk
  rw [ofFile_eq hx] at h
  obtain ⟨_, -, rfl⟩ := Except.map_eq_ok_iff.mp h
  exact ⟨xs, denotes_of_fileRecords hx, rfl⟩

def keyOf? (e : String × String × Entry) : Option Key :=
  match parseId e.1, parseId e.2.1 with
  | .ok mode, .ok pid => some ⟨mode, pid⟩
  | _, _ => none

theorem denotes_iff {e : String × String × Entry} {x : Record} :
    Denotes e x ↔ keyOf? e = some x.key ∧ x = e.2.2.record x.key := by
  constructor
  · rintro ⟨hm, hp, hx⟩
    exact ⟨by rw [keyOf?, hm, hp], hx⟩
  · rintro ⟨hk, hx⟩
    unfold keyOf? at hk
    split at hk
    · rename_i hm hp
      have hk := Option.some.inj hk
      exact ⟨hk ▸ hm, hk ▸ hp, hx⟩
    · cases hk

theorem Denotes.keyOf?_eq {e : String × String × Entry} {x : Record} (h : Denotes e x) :
    keyOf? e = some x.key := (denotes_iff.mp h).1

theorem Denotes.unique {e : String × String × Entry} {x y : Record} (hx : Denotes e x)
    (hy : Denotes e y) : x = y := by
  have hk : x.key = y.key := Option.some.inj (hx.keyOf?_eq.symm.trans hy.keyOf?_eq)
  rw [hx.record_eq, hy.record_eq, hk]

theorem map_keyOf?_eq {es : List (String × String × Entry)} (h : List.Forall₂ Denotes es xs) :
    es.map keyOf? = (xs.map Record.key).map some := by
  induction h with
  | nil => rfl
  | cons he _ ih => rw [List.map_cons, ih, he.keyOf?_eq, List.map_cons, List.map_cons]

theorem mem_iff_denotes {es : List (String × String × Entry)} (h : List.Forall₂ Denotes es xs)
    {x : Record} : x ∈ xs ↔ ∃ e ∈ es, Denotes e x := by
  induction h with
  | nil => simp
  | @cons e y _ _ he _ ih =>
    have hy : x = y ↔ Denotes e x := ⟨fun h => h ▸ he, fun h => h.unique he⟩
    simp [ih, hy]

theorem records_of_ofFile (h : ofFile f = .ok s) :
    (∃ xs, List.Forall₂ Denotes f.entries xs ∧ s.records.Perm xs) ∧
      s.records.Pairwise fun a b =>
        a.key.mode < b.key.mode ∨ a.key.mode = b.key.mode ∧ a.key.pid ≤ b.key.pid := by
  obtain ⟨xs, hx, rfl⟩ := exists_denotes_of_ofFile h
  refine ⟨⟨xs, hx, sortByKey_perm xs⟩, ?_⟩
  exact (pairwise_sortByKey xs).imp Key.rank_le_iff.mp

theorem ofFile_congr (hi : f.info = g.info) (ha : f.addressing = g.addressing) (hf : f.KeysRead)
    (hg : g.KeysRead) (he : ∀ x, (∃ e ∈ f.entries, Denotes e x) ↔ ∃ e ∈ g.entries, Denotes e x)
    (hfn : (f.entries.map keyOf?).Nodup) (hgn : (g.entries.map keyOf?).Nodup) :
    ofFile f = ofFile g := by
  obtain ⟨xs, hx⟩ := exists_fileRecords_iff.mpr hf
  obtain ⟨ys, hy⟩ := exists_fileRecords_iff.mpr hg
  have hdx := denotes_of_fileRecords hx
  have hdy := denotes_of_fileRecords hy
  rw [map_keyOf?_eq hdx] at hfn
  rw [map_keyOf?_eq hdy] at hgn
  have hp : xs.Perm ys := by
    rw [List.perm_ext_iff_of_nodup hfn.of_map.of_map hgn.of_map.of_map]
    intro x
    rw [mem_iff_denotes hdx, mem_iff_denotes hdy, he]
  rw [ofFile_eq hx, ofFile_eq hy, hi, ha, sortByKey_eq_of_perm hfn.of_map hp]

theorem nodup_keyOf?_of_registry {r : Registry} (h : ofFile f = .ok s) (hr : s.registry = .ok r) :
    (f.entries.map keyOf?).Nodup := by
  obtain ⟨xs, hx, rfl⟩ := exists_denotes_of_ofFile h
  have hn := (Registry.holds_of_build hr).nodup_keys
  have hn := ((sortByKey_perm xs).map Record.key).nodup_iff.mp hn
  rw [map_keyOf?_eq hx]
  exact hn.map fun _ _ => Option.some.inj

/-- Loading a file fails only for its addressing or a text key, and otherwise keeps every entry under
its key, in the order of the keys. Files with the same entries under other text keys load alike, and
two entries with one key are refused by the registry. -/
theorem ofFile_faithful (f : File) :
    ((∃ s, ofFile f = .ok s) ↔ f.addressing.Valid ∧ f.KeysRead) ∧
      (∀ s, ofFile f = .ok s → s.info = f.info ∧ s.addressing = f.addressing ∧
        (∃ xs, List.Forall₂ Denotes f.entries xs ∧ s.records.Perm xs) ∧
        s.records.Pairwise fun a b =>
          a.key.mode < b.key.mode ∨ a.key.mode = b.key.mode ∧ a.key.pid ≤ b.key.pid) ∧
      (∀ g : File, f.info = g.info → f.addressing = g.addressing → f.KeysRead → g.KeysRead →
        (∀ x, (∃ e ∈ f.entries, Denotes e x) ↔ ∃ e ∈ g.entries, Denotes e x) →
        (f.entries.map keyOf?).Nodup → (g.entries.map keyOf?).Nodup → ofFile f = ofFile g) ∧
      ∀ s e e', ofFile f = .ok s → e ∈ f.entries → e' ∈ f.entries → e ≠ e' →
        keyOf? e = keyOf? e' → ∃ cause, s.registry = .error cause := by
  refine ⟨exists_ofFile_iff, fun s h => ?_, fun g => ofFile_congr, fun s e e' h hm hm' hne hk => ?_⟩
  · have hs := records_of_ofFile h
    obtain ⟨xs, -, rfl⟩ := exists_denotes_of_ofFile h
    exact ⟨rfl, rfl, hs⟩
  · cases hr : s.registry with
    | error cause => exact ⟨cause, rfl⟩
    | ok r =>
      exact absurd (List.inj_on_of_nodup_map (nodup_keyOf?_of_registry h hr) hm hm' hk) hne

theorem ofFile_faithful_respelled :
    ∃ f g h : File,
      f.entries = [("0x01", "0C", ⟨"Speed", 2, "rpm", .float, "(A*256+B)/4"⟩),
        ("0x01", "0D", ⟨"Speed", 1, "km/h", .uint8, ""⟩)] ∧
      g.entries = [("+1", "0x0d", ⟨"Speed", 1, "km/h", .uint8, ""⟩),
        ("1", "0xc", ⟨"Speed", 2, "rpm", .float, "(A*256+B)/4"⟩)] ∧
      h.entries = [("0x01", "0C", ⟨"Speed", 2, "rpm", .float, "(A*256+B)/4"⟩),
        ("0x01", "c", ⟨"Speed", 1, "km/h", .uint8, ""⟩)] ∧
      ofFile f = ofFile g ∧
      ∃ s cause, ofFile h = .ok s ∧ s.registry = .error cause := by
  let engine : Entry := ⟨"Speed", 2, "rpm", .float, "(A*256+B)/4"⟩
  let vehicle : Entry := ⟨"Speed", 1, "km/h", .uint8, ""⟩
  let f : File := ⟨.blank, .standard,
    ⟨[("0x01", ⟨[("0C", engine), ("0D", vehicle)], by decide⟩)], by decide⟩⟩
  let g : File := ⟨.blank, .standard,
    ⟨[("+1", ⟨[("0x0d", vehicle)], by decide⟩), ("1", ⟨[("0xc", engine)], by decide⟩)], by decide⟩⟩
  let h : File := ⟨.blank, .standard,
    ⟨[("0x01", ⟨[("0C", engine), ("c", vehicle)], by decide⟩)], by decide⟩⟩
  have one : parseId "0x01" = .ok 1 ∧ parseId "+1" = .ok 1 ∧ parseId "1" = .ok 1 := by decide
  have twelve : parseId "0C" = .ok 12 ∧ parseId "0xc" = .ok 12 ∧ parseId "c" = .ok 12 := by decide
  have thirteen : parseId "0D" = .ok 13 ∧ parseId "0x0d" = .ok 13 := by decide
  have hf : f.KeysRead := List.forall_mem_singleton.mpr ⟨⟨1, one.1⟩,
    List.forall_mem_cons.mpr ⟨⟨12, twelve.1⟩, List.forall_mem_singleton.mpr ⟨13, thirteen.1⟩⟩⟩
  have hg : g.KeysRead := List.forall_mem_cons.mpr
    ⟨⟨⟨1, one.2.1⟩, List.forall_mem_singleton.mpr ⟨13, thirteen.2⟩⟩,
      List.forall_mem_singleton.mpr ⟨⟨1, one.2.2⟩, List.forall_mem_singleton.mpr ⟨12, twelve.2.1⟩⟩⟩
  have hh : h.KeysRead := List.forall_mem_singleton.mpr ⟨⟨1, one.1⟩,
    List.forall_mem_cons.mpr ⟨⟨12, twelve.1⟩, List.forall_mem_singleton.mpr ⟨12, twelve.2.2⟩⟩⟩
  have hfk : f.entries.map keyOf? = [some ⟨1, 12⟩, some ⟨1, 13⟩] := by decide
  have hgk : g.entries.map keyOf? = [some ⟨1, 13⟩, some ⟨1, 12⟩] := by decide
  have same : ∀ x, (∃ e ∈ f.entries, Denotes e x) ↔ ∃ e ∈ g.entries, Denotes e x := by
    intro x
    change (∃ e ∈ [_, _], Denotes e x) ↔ ∃ e ∈ [_, _], Denotes e x
    simp only [List.exists_mem_cons_iff, denotes_iff, keyOf?, one, twelve, thirteen]
    exact or_left_comm
  have valid : Addressing.standard.Valid := (Codec.responseId_eq_ok_iff.mp rfl).1
  obtain ⟨s, hs⟩ := (ofFile_faithful h).1.mpr ⟨valid, hh⟩
  have collide : keyOf? ("0x01", "0C", engine) = keyOf? ("0x01", "c", vehicle) := by
    rw [keyOf?, keyOf?, twelve.1, twelve.2.2]
  refine ⟨f, g, h, rfl, rfl, rfl, ?_, s, ?_⟩
  · exact (ofFile_faithful f).2.2.1 g rfl rfl hf hg same (by rw [hfk]; decide) (by rw [hgk]; decide)
  · obtain ⟨cause, hc⟩ := (ofFile_faithful h).2.2.2 s ("0x01", "0C", engine) ("0x01", "c", vehicle)
      hs List.mem_cons_self (List.mem_cons_of_mem _ List.mem_cons_self)
      (fun he => absurd (congrArg (fun e => e.2.1) he) (by decide)) collide
    exact ⟨cause, hs, hc⟩

end Schema

end VehiclePid
