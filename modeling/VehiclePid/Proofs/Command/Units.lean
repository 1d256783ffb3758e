import VehiclePid.Command.Run
import VehiclePid.Proofs.Codec.Basic
import VehiclePid.Proofs.Registry.Order

namespace VehiclePid

namespace Registry

variable {r : Registry} {records : List Record} {x y : Record} {d e : Descriptor}

/-- A registry whose units are those of some records, each under an id of its own. -/
structure Interns (r : Registry) (records : List Record) : Prop where
  /-- The id of a unit that is new when its record comes is the number of units before it. -/
  index_eq : ∀ earlier x later, records = earlier ++ x :: later →
    ∃ s, build earlier = .ok s ∧
      (x.unit ∉ s.units → (intern s.units x.unit).1.index.toNat = s.units.length)
  length_le : r.units.length ≤ 65536
  nodup : r.units.Nodup
  units_eq : r.units = (records.map Record.unit).eraseDups
  exists_record : ∀ d ∈ r.descriptors, ∃ x ∈ records, x.key = d.key ∧
    r.unitName d.unit = .ok x.unit
  exists_descriptor : ∀ x ∈ records, ∃ d, r.get? x.key = some d ∧ r.unitName d.unit = .ok x.unit
  unit_eq_iff : ∀ x ∈ records, ∀ y ∈ records, ∀ d e, r.get? x.key = some d →
    r.get? y.key = some e → (d.unit = e.unit ↔ x.unit = y.unit)
  unitName_eq_error_iff : ∀ unit e, r.unitName unit = .error e ↔
    r.units.length ≤ unit.index.toNat ∧ e = .unknownUnit unit

theorem exists_unitName_of_mem (h : build records = .ok r) (hx : x ∈ records) :
    ∃ d, r.get? x.key = some d ∧ r.unitName d.unit = .ok x.unit := by
  obtain ⟨d, hd, -⟩ := exists_get?_of_mem h hx
  obtain ⟨y, hy, hk, -, hu⟩ := exists_record_of_get? h hd
  have hxy : x = y := List.inj_on_of_nodup_map (holds_of_build h).nodup_keys hx hy hk.symm
  exact ⟨d, hd, hxy ▸ hu⟩

theorem unit_eq_iff (h : build records = .ok r) (hx : x ∈ records) (hy : y ∈ records)
    (hd : r.get? x.key = some d) (he : r.get? y.key = some e) :
    d.unit = e.unit ↔ x.unit = y.unit := by
  obtain ⟨d', hd', hdu⟩ := exists_unitName_of_mem h hx
  obtain ⟨e', he', heu⟩ := exists_unitName_of_mem h hy
  obtain rfl : d = d' := Option.some.inj (hd.symm.trans hd')
  obtain rfl : e = e' := Option.some.inj (he.symm.trans he')
  constructor
  · intro hu
    rw [hu, heu] at hdu
    exact (Except.ok.inj hdu).symm
  · intro hu
    apply unit_eq_of_unitName (units_of_build h ▸ nodup_eraseDups _) hdu
    rw [heu, hu]

theorem interns_of_build (h : build records = .ok r) : r.Interns records where
  index_eq earlier x later hs := by
    obtain ⟨s, hb, hl⟩ := exists_build_before (hs ▸ h)
    exact ⟨s, hb, fun hn => index_intern hn hl⟩
  length_le := Nat.le_trans (length_units_le h) (length_records_le h)
  nodup := units_of_build h ▸ nodup_eraseDups _
  units_eq := units_of_build h
  exists_record d hd := by
    have hd := (holds_of_build h).mem_descriptors_iff.mp hd
    obtain ⟨x, hx, hk, -, hu⟩ := exists_record_of_get? h hd
    exact ⟨x, hx, hk, hu⟩
  exists_descriptor x hx := exists_unitName_of_mem h hx
  unit_eq_iff x hx y hy d e hd he := unit_eq_iff h hx hy hd he
  unitName_eq_error_iff _ _ := unitName_eq_error_iff

end Registry

theorem Codec.decode_ne_unknownUnit (c : Codec) (f : Frame) (unit : UnitId) :
    c.decode f ≠ .error (.lookup (.unknownUnit unit)) := by
  intro h
  obtain h | ⟨⟨key, d, raw⟩, -, h⟩ := Except.bind_eq_error_iff.mp h
  · obtain h | ⟨stored, -, h⟩ := Except.bind_eq_error_iff.mp h
    · unfold headers at h
      split at h <;> cases h
    · split at h
      · cases h
      · obtain h | ⟨d, -, h⟩ := Except.bind_eq_error_iff.mp h
        · cases (lookup_eq_error_iff.mp h).2
        · cases h
  · obtain h | ⟨v, -, h⟩ := Except.bind_eq_error_iff.mp h
    · obtain ⟨_, -, h⟩ := Except.mapError_eq_error_iff.mp h
      cases h
    · cases h

namespace Command

variable {α β : Type} {es es' es'' : List Event}

def Attempt.Gives (a : Attempt α) (before : List Event) (x : α) (after : List Event) : Prop :=
  a.run before = (.ok x, after)

namespace Attempt.Gives

theorem emit (more es : List Event) : Gives (emit more) es () (es ++ more) := rfl

theorem bind_iff {a : Attempt α} {f : α → Attempt β} {y : β} :
    (a >>= f).Gives es y es'' ↔ ∃ x es', a.Gives es x es' ∧ (f x).Gives es' y es'' := by
  have hrun : ∀ r es', a.run es = (r, es') → (a >>= f).run es = match r with
      | .ok x => (f x).run es'
      | .error e => (.error e, es') := by
    intro r es' ha
    change (match a.run es with
      | (r, es') => ExceptT.bindCont f r es') = _
    rw [ha]
    cases r <;> rfl
  rcases ha : a.run es with ⟨r, es'⟩
  unfold Gives
  rw [hrun r es' ha, ha]
  cases r with
  | ok x =>
    constructor
    · exact fun h => ⟨x, es', rfl, h⟩
    · rintro ⟨x', es₁, h, hf⟩
      cases h
      exact hf
  | error e =>
    constructor
    · exact nofun
    · rintro ⟨x', es₁, h, -⟩
      cases h

theorem orFail_iff {ε : Type} {r : Except ε α} {failure : ε → Failure} {x : α} :
    (orFail r failure).Gives es x es' ↔ r = .ok x ∧ es' = es := by
  cases r with
  | ok y =>
    constructor
    · intro h
      cases h
      exact ⟨rfl, rfl⟩
    · rintro ⟨h, rfl⟩
      cases h
      rfl
  | error e => exact ⟨nofun, nofun⟩

theorem exists_mapM {R : α → β → Prop} {f : α → Attempt β} {xs : List α}
    (h : ∀ a ∈ xs, ∃ b, R a b ∧ (f a).Gives es b es) :
    ∃ ys, List.Forall₂ R xs ys ∧ (xs.mapM f).Gives es ys es := by
  induction xs with
  | nil => exact ⟨[], .nil, rfl⟩
  | cons a xs ih =>
    obtain ⟨b, hb, hab⟩ := h a List.mem_cons_self
    obtain ⟨ys, hys, hxs⟩ := ih fun a ha => h a (List.mem_cons_of_mem _ ha)
    refine ⟨b :: ys, .cons hb hys, ?_⟩
    rw [List.mapM_cons, bind_iff]
    refine ⟨b, es, hab, ?_⟩
    rw [bind_iff]
    exact ⟨ys, es, hxs, rfl⟩

end Attempt.Gives

open Attempt

variable {format : Schema.FileFormat} {files : String → Except FileFault String}
  {path : Option String} {i : Invocation} {c : Codec} {d : Descriptor} {name : String}

theorem unitName_gives (h : c.registry.unitName d.unit = .ok name) :
    (unitName c d).Gives es name es :=
  Gives.orFail_iff.mpr ⟨h, rfl⟩

theorem build_gives_iff {s : Schema} :
    (do
      emit (Registry.buildEvents s.records)
      let registry ← orFail s.registry fun e => ⟨"Schema rejected", buildCauses e⟩
      orFail (Codec.withAddressing registry s.addressing) fun e => ⟨e.message, []⟩ :
        Attempt Codec).Gives es c es' ↔
      ∃ r, s.registry = .ok r ∧ Codec.withAddressing r s.addressing = .ok c ∧
        es' = es ++ Registry.buildEvents s.records := by
  simp only [Gives.bind_iff, Gives.orFail_iff]
  constructor
  · rintro ⟨_, _, he, r, _, ⟨hr, rfl⟩, hc, rfl⟩
    cases he
    exact ⟨r, hr, hc, rfl⟩
  · rintro ⟨r, hr, hc, rfl⟩
    exact ⟨(), _, Gives.emit _ _, r, _, ⟨hr, rfl⟩, hc, rfl⟩

theorem exists_build_of_load (h : (load format files path).Gives es c es') :
    ∃ records, Registry.build records = .ok c.registry := by
  -- The schema is read from a file or is the generic one; what follows is the same.
  cases path
  all_goals
    obtain ⟨schema, es₁, -, h⟩ := Gives.bind_iff.mp h
    obtain ⟨registry, hr, hc, -⟩ := build_gives_iff.mp h
    obtain ⟨id, -, rfl⟩ := Except.map_eq_ok_iff.mp hc
    exact ⟨schema.records, hr⟩

theorem loadFile_gives {file text : String} {s : Schema} (h : format.parse text = .ok s) :
    (loadFile format file (.ok text)).Gives es s (es ++ [⟨.debug, .schema, "Loaded schema file",
      [("path", file), ("pids", toString s.records.length)]⟩]) := by
  refine Gives.bind_iff.mpr ⟨text, es, Gives.orFail_iff.mpr ⟨rfl, rfl⟩, ?_⟩
  refine Gives.bind_iff.mpr ⟨s, es, Gives.orFail_iff.mpr ⟨h, rfl⟩, ?_⟩
  exact Gives.bind_iff.mpr ⟨(), _, Gives.emit _ _, rfl⟩

theorem exists_load {file text : String} {s : Schema} {r : Registry} (ht : files file = .ok text)
    (hs : format.parse text = .ok s) (hr : s.registry = .ok r)
    (hc : Codec.withAddressing r s.addressing = .ok c) :
    ∃ es', (load format files (some file)).Gives es c es' := by
  exact ⟨_, Gives.bind_iff.mpr
    ⟨s, _, ht ▸ loadFile_gives hs, build_gives_iff.mpr ⟨r, hr, hc, rfl⟩⟩⟩

theorem perform_pids {rows : List Row} (ha : i.action = .pids)
    (hl : (load format files i.schema).Gives es c es')
    (hr : Gives (c.registry.descriptors.mapM fun d => do return descriptorRow d (← unitName c d))
      es' rows es') :
    (perform format files i).Gives es (showRows i.format i.quiet rows) es' := by
  unfold perform
  rw [ha]
  exact Gives.bind_iff.mpr ⟨c, es', hl, Gives.bind_iff.mpr ⟨rows, es', hr, rfl⟩⟩

theorem perform_decode {text : String} {f : Frame} {x : Codec.Decoded}
    (ha : i.action = .decode text) (hl : (load format files i.schema).Gives es c es')
    (hf : Frame.parse text = .ok f) (hx : c.decode f = .ok x)
    (hu : c.registry.unitName x.descriptor.unit = .ok name) :
    (perform format files i).Gives es (showRow i.format (decodedRow x name))
      (es' ++ c.decodeEvents f) := by
  unfold perform
  rw [ha]
  refine Gives.bind_iff.mpr ⟨c, es', hl, ?_⟩
  refine Gives.bind_iff.mpr ⟨f, es', Gives.orFail_iff.mpr ⟨hf, rfl⟩, ?_⟩
  refine Gives.bind_iff.mpr ⟨(), _, Gives.emit _ _, ?_⟩
  refine Gives.bind_iff.mpr ⟨x, _, Gives.orFail_iff.mpr ⟨hx, rfl⟩, ?_⟩
  exact Gives.bind_iff.mpr ⟨name, _, unitName_gives hu, rfl⟩

/-- Interning loses no unit. A built registry tells back the unit of each record, and no parameter
that a command lists or decodes is without the unit of its record. -/
theorem units_shown :
    (∀ records r, Registry.build records = .ok r → r.Interns records) ∧
      (∀ (c : Codec) f unit, c.decode f ≠ .error (.lookup (.unknownUnit unit))) ∧
      ∀ format (files : String → Except FileFault String) (i : Invocation) es c es',
        (load format files i.schema).Gives es c es' →
        ∃ records, Registry.build records = .ok c.registry ∧
          (i.action = .pids → ∃ rows, List.Forall₂ (fun d row => ∃ x ∈ records, x.key = d.key ∧
              row = descriptorRow d x.unit) c.registry.descriptors rows ∧
            (perform format files i).Gives es (showRows i.format i.quiet rows) es') ∧
          ∀ text f x, i.action = .decode text → Frame.parse text = .ok f → c.decode f = .ok x →
            ∃ y ∈ records, y.key = x.key ∧
              (perform format files i).Gives es (showRow i.format (decodedRow x y.unit))
                (es' ++ c.decodeEvents f) := by
  refine ⟨fun records r h => Registry.interns_of_build h, Codec.decode_ne_unknownUnit,
    fun format files i es c es' hl => ?_⟩
  obtain ⟨records, hb⟩ := exists_build_of_load hl
  refine ⟨records, hb, fun ha => ?_, fun text f x ha hf hx => ?_⟩
  · have hrow : ∀ d ∈ c.registry.descriptors, ∃ row, (∃ x ∈ records, x.key = d.key ∧
        row = descriptorRow d x.unit) ∧
        Gives (do return descriptorRow d (← unitName c d)) es' row es' := by
      intro d hd
      obtain ⟨x, hx, hk, hu⟩ := (Registry.interns_of_build hb).exists_record d hd
      exact ⟨_, ⟨x, hx, hk, rfl⟩, Gives.bind_iff.mpr ⟨x.unit, es', unitName_gives hu, rfl⟩⟩
    obtain ⟨rows, hrows, hm⟩ := Gives.exists_mapM hrow
    exact ⟨rows, hrows, perform_pids ha hl hm⟩
  · obtain ⟨hloc, -⟩ := Codec.decode_eq_ok_iff.mp hx
    obtain ⟨-, -, -, hd, -⟩ := Codec.locate_eq_ok_iff.mp hloc
    obtain ⟨y, hy, hk, -, hu⟩ := Registry.exists_record_of_get? hb hd
    exact ⟨y, hy, hk, perform_decode ha hl hf hx hu⟩

theorem units_shown_shared :
    (∃ r, Registry.build [⟨⟨1, 0x0D⟩, "Vehicle Speed", "km/h", 1, .uint8, ""⟩,
        ⟨⟨1, 0x0C⟩, "Engine Speed", "rpm", 2, .uint16, ""⟩,
        ⟨⟨9, 0x0D⟩, "Top Speed", "km/h", 1, .uint8, ""⟩] = .ok r ∧ r.units = ["km/h", "rpm"] ∧
      r.Interns [⟨⟨1, 0x0D⟩, "Vehicle Speed", "km/h", 1, .uint8, ""⟩,
        ⟨⟨1, 0x0C⟩, "Engine Speed", "rpm", 2, .uint16, ""⟩,
        ⟨⟨9, 0x0D⟩, "Top Speed", "km/h", 1, .uint8, ""⟩]) ∧
      ∃ (files : String → Except FileFault String) (path : Option String) (c : Codec)
          (es : List Event), (load Schema.yaml files path).Gives [] c es ∧
        (∃ rows, (perform Schema.yaml files ⟨path, .json, false, false, .pids⟩).Gives []
          (showRows .json false rows) es) ∧
        ∃ x unit es', (perform Schema.yaml files
          ⟨path, .json, false, false, .decode "7E8#03410D4B"⟩).Gives []
            (showRow .json (decodedRow x unit)) es' := by
  let speed : Record := ⟨⟨1, 0x0D⟩, "Vehicle Speed", "km/h", 1, .uint8, ""⟩
  let r : Registry := ⟨[⟨⟨1, 0x0D⟩, "Vehicle Speed", ⟨0⟩, 1, .uint8, "", .identity⟩], ["km/h"]⟩
  have hparse : Schema.yaml.parse
      "modes: {1: {0D: {name: Vehicle Speed, bytes: 1, unit: km/h, type: uint8}}}" =
    .ok ⟨.blank, .standard, [speed]⟩ := by decide +kernel
  let files : String → Except FileFault String := fun _ =>
    .ok "modes: {1: {0D: {name: Vehicle Speed, bytes: 1, unit: km/h, type: uint8}}}"
  obtain ⟨es, hl⟩ : ∃ es, (load Schema.yaml files (some "speed.yaml")).Gives [] (.standard r) es :=
    exists_load rfl hparse (by rfl) (by rfl)
  have hf : Frame.parse "7E8#03410D4B" =
    .ok ⟨0x7E8, 4, #v[3, 0x41, 0x0D, 75, 0, 0, 0, 0]⟩ := by rfl
  have hx : (Codec.standard ⟨[⟨⟨1, 0x0D⟩, "Vehicle Speed", ⟨0⟩, 1, .uint8, "", .identity⟩],
      ["km/h"]⟩).decode ⟨0x7E8, 4, #v[3, 0x41, 0x0D, 75, 0, 0, 0, 0]⟩ =
    .ok ⟨⟨1, 0x0D⟩, ⟨⟨1, 0x0D⟩, "Vehicle Speed", ⟨0⟩, 1, .uint8, "", .identity⟩, [75],
      .uint8 75⟩ := by decide +kernel
  obtain ⟨_, -, hp, -⟩ := units_shown.2.2 Schema.yaml files
    ⟨some "speed.yaml", .json, false, false, .pids⟩ [] (.standard r) es hl
  obtain ⟨_, -, -, hd⟩ := units_shown.2.2 Schema.yaml files
    ⟨some "speed.yaml", .json, false, false, .decode "7E8#03410D4B"⟩ [] (.standard r) es hl
  obtain ⟨rows, -, hrows⟩ := hp rfl
  obtain ⟨y, -, -, hy⟩ := hd _ _ _ rfl hf hx
  exact ⟨⟨_, by rfl, by rfl, units_shown.1 _ _ (by rfl)⟩, files, some "speed.yaml", .standard r, es,
    hl, ⟨rows, hrows⟩, _, _, _, hy⟩

end Command

end VehiclePid
