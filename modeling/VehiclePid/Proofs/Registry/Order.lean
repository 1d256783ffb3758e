import VehiclePid.Proofs.Registry.Units

namespace VehiclePid

def Descriptor.Alike (d e : Descriptor) : Prop := e = { d with unit := e.unit }

theorem Descriptor.From.alike {d e : Descriptor} {x : Record} (hd : d.From x) (he : e.From x) :
    d.Alike e := by
  have hf : d.formula = e.formula := by
    have hc := hd.compile_eq
    rw [hd.source_eq, ← he.source_eq, he.compile_eq] at hc
    exact (Except.ok.inj hc).symm
  have hk := hd.key_eq.trans he.key_eq.symm
  have hn := hd.name_eq.trans he.name_eq.symm
  have hw := hd.width_eq.trans he.width_eq.symm
  have ht := hd.type_eq.trans he.type_eq.symm
  have hs := hd.source_eq.trans he.source_eq.symm
  rw [Alike, hk, hn, hw, ht, hs, hf]

namespace Registry

/-- Registries that differ at most in how their units are numbered. -/
structure Alike (r s : Registry) : Prop where
  get? : ∀ key, Option.Rel Descriptor.Alike (r.get? key) (s.get? key)
  unitName : ∀ key d e, r.get? key = some d → s.get? key = some e →
    ∃ name, r.unitName d.unit = .ok name ∧ s.unitName e.unit = .ok name
  descriptors : List.Forall₂ Descriptor.Alike r.descriptors s.descriptors

variable {r s : Registry} {x : Record} {xs ys : List Record} {key : Key} {d e : Descriptor}

theorem Holds.get?_eq_some_iff (h : r.Holds xs) :
    r.get? key = some d ↔ d ∈ r.entries ∧ d.key = key := find?_key_eq_some_iff h.nodup

theorem exists_build_of_perm (h : xs.Perm ys) (hx : ∃ r, build xs = .ok r) :
    ∃ s, build ys = .ok s := by
  obtain ⟨hn, ha⟩ := exists_build_iff.mp hx
  refine exists_build_iff.mpr ⟨(h.map Record.key).nodup_iff.mp hn, fun y hy => ?_⟩
  exact ha y (h.mem_iff.mpr hy)

theorem exists_record_of_get? (h : build xs = .ok r) (hd : r.get? key = some d) :
    ∃ x ∈ xs, x.key = key ∧ d.From x ∧ r.unitName d.unit = .ok x.unit := by
  have hr := holds_of_build h
  obtain ⟨hm, rfl⟩ := hr.get?_eq_some_iff.mp hd
  obtain ⟨x, hx, hdx⟩ := exists_right_of_mem hr.entries hm
  obtain ⟨y, hy, hdy, hu⟩ := exists_right_of_mem (resolves_of_build h).entries hm
  have hxy : x = y := List.inj_on_of_nodup_map hr.nodup_keys hx hy (hdx.key_eq.symm.trans hdy)
  exact ⟨x, hx, hdx.key_eq.symm, hdx, hxy ▸ hu⟩

theorem exists_get?_of_mem (h : build xs = .ok r) (hx : x ∈ xs) :
    ∃ d, r.get? x.key = some d ∧ d.From x := by
  have hr := holds_of_build h
  obtain ⟨d, hd, hdx⟩ := exists_right_of_mem hr.entries.flip hx
  exact ⟨d, hr.get?_eq_some_iff.mpr ⟨hd, hdx.key_eq⟩, hdx⟩

theorem exists_get?_of_perm (hp : xs.Perm ys) (hr : build xs = .ok r) (hs : build ys = .ok s)
    (hd : r.get? key = some d) : ∃ e, s.get? key = some e ∧ d.Alike e := by
  obtain ⟨x, hx, rfl, hdx, -⟩ := exists_record_of_get? hr hd
  obtain ⟨e, he, hex⟩ := exists_get?_of_mem hs (hp.mem_iff.mp hx)
  exact ⟨e, he, hdx.alike hex⟩

theorem get?_rel_of_perm (hp : xs.Perm ys) (hr : build xs = .ok r) (hs : build ys = .ok s)
    (key : Key) : Option.Rel Descriptor.Alike (r.get? key) (s.get? key) := by
  cases hd : r.get? key with
  | some d =>
    obtain ⟨e, he, hde⟩ := exists_get?_of_perm hp hr hs hd
    rw [he]
    exact .some hde
  | none =>
    cases he : s.get? key with
    | none => exact .none
    | some e =>
      obtain ⟨d, hd', -⟩ := exists_get?_of_perm hp.symm hs hr he
      rw [hd] at hd'
      cases hd'

theorem unitName_of_perm (hp : xs.Perm ys) (hr : build xs = .ok r) (hs : build ys = .ok s)
    (hd : r.get? key = some d) (he : s.get? key = some e) :
    ∃ name, r.unitName d.unit = .ok name ∧ s.unitName e.unit = .ok name := by
  obtain ⟨x, hx, hxk, -, hxu⟩ := exists_record_of_get? hr hd
  obtain ⟨y, hy, hyk, -, hyu⟩ := exists_record_of_get? hs he
  have hxy : x = y := List.inj_on_of_nodup_map (holds_of_build hr).nodup_keys hx
    (hp.mem_iff.mpr hy) (hxk.trans hyk.symm)
  exact ⟨x.unit, hxu, hxy ▸ hyu⟩

theorem descriptors_eq (r : Registry) : r.descriptors = sortBy Descriptor.key r.entries := rfl

theorem Holds.mem_descriptors_iff (h : r.Holds xs) :
    d ∈ r.descriptors ↔ r.get? d.key = some d := by
  rw [h.get?_eq_some_iff, descriptors_eq, (sortBy_perm Descriptor.key r.entries).mem_iff]
  exact (and_iff_left rfl).symm

theorem descriptors_of_perm (hp : xs.Perm ys) (hr : build xs = .ok r) (hs : build ys = .ok s) :
    List.Forall₂ Descriptor.Alike r.descriptors s.descriptors := by
  have hk : (r.entries.map Descriptor.key).Perm (s.entries.map Descriptor.key) := by
    rw [Descriptor.From.map_key_eq (holds_of_build hr).entries,
      Descriptor.From.map_key_eq (holds_of_build hs).entries]
    exact hp.map Record.key
  have hm := map_sortBy_eq_of_perm hk
  rw [← descriptors_eq, ← descriptors_eq] at hm
  rw [← List.forall₂_eq_eq_eq, List.forall₂_map_left_iff, List.forall₂_map_right_iff] at hm
  have hz := List.forall₂_iff_zip.mp hm
  rw [List.forall₂_iff_zip]
  refine ⟨hz.1, fun {d e} hde => ?_⟩
  have hd := (holds_of_build hr).mem_descriptors_iff.mp (List.of_mem_zip hde).1
  have he := (holds_of_build hs).mem_descriptors_iff.mp (List.of_mem_zip hde).2
  obtain ⟨e', he', ha⟩ := exists_get?_of_perm hp hr hs hd
  rw [hz.2 hde, he] at he'
  exact Option.some.inj he' ▸ ha

theorem alike_of_perm (hp : xs.Perm ys) (hr : build xs = .ok r) (hs : build ys = .ok s) :
    r.Alike s where
  get? := get?_rel_of_perm hp hr hs
  unitName _ _ _ := unitName_of_perm hp hr hs
  descriptors := descriptors_of_perm hp hr hs

end Registry

end VehiclePid
