import VehiclePid.Proofs.Key
import VehiclePid.Proofs.Registry.Order

namespace VehiclePid.Registry

variable {r : Registry} {x : Record} {records : List Record} {key : Key} {d : Descriptor}

/-- A registry that holds the descriptors of some records. -/
structure Represents (r : Registry) (records : List Record) : Prop where
  size_eq : r.size = records.length
  contains_iff : ∀ key, r.contains key = true ↔ ∃ d, r.get? key = some d
  lookup_eq_ok_iff : ∀ key d, r.lookup key = .ok d ↔ r.get? key = some d
  lookup_eq_error_iff : ∀ key e, r.lookup key = .error e ↔ r.get? key = none ∧ e = .unknownPid key
  exists_get?_iff : ∀ key, (∃ d, r.get? key = some d) ↔ ∃ x ∈ records, x.key = key
  from_of_get? : ∀ x ∈ records, ∀ d, r.get? x.key = some d → d.From x
  descriptors_perm : ∃ ds, List.Forall₂ Descriptor.From ds records ∧ r.descriptors.Perm ds
  mem_descriptors_iff : ∀ d, d ∈ r.descriptors ↔ r.get? d.key = some d
  descriptors_sorted : r.descriptors.Pairwise fun a b =>
    a.key.mode < b.key.mode ∨ a.key.mode = b.key.mode ∧ a.key.pid < b.key.pid
  /-- The order in which the descriptors are kept does not show. -/
  descriptors_eq_of_perm : ∀ entries : List Descriptor, entries.Perm r.entries →
    Registry.descriptors ⟨entries, r.units⟩ = r.descriptors
  interpret_eq_error_iff : ∀ d ∈ r.descriptors, ∀ (raw : List UInt8) (e : Formula.EvalError),
    d.interpret raw = .error e ↔
      raw.length < d.required ∧ e = .insufficientBytes d.required raw.length

theorem contains_iff_exists_get? : r.contains key = true ↔ ∃ d, r.get? key = some d := by
  rw [← Option.isSome_iff_exists, get?, List.find?_isSome, contains, List.any_eq_true]

theorem exists_get?_iff (h : build records = .ok r) :
    (∃ d, r.get? key = some d) ↔ ∃ x ∈ records, x.key = key := by
  constructor
  · rintro ⟨d, hd⟩
    obtain ⟨x, hx, hk, -⟩ := exists_record_of_get? h hd
    exact ⟨x, hx, hk⟩
  · rintro ⟨x, hx, rfl⟩
    obtain ⟨d, hd, -⟩ := exists_get?_of_mem h hx
    exact ⟨d, hd⟩

theorem from_of_get? (h : build records = .ok r) (hx : x ∈ records) (hd : r.get? x.key = some d) :
    d.From x := by
  obtain ⟨d', hd', hf⟩ := exists_get?_of_mem h hx
  obtain rfl : d = d' := Option.some.inj (hd.symm.trans hd')
  exact hf

theorem Holds.descriptors_sorted (h : r.Holds records) : r.descriptors.Pairwise fun a b =>
    a.key.mode < b.key.mode ∨ a.key.mode = b.key.mode ∧ a.key.pid < b.key.pid :=
  (pairwise_lt_sortBy h.nodup).imp Key.rank_lt_iff.mp

theorem Holds.descriptors_eq_of_perm (h : r.Holds records) {entries : List Descriptor}
    (hp : entries.Perm r.entries) : Registry.descriptors ⟨entries, r.units⟩ = r.descriptors :=
  (sortBy_eq_of_perm h.nodup hp.symm).symm

/-- A registry holds just what it was built from. -/
theorem represents_of_build (h : build records = .ok r) : r.Represents records where
  size_eq := (holds_of_build h).entries.length_eq
  contains_iff _ := contains_iff_exists_get?
  lookup_eq_ok_iff _ _ := lookup_eq_ok_iff
  lookup_eq_error_iff _ _ := lookup_eq_error_iff
  exists_get?_iff _ := exists_get?_iff h
  from_of_get? _ hx _ := from_of_get? h hx
  descriptors_perm := ⟨r.entries, (holds_of_build h).entries, sortBy_perm Descriptor.key r.entries⟩
  mem_descriptors_iff _ := (holds_of_build h).mem_descriptors_iff
  descriptors_sorted := (holds_of_build h).descriptors_sorted
  descriptors_eq_of_perm _ := (holds_of_build h).descriptors_eq_of_perm
  interpret_eq_error_iff d hd _ _ := by
    have hd := (holds_of_build h).mem_descriptors_iff.mp hd
    obtain ⟨x, -, -, hf, -⟩ := exists_record_of_get? h hd
    exact hf.interpret_eq_error_iff

theorem represents_of_build_unsorted :
    ∃ r d, build [⟨⟨1, 0x0D⟩, "Vehicle Speed", "km/h", 1, .uint8, ""⟩,
        ⟨⟨1, 0x0C⟩, "Engine Speed", "rpm", 2, .uint16, "(A*256+B)/4"⟩] = .ok r ∧
      r.Represents [⟨⟨1, 0x0D⟩, "Vehicle Speed", "km/h", 1, .uint8, ""⟩,
        ⟨⟨1, 0x0C⟩, "Engine Speed", "rpm", 2, .uint16, "(A*256+B)/4"⟩] ∧
      r.get? ⟨1, 0x0C⟩ = some d ∧ d ∈ r.descriptors ∧
      d.interpret [77] = .error (.insufficientBytes 2 1) :=
  let d : Descriptor := ⟨⟨1, 0x0C⟩, "Engine Speed", ⟨1⟩, 2, .uint16, "(A*256+B)/4",
    ⟨[.operand 0, .literal (.ofNat 256), .operator .mul, .operand 1, .operator .add,
      .literal (.ofNat 4), .operator .div], 2⟩⟩
  let r : Registry :=
    ⟨[⟨⟨1, 0x0D⟩, "Vehicle Speed", ⟨0⟩, 1, .uint8, "", .identity⟩, d], ["km/h", "rpm"]⟩
  have hr : build [⟨⟨1, 0x0D⟩, "Vehicle Speed", "km/h", 1, .uint8, ""⟩,
    ⟨⟨1, 0x0C⟩, "Engine Speed", "rpm", 2, .uint16, "(A*256+B)/4"⟩] = .ok r := by rfl
  have h := represents_of_build hr
  have hd : d ∈ r.descriptors := (h.mem_descriptors_iff d).mpr rfl
  ⟨r, d, hr, h, rfl, hd, (h.interpret_eq_error_iff d hd [77] _).mpr ⟨by decide, rfl⟩⟩

end VehiclePid.Registry
