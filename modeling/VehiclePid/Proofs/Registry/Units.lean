import Mathlib.Data.List.Induction
import VehiclePid.Proofs.Registry.Build

namespace VehiclePid

namespace Registry

variable {r s : Registry} {x : Record} {xs : List Record} {units units' : List String}
  {name : String} {unit : UnitId}

/-- What interning gives: an id of the name among the names, which only grow at their end. -/
structure Interned (units : List String) (name : String) (unit : UnitId) (units' : List String) :
    Prop where
  getElem?_eq : units'[unit.index.toNat]? = some name
  isPrefix : units <+: units'
  length_le : units'.length ≤ units.length + 1

theorem interned_intern (units : List String) (name : String) (h : units.length < 65536) :
    Interned units name (intern units name).1 (intern units name).2 := by
  unfold intern
  cases hi : units.idxOf? name with
  | some i =>
    obtain ⟨hlt, heq, -⟩ := List.idxOf?_eq_some_iff.mp hi
    have hn : (UInt16.ofNat i).toNat = i := UInt16.toNat_ofNat_of_lt' (Nat.lt_trans hlt h)
    refine ⟨?_, List.prefix_refl units, Nat.le_succ _⟩
    change units[(UInt16.ofNat i).toNat]? = some name
    rw [hn, List.getElem?_eq_getElem hlt, heq]
  | none =>
    have hn : (UInt16.ofNat units.length).toNat = units.length := UInt16.toNat_ofNat_of_lt' h
    refine ⟨?_, List.prefix_append units [name], by simp⟩
    change (units ++ [name])[(UInt16.ofNat units.length).toNat]? = some name
    rw [hn, List.getElem?_append_right (Nat.le_refl _), Nat.sub_self]
    rfl

theorem eraseDups_concat (names : List String) (name : String) :
    (names ++ [name]).eraseDups =
      if name ∈ names then names.eraseDups else names.eraseDups ++ [name] := by
  rw [List.eraseDups_append]
  by_cases h : name ∈ names
  · simp [h, List.removeAll]
  · simp [h, List.removeAll, List.eraseDups_cons]

theorem nodup_eraseDups (names : List String) : names.eraseDups.Nodup := by
  induction names using List.reverseRecOn with
  | nil => exact List.nodup_nil
  | append_singleton names name ih =>
    rw [eraseDups_concat]
    by_cases h : name ∈ names
    · rwa [if_pos h]
    · rw [if_neg h, ← List.concat_eq_append]
      exact ih.concat (mt List.mem_eraseDups.mp h)

theorem intern_eraseDups (names : List String) (name : String) :
    (intern names.eraseDups name).2 = (names ++ [name]).eraseDups := by
  rw [eraseDups_concat]
  unfold intern
  by_cases h : name ∈ names
  · obtain ⟨i, hi⟩ : ∃ i, names.eraseDups.idxOf? name = some i := by
      rw [← Option.isSome_iff_exists, List.isSome_idxOf?, List.mem_eraseDups]
      exact h
    rw [if_pos h, hi]
  · rw [if_neg h, List.idxOf?_eq_none_iff.mpr (mt List.mem_eraseDups.mp h)]

theorem index_intern (h : name ∉ units) (hl : units.length < 65536) :
    (intern units name).1.index.toNat = units.length := by
  unfold intern
  rw [List.idxOf?_eq_none_iff.mpr h]
  exact UInt16.toNat_ofNat_of_lt' hl

theorem unitName_eq_ok_iff :
    r.unitName unit = .ok name ↔ r.units[unit.index.toNat]? = some name := by
  unfold unitName
  cases r.units[unit.index.toNat]? <;> simp

theorem unitName_eq_error_iff {e : LookupError} :
    r.unitName unit = .error e ↔ r.units.length ≤ unit.index.toNat ∧ e = .unknownUnit unit := by
  rw [← List.getElem?_eq_none_iff]
  unfold unitName
  cases r.units[unit.index.toNat]? <;> simp [eq_comm]

theorem unit_eq_of_unitName (hn : r.units.Nodup) {unit' : UnitId} (h : r.unitName unit = .ok name)
    (h' : r.unitName unit' = .ok name) : unit = unit' := by
  rw [unitName_eq_ok_iff] at h h'
  obtain ⟨hlt, -⟩ := List.getElem?_eq_some_iff.mp h
  have hi : unit.index.toNat = unit'.index.toNat := (List.getElem?_inj hlt hn).mp (h.trans h'.symm)
  calc
    unit = ⟨unit.index⟩ := rfl
    _ = unit' := by rw [UInt16.toNat_inj.mp hi]

theorem unitName_of_isPrefix (h : r.units <+: s.units) (hu : r.unitName unit = .ok name) :
    s.unitName unit = .ok name := by
  rw [unitName_eq_ok_iff] at hu ⊢
  obtain ⟨more, hm⟩ := h
  obtain ⟨hlt, -⟩ := List.getElem?_eq_some_iff.mp hu
  rw [← hm, List.getElem?_append_left hlt, hu]

structure Resolves (r : Registry) (xs : List Record) : Prop where
  entries : List.Forall₂ (fun d x => d.key = x.key ∧ r.unitName d.unit = .ok x.unit) r.entries xs
  length_le : r.units.length ≤ r.entries.length

namespace Resolves

theorem empty : Registry.empty.Resolves [] := ⟨.nil, Nat.le_refl 0⟩

theorem add (h : r.Resolves xs) (hr : r.Holds xs) (ha : r.add x = .ok s) :
    s.Resolves (xs ++ [x]) := by
  have hs := Key.length_le_of_nodup (hr.add ha).nodup
  obtain ⟨-, -, f, -, -, rfl⟩ := add_eq_ok_iff.mp ha
  have hl := h.length_le
  simp only [List.map_append, List.map_cons, List.map_nil, List.length_append, List.length_map,
    List.length_singleton] at hs
  have hi := interned_intern r.units x.unit (by omega)
  constructor
  · refine List.rel_append (h.entries.imp fun d y hd => ?_) (.cons ⟨rfl, ?_⟩ .nil)
    · exact ⟨hd.1, unitName_of_isPrefix hi.isPrefix hd.2⟩
    · exact unitName_eq_ok_iff.mpr hi.getElem?_eq
  · have hlen := hi.length_le
    rw [List.length_append, List.length_singleton]
    exact Nat.le_trans hlen (Nat.succ_le_succ hl)

end Resolves

theorem resolves_of_build (h : build xs = .ok r) : r.Resolves xs :=
  (Except.foldlM_preserves (P := fun xs r => r.Holds xs ∧ r.Resolves xs)
    (fun _ _ _ _ hr ha => ⟨hr.1.add ha, hr.2.add hr.1 ha⟩) ⟨Holds.empty, Resolves.empty⟩ h).2

theorem units_add {names : List String} (h : r.units = names.eraseDups) (ha : r.add x = .ok s) :
    s.units = (names ++ [x.unit]).eraseDups := by
  obtain ⟨-, -, f, -, -, rfl⟩ := add_eq_ok_iff.mp ha
  rw [← intern_eraseDups, ← h]

theorem units_of_build (h : build xs = .ok r) : r.units = (xs.map Record.unit).eraseDups := by
  have hempty : Registry.empty.units = (([] : List Record).map Record.unit).eraseDups := rfl
  refine Except.foldlM_preserves (P := fun xs r => r.units = (xs.map Record.unit).eraseDups)
    (fun xs x r s hr ha => ?_) hempty h
  rw [List.map_append]
  exact units_add hr ha

theorem length_units_le (h : build xs = .ok r) : r.units.length ≤ xs.length :=
  (resolves_of_build h).entries.length_eq ▸ (resolves_of_build h).length_le

theorem length_records_le (h : build xs = .ok r) : xs.length ≤ 65536 := by
  have hn := Key.length_le_of_nodup (holds_of_build h).nodup_keys
  rwa [List.length_map] at hn

theorem exists_build_before {ys : List Record} (h : build (xs ++ x :: ys) = .ok r) :
    ∃ s, build xs = .ok s ∧ s.units.length < 65536 := by
  have hl := length_records_le h
  rw [build, List.foldlM_append] at h
  obtain ⟨s, hs, -⟩ := Except.bind_eq_ok_iff.mp h
  have hu := length_units_le hs
  rw [List.length_append, List.length_cons] at hl
  exact ⟨s, hs, by omega⟩

end Registry

end VehiclePid
