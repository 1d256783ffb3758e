import VehiclePid.Registry
import VehiclePid.Proofs.Except
import VehiclePid.Proofs.Keyed
import VehiclePid.Proofs.Formula.Safety

namespace VehiclePid

structure Record.Accepted (x : Record) : Prop where
  width_pos : 0 < x.width.toNat
  width_le : x.width.toNat ≤ Registry.maxWidth
  compiles : ∃ f, Formula.compile x.formula = .ok f ∧ f.operands ≤ x.width.toNat

/-- A descriptor that was compiled from a record which passed the checks. -/
structure Descriptor.From (d : Descriptor) (x : Record) : Prop where
  key_eq : d.key = x.key
  name_eq : d.name = x.name
  width_eq : d.width = x.width
  type_eq : d.type = x.type
  source_eq : d.source = x.formula
  width_pos : 0 < d.width.toNat
  width_le : d.width.toNat ≤ Registry.maxWidth
  compile_eq : Formula.compile d.source = .ok d.formula
  operands_le : d.formula.operands ≤ d.width.toNat

namespace Descriptor.From

variable {d : Descriptor} {x : Record}

theorem required_le (h : d.From x) : d.required ≤ d.width.toNat := by
  unfold required
  split
  · exact Nat.le_refl _
  · exact h.operands_le

theorem exists_evaluate (h : d.From x) {raw : List UInt8} (hr : d.required ≤ raw.length) :
    ∃ v, d.formula.evaluate (raw.take d.width.toNat) = .ok v := by
  have hn : d.formula.needed ≤ (raw.take d.width.toNat).length := by
    have hw := h.width_pos
    have ho := h.operands_le
    rw [List.length_take, Formula.needed]
    unfold required at hr
    split at hr <;> rename_i hi <;> simp only [hi, if_true, Bool.false_eq_true, if_false] <;> omega
  cases he : d.formula.evaluate (raw.take d.width.toNat) with
  | ok v => exact ⟨v, rfl⟩
  | error e =>
    have hs := (((Formula.safe_of_compile h.compile_eq).error_iff _ e).mp he).1
    exact absurd hs (Nat.not_lt_of_le hn)

theorem interpret_eq (h : d.From x) {raw : List UInt8} (hr : d.required ≤ raw.length) :
    ∃ v, d.formula.evaluate (raw.take d.width.toNat) = .ok v ∧
      d.interpret raw = .ok (d.type.cast v) := by
  obtain ⟨v, hv⟩ := h.exists_evaluate hr
  refine ⟨v, hv, ?_⟩
  rw [interpret, result, if_neg (Nat.not_lt_of_le hr), hv]
  rfl

theorem exists_interpret_iff (h : d.From x) {raw : List UInt8} :
    (∃ v, d.interpret raw = .ok v) ↔ d.required ≤ raw.length := by
  constructor
  · rintro ⟨v, hv⟩
    by_contra hr
    rw [interpret, result, if_pos (Nat.lt_of_not_le hr)] at hv
    cases hv
  · intro hr
    obtain ⟨v, -, hv⟩ := h.interpret_eq hr
    exact ⟨_, hv⟩

theorem interpret_eq_error_iff (h : d.From x) {raw : List UInt8} {e : Formula.EvalError} :
    d.interpret raw = .error e ↔
      raw.length < d.required ∧ e = .insufficientBytes d.required raw.length := by
  by_cases hr : raw.length < d.required
  · rw [interpret, result, if_pos hr]
    change Except.error (Formula.EvalError.insufficientBytes d.required raw.length) = .error e ↔ _
    rw [Except.error.injEq, eq_comm, and_iff_right hr]
  · obtain ⟨v, -, hv⟩ := h.interpret_eq (Nat.le_of_not_lt hr)
    rw [hv]
    exact ⟨nofun, fun h => absurd h.1 hr⟩

theorem evaluate_congr (h : d.From x) {raw raw' : List UInt8}
    (ht : raw.take d.required = raw'.take d.required) :
    d.formula.evaluate (raw.take d.width.toNat) = d.formula.evaluate (raw'.take d.width.toNat) := by
  cases hi : d.formula.isIdentity with
  | true =>
    rw [required, if_pos hi] at ht
    rw [ht]
  | false =>
    rw [required, hi, if_neg Bool.false_ne_true] at ht
    apply (Formula.safe_of_compile h.compile_eq).evaluate_congr hi
    rw [List.take_take, List.take_take, Nat.min_eq_left h.operands_le, ht]

theorem interpret_congr (h : d.From x) {raw raw' : List UInt8}
    (ht : raw.take d.required = raw'.take d.required) : d.interpret raw = d.interpret raw' := by
  have hl := congrArg List.length ht
  rw [List.length_take, List.length_take] at hl
  by_cases hr : raw.length < d.required
  · -- Both payloads are short, so they are what was taken of them.
    rw [List.take_of_length_le (by omega), List.take_of_length_le (by omega)] at ht
    rw [ht]
  · have hr' : ¬raw'.length < d.required := by omega
    rw [interpret, interpret, result, result, if_neg hr, if_neg hr', h.evaluate_congr ht]

theorem map_key_eq {ds : List Descriptor} {xs : List Record} (h : List.Forall₂ From ds xs) :
    ds.map key = xs.map Record.key := by
  induction h with
  | nil => rfl
  | cons hd _ ih => rw [List.map_cons, List.map_cons, hd.key_eq, ih]

end Descriptor.From

namespace Registry

/-- A registry that holds the descriptors of some records, in their order. -/
structure Holds (r : Registry) (xs : List Record) : Prop where
  entries : List.Forall₂ Descriptor.From r.entries xs
  nodup : (r.entries.map Descriptor.key).Nodup

variable {r s : Registry} {x : Record} {xs ys : List Record}

theorem lookup_eq_ok_iff {key : Key} {d : Descriptor} :
    r.lookup key = .ok d ↔ r.get? key = some d := by
  unfold lookup
  cases r.get? key <;> simp

theorem lookup_eq_error_iff {key : Key} {e : LookupError} :
    r.lookup key = .error e ↔ r.get? key = none ∧ e = .unknownPid key := by
  unfold lookup
  cases r.get? key <;> simp [eq_comm]

theorem contains_eq_false_iff {key : Key} :
    r.contains key = false ↔ key ∉ r.entries.map Descriptor.key := by
  rw [contains, List.any_eq_false, List.mem_map]
  simp

theorem admits_eq_ok_iff :
    r.admits x = .ok () ↔ r.contains x.key = false ∧ 0 < x.width.toNat ∧
      x.width.toNat ≤ maxWidth := by
  have hz : x.width = 0 ↔ x.width.toNat = 0 := UInt8.toNat_inj.symm
  unfold admits
  split
  · rename_i h
    simp [h]
  · rename_i h
    split <;> rename_i hw <;> simp only [hz] at hw <;> simp [h] <;> omega

theorem add_eq_ok_iff :
    r.add x = .ok s ↔ r.contains x.key = false ∧ (0 < x.width.toNat ∧ x.width.toNat ≤ maxWidth) ∧
      ∃ f, Formula.compile x.formula = .ok f ∧ f.operands ≤ x.width.toNat ∧
        s = ⟨r.entries ++ [⟨x.key, x.name, (intern r.units x.unit).1, x.width, x.type, x.formula, f⟩],
          (intern r.units x.unit).2⟩ := by
  unfold add
  rw [Except.bind_eq_ok_iff]
  constructor
  · rintro ⟨_, ha, h⟩
    obtain ⟨f, hf, h⟩ := Except.bind_eq_ok_iff.mp h
    obtain ⟨hc, hw⟩ := admits_eq_ok_iff.mp ha
    split at h
    · cases h
    · rename_i ho
      cases h
      exact ⟨hc, hw, f, Except.mapError_eq_ok_iff.mp hf, Nat.le_of_not_lt ho, rfl⟩
  · rintro ⟨hc, hw, f, hf, ho, rfl⟩
    refine ⟨(), admits_eq_ok_iff.mpr ⟨hc, hw⟩, Except.bind_eq_ok_iff.mpr ⟨f, ?_, ?_⟩⟩
    · exact Except.mapError_eq_ok_iff.mpr hf
    · rw [if_neg (Nat.not_lt_of_le ho)]
      rfl

namespace Holds

theorem empty : Registry.empty.Holds [] := ⟨.nil, List.nodup_nil⟩

theorem add (h : r.Holds xs) (ha : r.add x = .ok s) : s.Holds (xs ++ [x]) := by
  obtain ⟨hc, hw, f, hf, ho, rfl⟩ := add_eq_ok_iff.mp ha
  refine ⟨List.rel_append h.entries (.cons ?_ .nil), ?_⟩
  · exact ⟨rfl, rfl, rfl, rfl, rfl, hw.1, hw.2, hf, ho⟩
  · rw [List.map_append, List.nodup_append]
    refine ⟨h.nodup, by simp, ?_⟩
    rintro a ha b hb rfl
    simp only [List.map_cons, List.map_nil, List.mem_singleton] at hb
    exact contains_eq_false_iff.mp hc (hb ▸ ha)

theorem foldlM (h : r.Holds xs) (hs : ys.foldlM Registry.add r = .ok s) :
    s.Holds (xs ++ ys) :=
  Except.foldlM_preserves (P := fun xs r => r.Holds xs) (fun _ _ _ _ => add) h hs

end Holds

theorem Holds.nodup_keys (h : r.Holds xs) : (xs.map Record.key).Nodup :=
  Descriptor.From.map_key_eq h.entries ▸ h.nodup

theorem holds_of_build (h : build xs = .ok r) : r.Holds xs := Holds.empty.foldlM h

theorem Holds.exists_from {d : Descriptor} {key : Key} (h : r.Holds xs) (hd : r.get? key = some d) :
    ∃ x ∈ xs, d.From x :=
  exists_right_of_mem h.entries (List.mem_of_find?_eq_some hd)

theorem exists_add_iff : (∃ s, r.add x = .ok s) ↔ r.contains x.key = false ∧ x.Accepted := by
  constructor
  · rintro ⟨s, h⟩
    obtain ⟨hc, ⟨hp, hl⟩, f, hf, ho, -⟩ := add_eq_ok_iff.mp h
    exact ⟨hc, hp, hl, f, hf, ho⟩
  · rintro ⟨hc, hp, hl, f, hf, ho⟩
    exact ⟨_, add_eq_ok_iff.mpr ⟨hc, ⟨hp, hl⟩, f, hf, ho, rfl⟩⟩

theorem Holds.contains_eq_false_iff (h : r.Holds xs) {key : Key} :
    r.contains key = false ↔ key ∉ xs.map Record.key := by
  rw [Registry.contains_eq_false_iff, Descriptor.From.map_key_eq h.entries]

theorem Holds.exists_foldlM_iff (h : r.Holds xs) :
    (∃ s, ys.foldlM Registry.add r = .ok s) ↔
      ((xs ++ ys).map Record.key).Nodup ∧ ∀ y ∈ ys, y.Accepted := by
  induction ys generalizing r xs with
  | nil => exact ⟨fun _ => ⟨by simpa using h.nodup_keys, by simp⟩, fun _ => ⟨r, rfl⟩⟩
  | cons y ys ih =>
    simp only [List.foldlM_cons, Except.bind_eq_ok_iff, List.forall_mem_cons]
    constructor
    · rintro ⟨s, t, ht, hs⟩
      obtain ⟨-, hy⟩ := exists_add_iff.mp ⟨t, ht⟩
      obtain ⟨hn, hys⟩ := (ih (h.add ht)).mp ⟨s, hs⟩
      exact ⟨by simpa using hn, hy, hys⟩
    · rintro ⟨hn, hy, hys⟩
      have hk : y.key ∉ xs.map Record.key := by
        rw [List.map_append, List.nodup_append] at hn
        exact fun hm => hn.2.2 y.key hm y.key (by simp) rfl
      obtain ⟨t, ht⟩ := exists_add_iff.mpr ⟨h.contains_eq_false_iff.mpr hk, hy⟩
      obtain ⟨s, hs⟩ := (ih (h.add ht)).mpr ⟨by simpa using hn, hys⟩
      exact ⟨s, t, ht, hs⟩

theorem exists_build_iff :
    (∃ r, build xs = .ok r) ↔ (xs.map Record.key).Nodup ∧ ∀ x ∈ xs, x.Accepted :=
  Holds.empty.exists_foldlM_iff

end Registry

end VehiclePid
