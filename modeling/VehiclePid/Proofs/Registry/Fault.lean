import Mathlib.Order.Bounds.Defs
import VehiclePid.Proofs.Registry.Build

namespace VehiclePid.Registry

variable {r s : Registry} {x : Record} {xs ys : List Record} {e : BuildError}

def Valid (xs : List Record) : Prop := (xs.map Record.key).Nodup ∧ ∀ x ∈ xs, x.Accepted

/-- Why a record may not join the ones before it. Each reason counts only without those above it. -/
inductive Fault (earlier : List Record) (x : Record) : BuildError → Prop
  | duplicatePid (taken : x.key ∈ earlier.map Record.key) : Fault earlier x (.duplicatePid x.key)
  | invalidWidth (free : x.key ∉ earlier.map Record.key)
      (width : ¬(1 ≤ x.width.toNat ∧ x.width.toNat ≤ 7)) :
      Fault earlier x (.invalidWidth x.key x.width)
  | formula (cause : Formula.CompileError) (free : x.key ∉ earlier.map Record.key)
      (width : 1 ≤ x.width.toNat ∧ x.width.toNat ≤ 7)
      (compile : Formula.compile x.formula = .error cause) : Fault earlier x (.formula x.key cause)
  | operandWidth (f : Formula) (free : x.key ∉ earlier.map Record.key)
      (width : 1 ≤ x.width.toNat ∧ x.width.toNat ≤ 7) (compile : Formula.compile x.formula = .ok f)
      (operands : x.width.toNat < f.operands) :
      Fault earlier x (.operandWidth x.key f.operands x.width)

theorem admits_eq_error_iff :
    r.admits x = .error e ↔ r.contains x.key = true ∧ e = .duplicatePid x.key ∨
      r.contains x.key = false ∧ ¬(1 ≤ x.width.toNat ∧ x.width.toNat ≤ 7) ∧
        e = .invalidWidth x.key x.width := by
  have hw : (x.width = 0 ∨ maxWidth < x.width.toNat) ↔
      ¬(1 ≤ x.width.toNat ∧ x.width.toNat ≤ 7) := by
    rw [← UInt8.toNat_inj]
    change x.width.toNat = 0 ∨ 7 < x.width.toNat ↔ _
    omega
  unfold admits
  cases r.contains x.key with
  | true => simp [eq_comm]
  | false =>
    rw [if_neg Bool.false_ne_true, if_congr hw rfl rfl]
    split <;> simp [*, eq_comm]

theorem Holds.contains_eq_true_iff (h : r.Holds xs) {key : Key} :
    r.contains key = true ↔ key ∈ xs.map Record.key := by
  rw [← Bool.not_eq_false, h.contains_eq_false_iff, Decidable.not_not]

theorem Holds.add_eq_error_iff (h : r.Holds xs) : r.add x = .error e ↔ Fault xs x e := by
  rw [Registry.add, Except.bind_eq_error_iff, admits_eq_error_iff, h.contains_eq_true_iff,
    h.contains_eq_false_iff]
  constructor
  · rintro ((⟨hk, rfl⟩ | ⟨hk, hw, rfl⟩) | ⟨_, ha, hf⟩)
    · exact .duplicatePid hk
    · exact .invalidWidth hk hw
    · obtain ⟨hc, hw⟩ := admits_eq_ok_iff.mp ha
      have hk := h.contains_eq_false_iff.mp hc
      obtain hc | ⟨f, hc, ho⟩ := Except.bind_eq_error_iff.mp hf
      · obtain ⟨cause, he, rfl⟩ := Except.mapError_eq_error_iff.mp hc
        exact .formula cause hk hw he
      · by_cases hlt : x.width.toNat < f.operands
        · rw [if_pos hlt] at ho
          cases ho
          exact .operandWidth f hk hw (Except.mapError_eq_ok_iff.mp hc) hlt
        · rw [if_neg hlt] at ho
          cases ho
  · intro hf
    cases hf with
    | duplicatePid hk => exact .inl (.inl ⟨hk, rfl⟩)
    | invalidWidth hk hw => exact .inl (.inr ⟨hk, hw, rfl⟩)
    | formula cause hk hw hf =>
      refine .inr ⟨(), admits_eq_ok_iff.mpr ⟨h.contains_eq_false_iff.mpr hk, hw⟩, ?_⟩
      exact Except.bind_eq_error_iff.mpr (.inl (Except.mapError_eq_error_iff.mpr ⟨cause, hf, rfl⟩))
    | operandWidth f hk hw hf ho =>
      refine .inr ⟨(), admits_eq_ok_iff.mpr ⟨h.contains_eq_false_iff.mpr hk, hw⟩, ?_⟩
      refine Except.bind_eq_error_iff.mpr (.inr ⟨f, Except.mapError_eq_ok_iff.mpr hf, ?_⟩)
      exact if_pos ho

theorem build_eq_error_iff :
    build xs = .error e ↔
      ∃ earlier x later, xs = earlier ++ x :: later ∧ Valid earlier ∧ Fault earlier x e := by
  rw [build, Except.foldlM_eq_error_iff]
  constructor
  · rintro ⟨earlier, x, later, r, rfl, hr, he⟩
    have hb : build earlier = .ok r := hr
    exact ⟨earlier, x, later, rfl, exists_build_iff.mp ⟨r, hb⟩,
      (holds_of_build hb).add_eq_error_iff.mp he⟩
  · rintro ⟨earlier, x, later, rfl, hv, he⟩
    obtain ⟨r, hr⟩ := exists_build_iff.mpr hv
    exact ⟨earlier, x, later, r, rfl, hr, (holds_of_build hr).add_eq_error_iff.mpr he⟩

theorem Valid.of_append (h : Valid (xs ++ ys)) : Valid xs := by
  obtain ⟨hn, ha⟩ := h
  rw [List.map_append] at hn
  exact ⟨hn.of_append_left, fun x hx => ha x (List.mem_append_left ys hx)⟩

/-- A list of records is built if it is valid. If it is not, the first record that makes it so is at
fault: its key is in the error, and no record behind it changes the result. -/
theorem build_of_valid_or_first_fault (xs : List Record) :
    ((∃ r, build xs = .ok r) ↔ Valid xs) ∧
      (¬Valid xs → ∃ (i : Nat) (h : i < xs.length) (e : BuildError),
        IsLeast {i | ¬Valid (xs.take (i + 1))} i ∧ Fault (xs.take i) xs[i] e ∧
          build xs = .error e ∧ ∀ later, build (xs.take (i + 1) ++ later) = .error e) := by
  refine ⟨exists_build_iff, fun hv => ?_⟩
  obtain ⟨e, he⟩ := Except.exists_eq_error_iff.mpr (mt exists_build_iff.mp hv)
  obtain ⟨earlier, x, later, rfl, hearlier, hf⟩ := build_eq_error_iff.mp he
  have htake : (earlier ++ x :: later).take earlier.length = earlier := by simp
  have hsucc : (earlier ++ x :: later).take (earlier.length + 1) = earlier ++ [x] := by
    rw [List.take_append, List.take_of_length_le (Nat.le_succ _), Nat.add_sub_cancel_left]
    rfl
  have hfails : ∀ rest, build (earlier ++ x :: rest) = .error e := fun rest =>
    build_eq_error_iff.mpr ⟨earlier, x, rest, rfl, hearlier, hf⟩
  refine ⟨earlier.length, by simp, e, ⟨?_, ?_⟩, ?_, he, ?_⟩
  · intro h
    rw [hsucc] at h
    obtain ⟨r, hr⟩ := exists_build_iff.mpr h
    rw [hfails []] at hr
    cases hr
  · intro j hj
    by_contra hlt
    have hv : Valid (earlier.take (j + 1) ++ earlier.drop (j + 1)) := by
      rwa [List.take_append_drop]
    apply hj
    rw [List.take_append_of_le_length (Nat.lt_of_not_le hlt)]
    exact hv.of_append
  · rw [htake]
    simpa using hf
  · intro rest
    rw [hsucc]
    simpa using hfails rest

theorem build_of_valid_or_first_fault_taken :
    ¬Valid [⟨⟨1, 0x0D⟩, "Speed", "km/h", 1, .uint8, ""⟩, ⟨⟨1, 0x0D⟩, "Copy", "", 9, .uint8, "A+"⟩] ∧
      ∃ i, IsLeast {i | ¬Valid (List.take (i + 1) [⟨⟨1, 0x0D⟩, "Speed", "km/h", 1, .uint8, ""⟩,
          ⟨⟨1, 0x0D⟩, "Copy", "", 9, .uint8, "A+"⟩])} i ∧
        ∀ later, build (List.take (i + 1) [⟨⟨1, 0x0D⟩, "Speed", "km/h", 1, .uint8, ""⟩,
          ⟨⟨1, 0x0D⟩, "Copy", "", 9, .uint8, "A+"⟩] ++ later) =
            .error (.duplicatePid ⟨1, 0x0D⟩) :=
  have hb : build [⟨⟨1, 0x0D⟩, "Speed", "km/h", 1, .uint8, ""⟩,
    ⟨⟨1, 0x0D⟩, "Copy", "", 9, .uint8, "A+"⟩] = .error (.duplicatePid ⟨1, 0x0D⟩) := by rfl
  have hv : ¬Valid [⟨⟨1, 0x0D⟩, "Speed", "km/h", 1, .uint8, ""⟩,
    ⟨⟨1, 0x0D⟩, "Copy", "", 9, .uint8, "A+"⟩] := fun h => absurd h.1 (by decide)
  let ⟨i, _, _, hi, _, he, hl⟩ := (build_of_valid_or_first_fault _).2 hv
  ⟨hv, i, hi, fun later => (hl later).trans (he.symm.trans hb)⟩

end VehiclePid.Registry
