import VehiclePid.Proofs.Codec.Storing
import VehiclePid.Proofs.Registry.Order

namespace VehiclePid

structure Codec.Decoded.Alike (x y : Codec.Decoded) : Prop where
  key_eq : x.key = y.key
  descriptor : x.descriptor.Alike y.descriptor
  raw_eq : x.raw = y.raw
  value_eq : x.value = y.value

/-- Codecs that give the same frames, values and errors, and leave a buffer the same. -/
structure Codec.Alike (c c' : Codec) : Prop where
  query_eq : ∀ key, c.query key = c'.query key
  respond_eq : ∀ key raw, c.respond key raw = c'.respond key raw
  decode : ∀ f, Except.Agree Decoded.Alike (c.decode f) (c'.decode f)
  store_eq : ∀ f out, (c.store f).run.run out = (c'.store f).run.run out

variable {d e : Descriptor} {r s : Registry} {xs ys : List Record}

namespace Descriptor.Alike

theorem width_eq (h : d.Alike e) : d.width = e.width := by
  rw [h]

theorem interpret_eq (h : d.Alike e) (raw : List UInt8) : d.interpret raw = e.interpret raw := by
  rw [h]
  rfl

end Descriptor.Alike

theorem Registry.Alike.lookup (h : r.Alike s) (key : Key) :
    Except.Agree Descriptor.Alike (r.lookup key) (s.lookup key) := by
  have hrel := h.get? key
  unfold Registry.lookup
  generalize r.get? key = x, s.get? key = y at hrel
  cases hrel with
  | some hde => exact .ok hde
  | none => exact .error _

namespace Codec

variable {c c' : Codec}

/-- What two codecs share when they differ at most in their registries, and these at most in how
units are numbered. -/
structure Parallel (c c' : Codec) : Prop where
  registry : c.registry.Alike c'.registry
  addressing_eq : c.addressing = c'.addressing
  responseId_eq : c.responseId = c'.responseId

namespace Parallel

theorem lookup (h : Parallel c c') (key : Key) :
    Except.Agree Descriptor.Alike (c.lookup key) (c'.lookup key) :=
  (h.registry.lookup key).mapError Error.lookup

theorem frame_eq (h : Parallel c c') (id : UInt16) (bytes : List UInt8) :
    c.frame id bytes = c'.frame id bytes := by
  rw [frame, frame, h.addressing_eq]

theorem query_eq (h : Parallel c c') (key : Key) : c.query key = c'.query key := by
  apply Except.Agree.eq
  refine (h.lookup key).bind fun d e _ => ?_
  rw [h.frame_eq, h.addressing_eq]
  exact .refl _

theorem respond_eq (h : Parallel c c') (key : Key) (raw : List UInt8) :
    c.respond key raw = c'.respond key raw := by
  unfold respond
  by_cases hl : Frame.maxRaw < raw.length
  · rw [if_pos hl, if_pos hl]
  · rw [if_neg hl, if_neg hl]
    apply Except.Agree.eq
    refine (h.lookup key).bind fun d e hde => ?_
    rw [hde.width_eq, h.frame_eq, h.responseId_eq]
    exact .refl _

theorem locate (h : Parallel c c') (f : Frame) :
    Except.Agree (fun x y => x.1 = y.1 ∧ x.2.1.Alike y.2.1 ∧ x.2.2 = y.2.2)
      (c.locate f) (c'.locate f) := by
  refine (Except.Agree.refl (headers f)).bind fun stored _ hs => ?_
  subst hs
  by_cases hm : stored.mode < responseMark
  · rw [if_pos hm, if_pos hm]
    exact .error _
  · rw [if_neg hm, if_neg hm]
    refine (h.lookup _).bind fun d e hde => ?_
    rw [hde.width_eq]
    exact .ok ⟨rfl, hde, rfl⟩

theorem decode (h : Parallel c c') (f : Frame) :
    Except.Agree Decoded.Alike (c.decode f) (c'.decode f) := by
  refine (h.locate f).bind ?_
  rintro ⟨key, d, raw⟩ ⟨_, e, _⟩ ⟨rfl, hde, rfl⟩
  dsimp only
  rw [hde.interpret_eq]
  refine (Except.Agree.refl _).bind fun v _ hv => ?_
  exact .ok ⟨rfl, hde, rfl, hv⟩

theorem store_eq (h : Parallel c c') (f : Frame) (out : List UInt8) :
    (c.store f).run.run out = (c'.store f).run.run out := by
  have hrel := h.decode f
  rw [run_store, run_store]
  generalize c.decode f = x, c'.decode f = y at hrel
  cases hrel with
  | error e => rfl
  | ok hxy =>
    dsimp only
    rw [hxy.value_eq]

theorem alike (h : Parallel c c') : c.Alike c' where
  query_eq := h.query_eq
  respond_eq := h.respond_eq
  decode := h.decode
  store_eq := h.store_eq

end Parallel

theorem alike_withAddressing (h : r.Alike s) (a : Addressing) :
    Except.Agree Codec.Alike (withAddressing r a) (withAddressing s a) := by
  refine (Except.Agree.refl a.responseId).map ?_
  rintro id _ rfl
  exact Parallel.alike ⟨h, rfl, rfl⟩

end Codec

/-- Records in another order are accepted just when they were, and nothing tells the registries
apart but the ids of units themselves: no descriptor, no unit, no list of them, no codec. -/
theorem Registry.build_alike_of_perm (h : xs.Perm ys) :
    ((∃ r, build xs = .ok r) ↔ ∃ s, build ys = .ok s) ∧
      ∀ r s, build xs = .ok r → build ys = .ok s →
        r.Alike s ∧ (Codec.standard r).Alike (.standard s) ∧
          ∀ a, Except.Agree Codec.Alike (Codec.withAddressing r a) (Codec.withAddressing s a) := by
  refine ⟨⟨exists_build_of_perm h, exists_build_of_perm h.symm⟩, fun r s hr hs => ?_⟩
  have ha := alike_of_perm h hr hs
  exact ⟨ha, Codec.Parallel.alike ⟨ha, rfl, rfl⟩, Codec.alike_withAddressing ha⟩

theorem Registry.build_alike_of_perm_swapped :
    ∃ r s, build [⟨⟨1, 0x0C⟩, "Engine Speed", "rpm", 2, .uint16, "(A*256+B)/4"⟩,
        ⟨⟨1, 0x0D⟩, "Vehicle Speed", "km/h", 1, .uint8, ""⟩] = .ok r ∧
      build [⟨⟨1, 0x0D⟩, "Vehicle Speed", "km/h", 1, .uint8, ""⟩,
        ⟨⟨1, 0x0C⟩, "Engine Speed", "rpm", 2, .uint16, "(A*256+B)/4"⟩] = .ok s ∧
      r.units = ["rpm", "km/h"] ∧ s.units = ["km/h", "rpm"] ∧
      r.Alike s ∧ (Codec.standard r).Alike (.standard s) :=
  let f : Formula := ⟨[.operand 0, .literal (.ofNat 256), .operator .mul, .operand 1,
    .operator .add, .literal (.ofNat 4), .operator .div], 2⟩
  let engine (unit : UnitId) : Descriptor :=
    ⟨⟨1, 0x0C⟩, "Engine Speed", unit, 2, .uint16, "(A*256+B)/4", f⟩
  let vehicle (unit : UnitId) : Descriptor :=
    ⟨⟨1, 0x0D⟩, "Vehicle Speed", unit, 1, .uint8, "", .identity⟩
  have hr : build [⟨⟨1, 0x0C⟩, "Engine Speed", "rpm", 2, .uint16, "(A*256+B)/4"⟩,
      ⟨⟨1, 0x0D⟩, "Vehicle Speed", "km/h", 1, .uint8, ""⟩] =
    .ok ⟨[engine ⟨0⟩, vehicle ⟨1⟩], ["rpm", "km/h"]⟩ := by rfl
  have hs : build [⟨⟨1, 0x0D⟩, "Vehicle Speed", "km/h", 1, .uint8, ""⟩,
      ⟨⟨1, 0x0C⟩, "Engine Speed", "rpm", 2, .uint16, "(A*256+B)/4"⟩] =
    .ok ⟨[vehicle ⟨0⟩, engine ⟨1⟩], ["km/h", "rpm"]⟩ := by rfl
  have h := (build_alike_of_perm (.swap _ _ [])).2 _ _ hr hs
  ⟨_, _, hr, hs, rfl, rfl, h.1, h.2.1⟩

end VehiclePid
