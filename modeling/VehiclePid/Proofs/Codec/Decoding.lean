import VehiclePid.Proofs.Codec.Relevance
import VehiclePid.Proofs.Formula.Operands

namespace VehiclePid

def Descriptor.needed (d : Descriptor) : Nat :=
  if d.source.toList.all Text.isBlank then d.width.toNat
  else (Formula.capitals d.source.toList).length

theorem Descriptor.From.required_eq {d : Descriptor} {x : Record} (h : d.From x) :
    d.required = d.needed := by
  rw [required, needed, Formula.isIdentity_of_compile h.compile_eq]
  cases hb : d.source.toList.all Text.isBlank with
  | true => rfl
  | false => rw [Formula.operands_of_compile hb h.compile_eq]

namespace Codec

variable {c : Codec} {r : Registry} {records : List Record} {key : Key} {raw : List UInt8}
  {d : Descriptor} {f : Frame} {o : Except Error Decoded}

/-- The raw bytes that a frame holds for a parameter: no more than it is wide, than the count byte
leaves besides the mode and the parameter id, and than the payload has behind the header. -/
def available (f : Frame) (d : Descriptor) : Nat :=
  min d.width.toNat (min (f.count.toNat - 2) (min f.len.toNat 8 - 3))

/-- What a frame decodes to. Each reason for a failure counts only without those above it. -/
inductive Outcome (r : Registry) (f : Frame) : Except Error Decoded → Prop
  | frameTooShort (short : min f.len.toNat 8 < 3) :
      Outcome r f (.error (.frameTooShort (min f.len.toNat 8)))
  | notAResponse (mode : UInt8) (long : 3 ≤ min f.len.toNat 8) (stored : f.data[1]? = some mode)
      (unmarked : mode < responseMark) : Outcome r f (.error (.notAResponse mode))
  | unknownPid (key : Key) (long : 3 ≤ min f.len.toNat 8) (about : f.Addresses key)
      (unknown : r.get? key = none) : Outcome r f (.error (.lookup (.unknownPid key)))
  | insufficientBytes (key : Key) (d : Descriptor) (long : 3 ≤ min f.len.toNat 8)
      (about : f.Addresses key) (known : r.get? key = some d) (few : available f d < d.needed) :
      Outcome r f (.error (.eval (.insufficientBytes d.needed (available f d))))
  | decoded (key : Key) (d : Descriptor) (raw : List UInt8) (v : Binary .double)
      (long : 3 ≤ min f.len.toNat 8) (about : f.Addresses key) (known : r.get? key = some d)
      (enough : d.needed ≤ available f d) (within : 3 + available f d ≤ min f.len.toNat 8)
      (raw_eq : raw = (f.data.toList.drop 3).take (available f d))
      (value : d.formula.evaluate raw = .ok v) : Outcome r f (.ok ⟨key, d, raw, d.type.cast v⟩)

theorem headerLength_le_iff : Frame.headerLength ≤ f.len.toNat ↔ 3 ≤ min f.len.toNat 8 := by
  change 3 ≤ _ ↔ _
  omega

theorem length_eq_available (h : c.locate f = .ok (key, d, raw)) : raw.length = available f d := by
  rw [length_of_locate h, Frame.room, f.length_payload]
  rfl

theorem raw_eq_of_locate (h : c.locate f = .ok (key, d, raw)) :
    raw = (f.data.toList.drop 3).take (available f d) := by
  rw [← length_eq_available h]
  exact List.prefix_iff_eq_take.mp (isPrefix_of_locate h)

theorem decode_of_locate_error {e : Error} (h : c.locate f = .error e) : c.decode f = .error e :=
  Except.bind_eq_error_iff.mpr (.inl h)

theorem locate_of_short (h : min f.len.toNat 8 < 3) :
    c.locate f = .error (.frameTooShort (min f.len.toNat 8)) := by
  have hl := f.length_payload
  refine Except.bind_eq_error_iff.mpr (.inl ?_)
  unfold headers
  split
  · rename_i hp
    rw [hp] at hl
    simp only [List.length_cons] at hl
    omega
  · rw [hl]

theorem locate_of_unknown (hl : Frame.headerLength ≤ f.len.toNat) (ha : f.Addresses key)
    (hk : c.registry.get? key = none) : c.locate f = .error (.lookup (.unknownPid key)) := by
  obtain ⟨hm, rfl⟩ := ha
  refine Except.bind_eq_error_iff.mpr (.inr ⟨_, headers_eq_ok_iff.mpr ⟨hl, rfl⟩, ?_⟩)
  rw [if_neg (UInt8.not_lt.mpr hm)]
  exact Except.bind_eq_error_iff.mpr (.inl (lookup_eq_error_iff.mpr ⟨hk, rfl⟩))

theorem decode_of_locate {y : Record} (hy : d.From y) (h : c.locate f = .ok (key, d, raw)) :
    (available f d < d.needed →
        c.decode f = .error (.eval (.insufficientBytes d.needed (available f d)))) ∧
      (d.needed ≤ available f d → ∃ v, d.formula.evaluate raw = .ok v ∧
        c.decode f = .ok ⟨key, d, raw, d.type.cast v⟩) := by
  have hlen := length_eq_available h
  rw [← hlen, ← hy.required_eq]
  constructor
  · intro hn
    have hi := hy.interpret_eq_error_iff.mpr ⟨hn, rfl⟩
    refine Except.bind_eq_error_iff.mpr (.inr ⟨_, h, Except.bind_eq_error_iff.mpr (.inl ?_)⟩)
    exact Except.mapError_eq_error_iff.mpr ⟨_, hi, rfl⟩
  · intro hn
    obtain ⟨v, hv, hi⟩ := hy.interpret_eq hn
    have hw : raw.length ≤ d.width.toNat := hlen ▸ Nat.min_le_left _ _
    rw [List.take_of_length_le hw] at hv
    exact ⟨v, hv, decode_eq_ok_iff.mpr ⟨h, hi⟩⟩

theorem exists_locate (hr : Registry.build records = .ok r) (hc : c.Over r)
    (long : 3 ≤ min f.len.toNat 8) (about : f.Addresses key) (known : r.get? key = some d) :
    ∃ raw y, c.locate f = .ok (key, d, raw) ∧ d.From y := by
  obtain ⟨y, -, hy⟩ := (Registry.holds_of_build hr).exists_from known
  rw [← hc.registry_eq] at known
  obtain ⟨raw, hraw⟩ := (exists_locate_iff about known).mpr (headerLength_le_iff.mpr long)
  exact ⟨raw, y, hraw, hy⟩

theorem Outcome.decode_eq (hr : Registry.build records = .ok r) (hc : c.Over r)
    (h : Outcome r f o) : c.decode f = o := by
  have hreg := hc.registry_eq
  cases h with
  | frameTooShort short => exact decode_of_locate_error (locate_of_short short)
  | notAResponse mode long stored unmarked =>
    obtain rfl : f.data[1] = mode := Option.some.inj stored
    exact decode_of_locate_error (locate_of_unmarked (headerLength_le_iff.mpr long) unmarked)
  | unknownPid key long about unknown =>
    exact decode_of_locate_error
      (locate_of_unknown (headerLength_le_iff.mpr long) about (hreg ▸ unknown))
  | insufficientBytes key d long about known few =>
    obtain ⟨raw, y, hloc, hy⟩ := exists_locate hr hc long about known
    exact (decode_of_locate hy hloc).1 few
  | decoded key d raw v long about known enough within raw_eq value =>
    obtain ⟨raw', y, hloc, hy⟩ := exists_locate hr hc long about known
    obtain rfl : raw = raw' := raw_eq.trans (raw_eq_of_locate hloc).symm
    obtain ⟨w, hw, hdec⟩ := (decode_of_locate hy hloc).2 enough
    obtain rfl : v = w := Except.ok.inj (value.symm.trans hw)
    exact hdec

theorem exists_outcome (hr : Registry.build records = .ok r) (hc : c.Over r) (f : Frame) :
    ∃ o, Outcome r f o := by
  by_cases long : 3 ≤ min f.len.toNat 8
  · by_cases marked : responseMark ≤ f.data[1]
    · have about : f.Addresses ⟨f.data[1] - responseMark, f.data[2]⟩ := ⟨marked, rfl⟩
      cases known : r.get? ⟨f.data[1] - responseMark, f.data[2]⟩ with
      | none => exact ⟨_, .unknownPid _ long about known⟩
      | some d =>
        by_cases enough : d.needed ≤ available f d
        · obtain ⟨raw, y, hloc, hy⟩ := exists_locate hr hc long about known
          obtain ⟨v, hv, -⟩ := (decode_of_locate hy hloc).2 enough
          have within : 3 + available f d ≤ min f.len.toNat 8 := by
            rw [available]
            omega
          exact ⟨_, .decoded _ d raw v long about known enough within (raw_eq_of_locate hloc) hv⟩
        · exact ⟨_, .insufficientBytes _ d long about known (Nat.lt_of_not_le enough)⟩
    · exact ⟨_, .notAResponse _ long rfl (UInt8.not_le.mp marked)⟩
  · exact ⟨_, .frameTooShort (Nat.lt_of_not_le long)⟩

/-- Every frame has one outcome, and decodes to it. -/
theorem decode_eq_iff_outcome (hr : Registry.build records = .ok r) (hc : c.Over r) (f : Frame)
    (o : Except Error Decoded) : c.decode f = o ↔ Outcome r f o := by
  constructor
  · rintro rfl
    obtain ⟨o, ho⟩ := exists_outcome hr hc f
    rw [ho.decode_eq hr hc]
    exact ho
  · exact fun h => h.decode_eq hr hc

theorem decode_eq_iff_outcome_uncounted :
    ∃ r d, Registry.build [⟨⟨1, 0x0C⟩, "Engine Speed", "rpm", 2, .uint16, "A*64"⟩] = .ok r ∧
      r.get? ⟨1, 0x0C⟩ = some d ∧
      (standard r).decode ⟨0x7E7, 255, #v[0, 0x41, 0x0C, 77, 130, 1, 2, 3]⟩ =
        .error (.eval (.insufficientBytes 1 0)) ∧
      (standard r).decode ⟨0x7E7, 4, #v[255, 0x41, 0x0C, 77, 130, 1, 2, 3]⟩ =
        .ok ⟨⟨1, 0x0C⟩, d, [77], .uint16 4928⟩ :=
  let d : Descriptor := ⟨⟨1, 0x0C⟩, "Engine Speed", ⟨0⟩, 2, .uint16, "A*64",
    ⟨[.operand 0, .literal (.ofNat 64), .operator .mul], 1⟩⟩
  let r : Registry := ⟨[d], ["rpm"]⟩
  have hr : Registry.build
    [⟨⟨1, 0x0C⟩, "Engine Speed", "rpm", 2, .uint16, "A*64"⟩] = .ok r := by rfl
  have hn : d.needed = 1 := by decide
  have hfew := (decode_eq_iff_outcome hr (.inl rfl)
    ⟨0x7E7, 255, #v[0, 0x41, 0x0C, 77, 130, 1, 2, 3]⟩ _).mpr
    (.insufficientBytes ⟨1, 0x0C⟩ d (by decide) ⟨by decide, rfl⟩ rfl (by decide))
  have hv : d.formula.evaluate [77] = .ok (.ofNat 4928) := by rfl
  have hdec := (decode_eq_iff_outcome hr (.inl rfl)
    ⟨0x7E7, 4, #v[255, 0x41, 0x0C, 77, 130, 1, 2, 3]⟩ _).mpr
    (.decoded ⟨1, 0x0C⟩ d [77] _ (by decide) ⟨by decide, rfl⟩ rfl (by decide) (by decide) rfl hv)
  ⟨r, d, hr, rfl, hn ▸ hfew, hdec⟩

end Codec

end VehiclePid
