import VehiclePid.Proofs.Codec.Decoding

namespace VehiclePid

/-- The formula has neither an operand nor the raw bytes to pass through. -/
def Descriptor.IsConstant (d : Descriptor) : Prop :=
  (∃ c ∈ d.source.toList, Text.isBlank c = false) ∧ ∀ c ∈ d.source.toList, ¬('A' ≤ c ∧ c ≤ 'Z')

theorem Descriptor.From.required_eq_zero_iff {d : Descriptor} {x : Record} (h : d.From x) :
    d.required = 0 ↔ d.IsConstant := by
  have hcapitals : (Formula.capitals d.source.toList).length = 0 ↔
      ∀ c ∈ d.source.toList, ¬('A' ≤ c ∧ c ≤ 'Z') := by
    rw [List.length_eq_zero_iff, List.eq_nil_iff_forall_not_mem]
    exact forall_congr' fun c => by rw [Formula.mem_capitals, not_and]
  have hblank : d.source.toList.all Text.isBlank = true ↔
      ¬∃ c ∈ d.source.toList, Text.isBlank c = false := by
    simp
  have hw := h.width_pos
  rw [h.required_eq, needed, IsConstant, ← hcapitals]
  split
  · rename_i hb
    exact ⟨fun hz => absurd hz hw.ne', fun hc => absurd hc.1 (hblank.mp hb)⟩
  · rename_i hb
    exact ⟨fun hz => ⟨not_not.mp (mt hblank.mpr hb), hz⟩, And.right⟩

namespace Codec

variable {c : Codec} {r : Registry} {records : List Record} {key : Key} {d : Descriptor}

theorem headerLength_le_question : Frame.headerLength ≤ (c.question key).len.toNat :=
  (by decide : Frame.headerLength ≤ (8 : UInt8).toNat)

theorem getElem_question (i : Nat) (h : i < 8) : (c.question key).data[i] =
    [2, key.mode, key.pid].getD i c.addressing.padding := getElem_frame _ _ _ h

theorem toNat_count_question : (c.question key).count.toNat = 2 :=
  congrArg UInt8.toNat (getElem_question 0 _)

theorem room_question : (c.question key).room = 0 := by
  rw [Frame.room, toNat_count_question, Nat.sub_self, Nat.zero_min]

theorem available_question (d : Descriptor) : available (c.question key) d = 0 := by
  rw [available, toNat_count_question, Nat.sub_self, Nat.zero_min, Nat.min_zero]

theorem addresses_question (hm : 0x40 ≤ key.mode) :
    (c.question key).Addresses ⟨key.mode - 0x40, key.pid⟩ := by
  rw [Frame.Addresses, getElem_question, getElem_question]
  exact ⟨hm, rfl⟩

theorem exists_decode_question_iff (hr : Registry.build records = .ok r) (hc : c.Over r)
    (hm : 0x40 ≤ key.mode) (hd : r.get? ⟨key.mode - 0x40, key.pid⟩ = some d) :
    (∃ x, c.decode (c.question key) = .ok x) ↔ d.IsConstant := by
  obtain ⟨y, -, hy⟩ := (Registry.holds_of_build hr).exists_from hd
  rw [← hc.registry_eq] at hd
  rw [exists_decode_iff hy (addresses_question hm) hd, room_question, Nat.le_zero,
    hy.required_eq_zero_iff]
  exact and_iff_right headerLength_le_question

theorem decode_question_of_few (hr : Registry.build records = .ok r) (hc : c.Over r)
    (hm : 0x40 ≤ key.mode) (hd : r.get? ⟨key.mode - 0x40, key.pid⟩ = some d)
    (hn : ¬d.IsConstant) :
    c.decode (c.question key) = .error (.eval (.insufficientBytes d.required 0)) := by
  obtain ⟨y, -, hy⟩ := (Registry.holds_of_build hr).exists_from hd
  have hpos : 0 < d.needed := by
    rw [← hy.required_eq]
    exact Nat.pos_of_ne_zero (mt hy.required_eq_zero_iff.mp hn)
  have hfew : available (c.question key) d < d.needed := by rwa [available_question]
  have h := (Outcome.insufficientBytes _ d (headerLength_le_iff.mp headerLength_le_question)
    (addresses_question hm) hd hfew).decode_eq hr hc
  rwa [available_question, ← hy.required_eq] at h

/-- A query decodes only if its mode is that of a response, about a registered parameter whose
formula is constant. -/
theorem decode_query (hr : Registry.build records = .ok r) (hc : c.Over r)
    (hk : r.get? key = some d) : ∃ f, c.query key = .ok f ∧
      ((∃ x, c.decode f = .ok x) ↔ 0x40 ≤ key.mode ∧
        ∃ d, r.get? ⟨key.mode - 0x40, key.pid⟩ = some d ∧ d.IsConstant) ∧
      (key.mode < 0x40 → c.decode f = .error (.notAResponse key.mode)) ∧
      (0x40 ≤ key.mode → r.get? ⟨key.mode - 0x40, key.pid⟩ = none →
        c.decode f = .error (.lookup (.unknownPid ⟨key.mode - 0x40, key.pid⟩))) ∧
      (0x40 ≤ key.mode → ∀ d, r.get? ⟨key.mode - 0x40, key.pid⟩ = some d → ¬d.IsConstant →
        c.decode f = .error (.eval (.insufficientBytes d.required 0))) := by
  have hregistry := hc.registry_eq
  have hlow : key.mode < 0x40 → c.decode (c.question key) = .error (.notAResponse key.mode) :=
    fun hm => decode_of_locate_error (locate_of_unmarked headerLength_le_question hm)
  have hunknown : 0x40 ≤ key.mode → r.get? ⟨key.mode - 0x40, key.pid⟩ = none →
      c.decode (c.question key) = .error (.lookup (.unknownPid ⟨key.mode - 0x40, key.pid⟩)) :=
    fun hm hn => decode_of_locate_error
      (locate_of_unknown headerLength_le_question (addresses_question hm) (hregistry ▸ hn))
  refine ⟨c.question key, query_eq_ok_iff.mpr ⟨⟨d, hregistry ▸ hk⟩, rfl⟩, ⟨?_, ?_⟩, hlow, hunknown,
    fun hm d hd => decode_question_of_few hr hc hm hd⟩
  · rintro ⟨x, hx⟩
    have hm : 0x40 ≤ key.mode := by
      by_contra hm
      rw [hlow (UInt8.not_le.mp hm)] at hx
      cases hx
    cases hd : r.get? ⟨key.mode - 0x40, key.pid⟩ with
    | none =>
      rw [hunknown hm hd] at hx
      cases hx
    | some d => exact ⟨hm, d, rfl, (exists_decode_question_iff hr hc hm hd).mp ⟨x, hx⟩⟩
  · rintro ⟨hm, d, hd, hconstant⟩
    exact (exists_decode_question_iff hr hc hm hd).mpr hconstant

theorem decode_query_constant :
    ∃ r d e, Registry.build [⟨⟨1, 5⟩, "Constant", "", 1, .uint8, "7"⟩,
        ⟨⟨2, 5⟩, "Operand", "", 1, .uint8, "A"⟩, ⟨⟨0x41, 5⟩, "Taken", "", 1, .uint8, ""⟩,
        ⟨⟨0x42, 5⟩, "Refused", "", 1, .uint8, ""⟩] = .ok r ∧
      r.get? ⟨1, 5⟩ = some d ∧ d.IsConstant ∧ r.get? ⟨2, 5⟩ = some e ∧ ¬e.IsConstant ∧
      (∃ f, (standard r).query ⟨1, 5⟩ = .ok f ∧
        (standard r).decode f = .error (.notAResponse 1)) ∧
      (∃ f, (standard r).query ⟨0x41, 5⟩ = .ok f ∧ ∃ x, (standard r).decode f = .ok x) ∧
      ∃ f, (standard r).query ⟨0x42, 5⟩ = .ok f ∧
        (standard r).decode f = .error (.eval (.insufficientBytes 1 0)) := by
  let d : Descriptor := ⟨⟨1, 5⟩, "Constant", ⟨0⟩, 1, .uint8, "7", ⟨[.literal (.ofNat 7)], 0⟩⟩
  let e : Descriptor := ⟨⟨2, 5⟩, "Operand", ⟨0⟩, 1, .uint8, "A", ⟨[.operand 0], 1⟩⟩
  let taken : Descriptor := ⟨⟨0x41, 5⟩, "Taken", ⟨0⟩, 1, .uint8, "", .identity⟩
  let refused : Descriptor := ⟨⟨0x42, 5⟩, "Refused", ⟨0⟩, 1, .uint8, "", .identity⟩
  let r : Registry := ⟨[d, e, taken, refused], [""]⟩
  have hr : Registry.build [⟨⟨1, 5⟩, "Constant", "", 1, .uint8, "7"⟩,
      ⟨⟨2, 5⟩, "Operand", "", 1, .uint8, "A"⟩, ⟨⟨0x41, 5⟩, "Taken", "", 1, .uint8, ""⟩,
      ⟨⟨0x42, 5⟩, "Refused", "", 1, .uint8, ""⟩] = .ok r := by rfl
  have hd : r.get? ⟨1, 5⟩ = some d := rfl
  have he : r.get? ⟨2, 5⟩ = some e := rfl
  have hconstant : d.IsConstant := by
    refine ⟨⟨'7', by decide, by decide⟩, fun x hx => ?_⟩
    obtain rfl : x = '7' := by simpa [d] using hx
    decide
  have hoperand : ¬e.IsConstant := fun h => h.2 'A' (by decide) (by decide)
  have hc : (standard r).Over r := .inl rfl
  obtain ⟨f, hf, -, hlow, -⟩ := decode_query hr hc hd
  have ht : r.get? ⟨0x41, 5⟩ = some taken := rfl
  have hu : r.get? ⟨0x42, 5⟩ = some refused := rfl
  obtain ⟨g, hg, htaken, -⟩ := decode_query hr hc ht
  obtain ⟨k, hk, -, -, -, hrefused⟩ := decode_query hr hc hu
  exact ⟨r, d, e, hr, hd, hconstant, he, hoperand, ⟨f, hf, hlow (by decide)⟩,
    ⟨g, hg, htaken.mpr ⟨by decide, d, hd, hconstant⟩⟩, k, hk, hrefused (by decide) e he hoperand⟩

end Codec

end VehiclePid
