import VehiclePid.Proofs.Frame.Grammar

namespace VehiclePid.Frame

variable {f : Frame}

theorem toList_render (f : Frame) :
    f.render.toList = Hex.fixed (max 3 (Hex.length f.id.toNat)) f.id.toNat ++
      '#' :: Hex.encodeChars f.payload := by
  simp [render, Hex.padded, Hex.encode]

theorem cut_render (f : Frame) : Cut f.render
    (Hex.fixed (max 3 (Hex.length f.id.toNat)) f.id.toNat) (Hex.encodeChars f.payload) := by
  have hid : ∀ c ∈ Hex.fixed (max 3 (Hex.length f.id.toNat)) f.id.toNat, ∃ d < 16,
      c = Hex.digit d := fun _ => Hex.exists_digit_of_mem_fixed
  constructor
  · have hb : ∀ d < 16, Text.isBlank (Hex.digit d) = false := by decide
    rw [toList_render]
    apply Text.trims_of_no_blank
    rw [List.forall_mem_append, List.forall_mem_cons]
    refine ⟨fun c hc => ?_, by decide, fun c hc => ?_⟩
    · obtain ⟨d, hd, rfl⟩ := hid c hc
      exact hb d hd
    · obtain ⟨d, hd, rfl⟩ := Hex.transcribes.exists_digit_of_mem_encode _ c hc
      exact hb d hd
  · have hn : ∀ d < 16, Hex.digit d ≠ '#' := by decide
    intro hm
    obtain ⟨d, hd, hc⟩ := hid _ hm
    exact hn d hd hc.symm

theorem unpointed_encodeChars (bytes : List UInt8) :
    unpointed (Hex.encodeChars bytes) = Hex.encodeChars bytes := by
  have hn : ∀ d < 16, Hex.digit d ≠ '.' := by decide
  apply List.filter_eq_self.mpr
  intro c hc
  obtain ⟨d, hd, rfl⟩ := Hex.transcribes.exists_digit_of_mem_encode _ c hc
  simpa using hn d hd

theorem parse_render (h : f.id.toNat ≤ maxId) : parse f.render = .ok f.normal := by
  have hspells := Hex.transcribes.spells_encode f.payload
  rw [← unpointed_encodeChars] at hspells
  rw [parse_of_data (cut_render f) (Hex.isNumber_padded 3 _) h hspells,
    if_neg (Nat.not_lt.mpr (length_payload_le f)), UInt16.ofNat_toNat]
  rfl

theorem parse_render_of_full (h : f.id.toNat ≤ maxId) (hl : f.len = 8) :
    parse f.render = .ok f := by
  have hlen : f.len.toNat = 8 := congrArg UInt8.toNat hl
  rw [parse_render h, normal_eq_self_iff.mpr ⟨hlen.le, fun i hi hle => ?_⟩]
  exact absurd hi (Nat.not_lt.mpr (hlen ▸ hle))

theorem parse_render_of_large (h : maxId < f.id.toNat) :
    parse f.render = .error (.invalidIdentifier (Hex.padded 3 f.id.toNat)) := by
  refine (Reading.invalidIdentifier _ _ (cut_render f) ?_).parse_eq
  rintro ⟨n, hn, hnumber⟩
  rw [hnumber.unique (Hex.isNumber_padded 3 _)] at hn
  exact absurd hn (Nat.not_le.mpr h)

theorem parse_render_of_parse {s : String} (h : parse s = .ok f) : parse f.render = .ok f := by
  obtain ⟨hid, hnormal⟩ := normal_of_parse h
  rw [parse_render hid, hnormal]

/-- The text of a frame reads back as its normal form, unless the identifier is too large, and texts
have the same normal text just if they are read as the same frame. -/
theorem parse_render_normal :
    (∀ f : Frame, f.id.toNat ≤ 0x7FF → ∃ g, parse f.render = .ok g ∧ g.id = f.id ∧
      g.len.toNat = min f.len.toNat 8 ∧
      g.data.toList = f.payload ++ List.replicate (8 - min f.len.toNat 8) 0 ∧
      (g = f ↔ f.len.toNat ≤ 8 ∧ ∀ i (h : i < 8), f.len.toNat ≤ i → f.data[i] = 0)) ∧
    (∀ f : Frame, 0x7FF < f.id.toNat →
      parse f.render = .error (.invalidIdentifier (Hex.padded 3 f.id.toNat))) ∧
    (∀ s f, parse s = .ok f → parse f.render = .ok f) ∧
    ∀ s t f g, parse s = .ok f → parse t = .ok g → (f = g ↔ f.render = g.render) := by
  refine ⟨fun f h => ?_, fun f => parse_render_of_large, fun s f => parse_render_of_parse,
    fun s t f g hs ht => ⟨congrArg render, fun h => ?_⟩⟩
  · exact ⟨f.normal, parse_render h, rfl, toNat_len_normal f, toList_normal f, normal_eq_self_iff⟩
  · have hf := parse_render_of_parse hs
    rw [h, parse_render_of_parse ht] at hf
    exact (Except.ok.inj hf).symm

theorem parse_render_normal_short :
    (∃ g, parse (render ⟨0x7E8, 4, #v[3, 0x41, 0x0D, 60, 1, 2, 3, 4]⟩) = .ok g ∧
      g.id = 0x7E8 ∧ g.len.toNat = 4 ∧ g.data.toList = [3, 0x41, 0x0D, 60, 0, 0, 0, 0] ∧
      g ≠ ⟨0x7E8, 4, #v[3, 0x41, 0x0D, 60, 1, 2, 3, 4]⟩) ∧
    parse (render ⟨0x800, 0, #v[0, 0, 0, 0, 0, 0, 0, 0]⟩) = .error (.invalidIdentifier "800") ∧
    parse " +07e8#.0a\n" = .ok ⟨0x7E8, 1, #v[0x0A, 0, 0, 0, 0, 0, 0, 0]⟩ ∧
    parse "7E8#0A00" = .ok ⟨0x7E8, 2, #v[0x0A, 0, 0, 0, 0, 0, 0, 0]⟩ ∧
    parse (render ⟨0x7E8, 1, #v[0x0A, 0, 0, 0, 0, 0, 0, 0]⟩) =
      .ok ⟨0x7E8, 1, #v[0x0A, 0, 0, 0, 0, 0, 0, 0]⟩ ∧
    render ⟨0x7E8, 1, #v[0x0A, 0, 0, 0, 0, 0, 0, 0]⟩ ≠
      render ⟨0x7E8, 2, #v[0x0A, 0, 0, 0, 0, 0, 0, 0]⟩ := by
  obtain ⟨hnormal, hlarge, hread, hsame⟩ := parse_render_normal
  have hs : parse " +07e8#.0a\n" = .ok ⟨0x7E8, 1, #v[0x0A, 0, 0, 0, 0, 0, 0, 0]⟩ := by rfl
  have ht : parse "7E8#0A00" = .ok ⟨0x7E8, 2, #v[0x0A, 0, 0, 0, 0, 0, 0, 0]⟩ := by rfl
  obtain ⟨g, hg, hid, hlen, hdata, heq⟩ :=
    hnormal ⟨0x7E8, 4, #v[3, 0x41, 0x0D, 60, 1, 2, 3, 4]⟩ (by decide)
  exact ⟨⟨g, hg, hid, hlen, hdata, fun h => absurd (heq.mp h) (by decide)⟩,
    hlarge _ (by decide), hs, ht, hread _ _ hs,
    fun h => absurd ((hsame _ _ _ _ hs ht).mpr h) (by decide)⟩

end VehiclePid.Frame
