import VehiclePid.Proofs.Frame.Basic
import VehiclePid.Proofs.Text.Hexadecimal
import VehiclePid.Proofs.Text.Trimming

namespace VehiclePid.Frame

variable {s : String} {id data : List Char} {n : Nat} {o : Except ParseError Frame}

/-- The parts of a text before and behind its first hash, without the white space around them. -/
structure Cut (s : String) (id data : List Char) : Prop where
  trims : Text.Trims s.toList (id ++ '#' :: data)
  not_mem : '#' ∉ id

def unpointed (data : List Char) : List Char := data.filter (· != '.')

/-- What a text is read as. Each reason for a failure counts only without those above it. -/
inductive Reading (s : String) : Except ParseError Frame → Prop
  | missingHash (t : List Char) (trims : Text.Trims s.toList t) (not_mem : '#' ∉ t) :
      Reading s (.error (.missingHash s))
  | invalidIdentifier (id data : List Char) (cut : Cut s id data)
      (invalid : ¬∃ n ≤ maxId, Hex.IsNumber id n) :
      Reading s (.error (.invalidIdentifier (String.ofList id)))
  | oddLength (id data : List Char) (n : Nat) (cut : Cut s id data) (number : Hex.IsNumber id n)
      (bounded : n ≤ maxId) (odd : (String.ofList (unpointed data)).utf8ByteSize % 2 = 1) :
      Reading s (.error (.invalidData (String.ofList data) .oddLength))
  | badDigit (id data : List Char) (n : Nat) (c : Char) (position : Nat) (cut : Cut s id data)
      (number : Hex.IsNumber id n) (bounded : n ≤ maxId)
      (even : (String.ofList (unpointed data)).utf8ByteSize % 2 = 0)
      (ends : Hex.EndsAt (unpointed data) c position) :
      Reading s (.error (.invalidData (String.ofList data) (.badDigit (Hex.leading c) position)))
  | tooManyBytes (id data : List Char) (n : Nat) (bytes : List UInt8) (cut : Cut s id data)
      (number : Hex.IsNumber id n) (bounded : n ≤ maxId)
      (spells : Hex.Spells (unpointed data) bytes) (long : 8 < bytes.length) :
      Reading s (.error (.tooManyBytes bytes.length))
  | frame (id data : List Char) (f : Frame) (cut : Cut s id data)
      (number : Hex.IsNumber id f.id.toNat) (bounded : f.id.toNat ≤ maxId)
      (length_eq : (unpointed data).length = 2 * f.len.toNat)
      (spells : Hex.Spells (unpointed data) f.payload)
      (zero : ∀ i (h : i < 8), f.len.toNat ≤ i → f.data[i] = 0) : Reading s (.ok f)

theorem splitHash_append {id data : List Char} (h : '#' ∉ id) :
    splitHash (id ++ '#' :: data) = some (id, data) := by
  have hne : ∀ c ∈ id, (c != '#') = true := by
    intro c hc
    simpa using fun he : c = '#' => h (he ▸ hc)
  rw [splitHash, List.dropWhile_append_of_pos hne, List.takeWhile_append_of_pos hne]
  simp

theorem splitHash_of_not_mem {cs : List Char} (h : '#' ∉ cs) : splitHash cs = none := by
  have hdrop : cs.dropWhile (· != '#') = [] := by
    apply List.dropWhile_eq_nil_iff.mpr
    intro c hc
    simpa using fun he : c = '#' => h (he ▸ hc)
  rw [splitHash, hdrop]

theorem exists_cut (h : '#' ∈ Text.trimChars s.toList) : ∃ id data, Cut s id data := by
  obtain ⟨id, data, ht, hn⟩ := List.eq_append_cons_of_mem h
  exact ⟨id, data, Text.trims_iff.mpr ht.symm, hn⟩

theorem parse_of_cut (h : Cut s id data) : parse s =
    match Hex.number? maxId id with
    | none => .error (.invalidIdentifier (String.ofList id))
    | some n => do
      let bytes ← (Hex.decodeChars (unpointed data)).mapError (.invalidData (String.ofList data))
      if 8 < bytes.length then .error (.tooManyBytes bytes.length)
      else return ⟨.ofNat n, .ofNat bytes.length, fill bytes 0⟩ := by
  rw [parse, ← Text.trims_iff.mp h.trims, splitHash_append h.not_mem]
  dsimp only
  cases Hex.number? maxId id <;> rfl

theorem parse_of_data_error {e : Hex.DecodeError} (h : Cut s id data) (hn : Hex.IsNumber id n)
    (hle : n ≤ maxId) (he : Hex.decodeChars (unpointed data) = .error e) :
    parse s = .error (.invalidData (String.ofList data) e) := by
  rw [parse_of_cut h, Hex.number?_eq_some_iff.mpr ⟨hn, hle⟩, he]
  rfl

theorem parse_of_data {bytes : List UInt8} (h : Cut s id data) (hn : Hex.IsNumber id n)
    (hle : n ≤ maxId) (hb : Hex.Spells (unpointed data) bytes) : parse s =
      if 8 < bytes.length then .error (.tooManyBytes bytes.length)
      else .ok ⟨.ofNat n, .ofNat bytes.length, fill bytes 0⟩ := by
  rw [parse_of_cut h, Hex.number?_eq_some_iff.mpr ⟨hn, hle⟩, Hex.transcribes.decode_eq_ok_iff.mpr hb]
  rfl

theorem len_le_of_spells {f : Frame} (hl : (unpointed data).length = 2 * f.len.toNat)
    (hs : Hex.Spells (unpointed data) f.payload) : f.len.toNat ≤ 8 := by
  have hlen := hs.length_eq
  have hp := length_payload_le f
  omega

theorem Reading.parse_eq (h : Reading s o) : parse s = o := by
  cases h with
  | missingHash t trims not_mem =>
    rw [parse, ← Text.trims_iff.mp trims, splitHash_of_not_mem not_mem]
  | invalidIdentifier id data cut invalid =>
    rw [parse_of_cut cut, Hex.number?_eq_none_iff.mpr invalid]
  | oddLength id data n cut number bounded odd =>
    exact parse_of_data_error cut number bounded
      (Hex.transcribes.decode_eq_error_iff.mpr (.inl ⟨odd, rfl⟩))
  | badDigit id data n c position cut number bounded even ends =>
    exact parse_of_data_error cut number bounded
      (Hex.transcribes.decode_eq_error_iff.mpr (.inr ⟨even, c, position, ends, rfl⟩))
  | tooManyBytes id data n bytes cut number bounded spells long =>
    rw [parse_of_data cut number bounded spells, if_pos long]
  | frame id data f cut number bounded length_eq spells zero =>
    have hlen := len_le_of_spells length_eq spells
    rw [parse_of_data cut number bounded spells, if_neg (Nat.not_lt.mpr (length_payload_le f)),
      UInt16.ofNat_toNat]
    exact congrArg Except.ok (normal_eq_self_iff.mpr ⟨hlen, zero⟩)

theorem reading_of_bytes {bytes : List UInt8} (cut : Cut s id data) (number : Hex.IsNumber id n)
    (bounded : n ≤ maxId) (spells : Hex.Spells (unpointed data) bytes) (short : bytes.length ≤ 8) :
    Reading s (.ok ⟨.ofNat n, .ofNat bytes.length, fill bytes 0⟩) := by
  have hid : (UInt16.ofNat n).toNat = n :=
    UInt16.toNat_ofNat_of_lt' (Nat.lt_of_le_of_lt bounded (by decide))
  have hlen : (UInt8.ofNat bytes.length).toNat = bytes.length :=
    UInt8.toNat_ofNat_of_lt' (Nat.lt_of_le_of_lt short (by decide))
  refine .frame id data _ cut (hid.symm ▸ number) (hid.symm ▸ bounded) ?_ ?_ fun i h hi => ?_
  · rw [hlen, spells.length_eq]
  · rwa [payload, hlen, toList_fill 0 short, List.take_left' rfl]
  · rw [hlen] at hi
    rw [getElem_fill, List.getD_eq_getElem?_getD, List.getElem?_eq_none hi, Option.getD_none]

theorem exists_reading (s : String) : ∃ o, Reading s o := by
  by_cases hash : '#' ∈ Text.trimChars s.toList
  · obtain ⟨id, data, cut⟩ := exists_cut hash
    by_cases valid : ∃ n ≤ maxId, Hex.IsNumber id n
    · obtain ⟨n, bounded, number⟩ := valid
      cases hdata : Hex.decodeChars (unpointed data) with
      | error e =>
        obtain ⟨odd, rfl⟩ | ⟨even, c, position, ends, rfl⟩ := Hex.transcribes.decode_eq_error_iff.mp hdata
        · exact ⟨_, .oddLength id data n cut number bounded odd⟩
        · exact ⟨_, .badDigit id data n c position cut number bounded even ends⟩
      | ok bytes =>
        have spells := Hex.transcribes.decode_eq_ok_iff.mp hdata
        by_cases short : bytes.length ≤ 8
        · exact ⟨_, reading_of_bytes cut number bounded spells short⟩
        · have long := Nat.lt_of_not_le short
          exact ⟨_, .tooManyBytes id data n bytes cut number bounded spells long⟩
    · exact ⟨_, .invalidIdentifier id data cut valid⟩
  · exact ⟨_, .missingHash _ (Text.trims_trimChars _) hash⟩

theorem reading_parse (s : String) : Reading s (parse s) := by
  obtain ⟨o, ho⟩ := exists_reading s
  rwa [ho.parse_eq]

theorem normal_of_parse {f : Frame} (h : parse s = .ok f) :
    f.id.toNat ≤ maxId ∧ f.normal = f := by
  have hr := reading_parse s
  rw [h] at hr
  cases hr with
  | frame id data f cut number bounded length_eq spells zero =>
    exact ⟨bounded, normal_eq_self_iff.mpr ⟨len_le_of_spells length_eq spells, zero⟩⟩

/-- A frame is read just from the texts of the grammar, and every text has one reading. -/
theorem parse_eq_iff_reading (s : String) :
    ((∃ f, parse s = .ok f) ↔ ∃ id data n, Cut s id data ∧ Hex.IsNumber id n ∧ n ≤ 0x7FF ∧
      (unpointed data).length % 2 = 0 ∧ (unpointed data).length ≤ 16 ∧
      ∀ c ∈ unpointed data, ∃ d, Hex.IsDigit c d) ∧
    ∀ o, parse s = o ↔ Reading s o := by
  refine ⟨⟨?_, ?_⟩, fun o => ⟨?_, Reading.parse_eq⟩⟩
  · rintro ⟨f, hf⟩
    have hr := reading_parse s
    rw [hf] at hr
    cases hr with
    | frame id data f cut number bounded length_eq spells zero =>
      have hlen := len_le_of_spells length_eq spells
      obtain ⟨heven, hdigits⟩ := Hex.exists_spells_iff.mp ⟨_, spells⟩
      exact ⟨id, data, _, cut, number, bounded, heven, by omega, hdigits⟩
  · rintro ⟨id, data, n, cut, number, bounded, heven, hle, hdigits⟩
    obtain ⟨bytes, spells⟩ := Hex.exists_spells_iff.mpr ⟨heven, hdigits⟩
    have hlen := spells.length_eq
    exact ⟨_, (reading_of_bytes cut number bounded spells (by omega)).parse_eq⟩
  · rintro rfl
    exact reading_parse s

theorem parse_eq_iff_reading_corners :
    (∃ f, parse "\t+0007dF#0.2010.c\n" = .ok f) ∧
      parse "7DF#G" = .error (.invalidData "G" .oddLength) ∧
      parse "7DF#0#" = .error (.invalidData "0#" (.badDigit '#' 1)) := by
  have hread : Hex.number? maxId "7DF".toList = some 0x7DF := by rfl
  have hlong : Hex.number? maxId "+0007dF".toList = some 0x7DF := by rfl
  have hnumber := (Hex.number?_eq_some_iff.mp hread).1
  refine ⟨(parse_eq_iff_reading _).1.mpr ⟨"+0007dF".toList, "0.2010.c".toList, 0x7DF,
      ⟨Text.trims_iff.mpr (by decide), by decide⟩, (Hex.number?_eq_some_iff.mp hlong).1,
      by decide, by decide, by decide, ?_⟩,
    ((parse_eq_iff_reading _).2 _).mpr (.oddLength "7DF".toList ['G'] 0x7DF
      ⟨Text.trims_iff.mpr (by decide), by decide⟩ hnumber (by decide) (by decide)),
    ((parse_eq_iff_reading _).2 _).mpr (.badDigit "7DF".toList ['0', '#'] 0x7DF '#' 1
      ⟨Text.trims_iff.mpr (by decide), by decide⟩ hnumber (by decide) (by decide)
      ⟨['0'], [], rfl, rfl, ?_, ?_⟩)⟩
  · exact Hex.exists_spells_iff.mp ⟨_, Hex.transcribes.decode_eq_ok_iff.mp (by rfl)⟩ |>.2
  · exact fun x hx => ⟨0, List.mem_singleton.mp hx ▸ by decide⟩
  · exact Hex.digit?_eq_none_iff.mp (by decide)

end VehiclePid.Frame
