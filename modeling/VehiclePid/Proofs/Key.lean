import VehiclePid.Key
import VehiclePid.Proofs.Text.Hexadecimal
import VehiclePid.Proofs.Text.Trimming

namespace VehiclePid

variable {x c : Char} {cs ds : List Char} {b : UInt8} {n : Nat}

theorem Key.rank_lt_iff {a b : Key} :
    a.rank < b.rank ↔ a.mode < b.mode ∨ a.mode = b.mode ∧ a.pid < b.pid := by
  have ha := a.pid.toNat_lt
  have hb := b.pid.toNat_lt
  rw [UInt8.lt_iff_toNat_lt, UInt8.lt_iff_toNat_lt, ← UInt8.toNat_inj, rank, rank]
  omega

def Key.texts (k : Key) : String × String := (Hex.byte k.mode, Hex.byte k.pid)

def marks (x : Char) (n : Nat) : List Char := (List.replicate n ['0', x]).flatten

/-- A mode or parameter id without white space around it: copies of `0x`, copies of `0X`, and a
number. -/
def IsId (cs : List Char) (n : Nat) : Prop :=
  ∃ i j ds, cs = marks 'x' i ++ (marks 'X' j ++ ds) ∧ Hex.IsNumber ds n

/-- The two digits of a byte, but for their case and the zeros before them. -/
def Writes (ds : List Char) (b : UInt8) : Prop :=
  ds ≠ [] ∧ ∃ i j, List.replicate i '0' ++ ds.map Char.toUpper =
    List.replicate j '0' ++ Hex.fixed 2 b.toNat

@[simp] theorem marks_zero (x : Char) : marks x 0 = [] := rfl

theorem marks_succ (x : Char) (n : Nat) : marks x (n + 1) = '0' :: x :: marks x n := by
  rw [marks, List.replicate_succ, List.flatten_cons]
  rfl

theorem dropMarks_marks (x : Char) (n : Nat) (cs : List Char) :
    dropMarks x (marks x n ++ cs) = dropMarks x cs := by
  induction n with
  | zero => rfl
  | succ n ih => rw [marks_succ, List.cons_append, List.cons_append, dropMarks, if_pos rfl, ih]

theorem exists_marks (x : Char) (cs : List Char) : ∃ n, cs = marks x n ++ dropMarks x cs := by
  induction cs using dropMarks.induct x with
  | case1 r ih =>
    obtain ⟨n, hn⟩ := ih
    refine ⟨n + 1, ?_⟩
    rw [dropMarks, if_pos rfl, marks_succ, List.cons_append, List.cons_append, ← hn]
  | case2 c r hc => exact ⟨0, by rw [dropMarks, if_neg hc, marks_zero, List.nil_append]⟩
  | case3 cs h => exact ⟨0, by rw [dropMarks.eq_2 x cs h, marks_zero, List.nil_append]⟩

theorem dropMarks_of_not_mem (h : x ∉ cs) : dropMarks x cs = cs := by
  obtain ⟨n, hn⟩ := exists_marks x cs
  cases n with
  | zero => exact hn.symm
  | succ n =>
    rw [marks_succ] at hn
    exact absurd (hn ▸ by simp) h

theorem not_mem_of_isNumber (h : Hex.IsNumber cs n) (hx : x ≠ '+') (hd : ¬∃ d, Hex.IsDigit x d) :
    x ∉ cs := by
  obtain ⟨sign, ds, rfl, hs, -, vs, hvs, -⟩ := h
  rw [List.mem_append, not_or]
  constructor
  · obtain rfl | rfl := hs
    · exact List.not_mem_nil
    · simpa using hx
  · exact fun hm => hd (Hex.exists_isDigit_of_forall₂ hvs x hm)

theorem isId_iff : IsId cs n ↔ Hex.IsNumber (dropMarks 'X' (dropMarks 'x' cs)) n := by
  constructor
  · rintro ⟨i, j, ds, rfl, hds⟩
    have hx : 'x' ∉ ds := not_mem_of_isNumber hds (by decide) (Hex.digit?_eq_none_iff.mp rfl)
    have hX : 'X' ∉ ds := not_mem_of_isNumber hds (by decide) (Hex.digit?_eq_none_iff.mp rfl)
    have hmarks : 'x' ∉ marks 'X' j ++ ds := by
      rw [List.mem_append, not_or]
      exact ⟨by simp [marks], hx⟩
    rwa [dropMarks_marks, dropMarks_of_not_mem hmarks, dropMarks_marks, dropMarks_of_not_mem hX]
  · intro h
    obtain ⟨i, hi⟩ := exists_marks 'x' cs
    obtain ⟨j, hj⟩ := exists_marks 'X' (dropMarks 'x' cs)
    exact ⟨i, j, _, by rw [← hj, ← hi], h⟩

theorem parseId_eq_ok_iff {s : String} :
    parseId s = .ok b ↔ ∃ t, Text.Trims s.toList t ∧ IsId t b.toNat := by
  have hb : b.toNat ≤ 255 := Nat.le_of_lt_succ b.toNat_lt
  simp only [Text.trims_iff, exists_eq_left, isId_iff]
  rw [parseId]
  cases h : Hex.number? 255 (dropMarks 'X' (dropMarks 'x' (Text.trimChars s.toList))) with
  | none =>
    have hno := Hex.number?_eq_none_iff.mp h
    exact ⟨nofun, fun hid => absurd ⟨b.toNat, hb, hid⟩ hno⟩
  | some n =>
    obtain ⟨hn, hle⟩ := Hex.number?_eq_some_iff.mp h
    dsimp only
    rw [Except.ok.injEq]
    constructor
    · rintro rfl
      rwa [UInt8.toNat_ofNat_of_lt' (Nat.lt_succ_of_le hle)]
    · intro hid
      rw [hn.unique hid, UInt8.ofNat_toNat]

theorem parseId_eq_error_iff {s : String} {e : InvalidId} : parseId s = .error e ↔
    ∃ t, Text.Trims s.toList t ∧ (¬∃ n ≤ 255, IsId t n) ∧ e = ⟨String.ofList t⟩ := by
  simp only [Text.trims_iff, exists_eq_left, isId_iff]
  rw [parseId, ← Hex.number?_eq_none_iff]
  cases Hex.number? 255 (dropMarks 'X' (dropMarks 'x' (Text.trimChars s.toList))) <;>
    simp [eq_comm]

theorem toUpper_toUpper (c : Char) : c.toUpper.toUpper = c.toUpper := by
  by_cases hc : c.toNat < 128
  · exact Hex.ascii_forall (p := fun c => c.toUpper.toUpper = c.toUpper) (by decide +kernel) hc
  · rw [Hex.toUpper_eq_self hc, Hex.toUpper_eq_self hc]

theorem denotes_toUpper_iff : Hex.Denotes (ds.map Char.toUpper) n ↔ Hex.Denotes ds n := by
  have hdigit : ∀ c d, Hex.IsDigit c.toUpper d ↔ Hex.IsDigit c d := fun c d => by
    rw [Hex.IsDigit, Hex.IsDigit, toUpper_toUpper]
  simp only [Hex.Denotes, List.forall₂_map_left_iff, hdigit]

theorem denotes_zeros_iff (k : Nat) :
    Hex.Denotes (List.replicate k '0' ++ ds) n ↔ Hex.Denotes ds n := by
  induction k with
  | zero => rfl
  | succ k ih =>
    rw [← ih, List.replicate_succ, List.cons_append]
    generalize List.replicate k '0' ++ ds = cs
    have hzero : Hex.IsDigit '0' 0 := by decide
    constructor
    · rintro ⟨us, hus, rfl⟩
      obtain ⟨d, vs, hd, hvs, rfl⟩ := List.forall₂_cons_left_iff.mp hus
      have hd := (Hex.digit?_eq_some_iff.mpr hzero).symm.trans (Hex.digit?_eq_some_iff.mpr hd)
      cases hd
      exact ⟨vs, hvs, by rw [List.reverse_cons, Nat.ofDigits_append_zero]⟩
    · rintro ⟨vs, hvs, rfl⟩
      exact ⟨0 :: vs, .cons hzero hvs, by rw [List.reverse_cons, Nat.ofDigits_append_zero]⟩

theorem denotes_of_writes (h : Writes ds b) : Hex.Denotes ds b.toNat := by
  obtain ⟨-, i, j, heq⟩ := h
  rw [← denotes_toUpper_iff, ← denotes_zeros_iff i, heq, denotes_zeros_iff]
  exact Hex.denotes_fixed b.toNat_lt

theorem writes_fixed (b : UInt8) : Writes (Hex.fixed 2 b.toNat) b := by
  have hup : ∀ d < 16, (Hex.digit d).toUpper = Hex.digit d := by decide
  refine ⟨by simp [Hex.fixed], 0, 0, ?_⟩
  have hmap : (Hex.fixed 2 b.toNat).map Char.toUpper = Hex.fixed 2 b.toNat := by
    conv_rhs => rw [← List.map_id (Hex.fixed 2 b.toNat)]
    apply List.map_congr_left
    intro c hc
    obtain ⟨d, hd, rfl⟩ := Hex.exists_digit_of_mem_fixed hc
    exact hup d hd
  rw [hmap]

theorem isBlank_of_isDigit {d : Nat} (h : Hex.IsDigit c d) : Text.isBlank c = false :=
  Hex.ascii_forall (p := fun c => ∀ d < 16, Hex.IsDigit c d → Text.isBlank c = false)
    (by decide +kernel) h.toNat_lt d h.lt h

theorem parseId_of_writes (h : Writes ds b) {mark : List Char}
    (hm : mark = [] ∨ mark = marks 'x' 1 ∨ mark = marks 'X' 1) :
    parseId (String.ofList (mark ++ ds)) = .ok b := by
  have hden := denotes_of_writes h
  have hn : Hex.IsNumber ds b.toNat := ⟨[], ds, rfl, .inl rfl, h.1, hden⟩
  have hblank : ∀ c ∈ mark ++ ds, Text.isBlank c = false := by
    obtain ⟨vs, hvs, -⟩ := hden
    rw [List.forall_mem_append]
    constructor
    · have hmark : (mark.all fun c => !Text.isBlank c) = true := by
        obtain rfl | rfl | rfl := hm <;> rfl
      simpa using hmark
    · intro c hc
      obtain ⟨d, hd⟩ := Hex.exists_isDigit_of_forall₂ hvs c hc
      exact isBlank_of_isDigit hd
  rw [parseId_eq_ok_iff, String.toList_ofList]
  refine ⟨mark ++ ds, Text.trims_of_no_blank hblank, ?_⟩
  obtain rfl | rfl | rfl := hm
  · exact ⟨0, 0, ds, rfl, hn⟩
  · exact ⟨1, 0, ds, rfl, hn⟩
  · exact ⟨0, 1, ds, rfl, hn⟩

theorem length_byte (b : UInt8) : Hex.length b.toNat ≤ 2 := by
  have hlog : b.toNat.log2 < 8 := by
    by_cases h0 : b.toNat = 0
    · rw [h0]
      decide
    · exact (Nat.log2_lt h0).mpr b.toNat_lt
  rw [Hex.length]
  omega

theorem toList_byte_eq (b : UInt8) :
    (Hex.byte b).toList = marks 'x' 1 ++ Hex.fixed 2 b.toNat := by
  rw [Hex.byte, Hex.padded, Nat.max_eq_left (length_byte b), String.toList_append,
    String.toList_ofList (l := Hex.fixed 2 b.toNat)]
  rfl

theorem toList_byte (b : UInt8) : (Hex.byte b).toList =
    ['0', 'x', Hex.digit (b.toNat / 16), Hex.digit (b.toNat % 16)] := by
  have hb : b.toNat / 16 < 16 := Nat.div_lt_of_lt_mul b.toNat_lt
  rw [toList_byte_eq, ← Nat.mod_eq_of_lt hb]
  rfl

theorem parseId_byte (b : UInt8) : parseId (Hex.byte b) = .ok b := by
  rw [← String.ofList_toList (s := Hex.byte b), toList_byte_eq]
  exact parseId_of_writes (writes_fixed b) (.inr (.inl rfl))

theorem byte_injective {b c : UInt8} (h : Hex.byte b = Hex.byte c) : b = c := by
  have hb := parseId_byte b
  rw [h, parseId_byte] at hb
  exact (Except.ok.inj hb).symm

theorem byte_lt_iff {b c : UInt8} : Hex.byte b < Hex.byte c ↔ b < c := by
  have hlt : ∀ d < 16, ∀ e < 16, Hex.digit d < Hex.digit e ↔ d < e := by decide
  have heq : ∀ d < 16, ∀ e < 16, Hex.digit d = Hex.digit e ↔ d = e := by decide
  have hb := b.toNat_lt
  have hc := c.toNat_lt
  change (Hex.byte b).toList < (Hex.byte c).toList ↔ _
  rw [toList_byte, toList_byte, UInt8.lt_iff_toNat_lt]
  simp only [List.cons_lt_cons_iff, List.not_lt_nil, and_false, or_false, Char.lt_irrefl, true_and,
    false_or]
  rw [hlt _ (by omega) _ (by omega), hlt _ (by omega) _ (by omega), heq _ (by omega) _ (by omega)]
  omega

theorem Key.texts_injective {k l : Key} (h : k.texts = l.texts) : k = l := by
  obtain ⟨hm, hp⟩ := Prod.mk.inj h
  have hm : k.mode = l.mode := byte_injective hm
  have hp : k.pid = l.pid := byte_injective hp
  calc
    k = ⟨k.mode, k.pid⟩ := rfl
    _ = l := by rw [hm, hp]

/-- A mode or parameter id is read from just the texts that hold one between white space, and any
other text is given back without the white space. A byte is read from all ways to write it, that of
the export among them, and these texts are ordered as the bytes are. -/
theorem parseId_reads_ids :
    (∀ (s : String) (b : UInt8),
      parseId s = .ok b ↔ ∃ t, Text.Trims s.toList t ∧ IsId t b.toNat) ∧
    (∀ (s : String) (e : InvalidId), parseId s = .error e ↔
      ∃ t, Text.Trims s.toList t ∧ (¬∃ n ≤ 255, IsId t n) ∧ e = ⟨String.ofList t⟩) ∧
    (∀ b, (Hex.byte b).toList =
      ['0', 'x', Hex.digit (b.toNat / 16), Hex.digit (b.toNat % 16)]) ∧
    (∀ b, parseId (Hex.byte b) = .ok b) ∧
    (∀ (b : UInt8) (ds mark : List Char), Writes ds b →
      mark = [] ∨ mark = marks 'x' 1 ∨ mark = marks 'X' 1 →
      parseId (String.ofList (mark ++ ds)) = .ok b) ∧
    ∀ b c, Hex.byte b < Hex.byte c ↔ b < c :=
  ⟨fun _ _ => parseId_eq_ok_iff, fun _ _ => parseId_eq_error_iff, toList_byte, parseId_byte,
    fun _ _ _ h hm => parseId_of_writes h hm, fun _ _ => byte_lt_iff⟩

theorem parseId_reads_ids_padded :
    Writes "000c".toList 12 ∧ "0X".toList = marks 'X' 1 ∧
      parseId (String.ofList ("0X".toList ++ "000c".toList)) = .ok 12 :=
  have hw : Writes "000c".toList 12 := ⟨by decide, 0, 2, by decide⟩
  ⟨hw, rfl, parseId_reads_ids.2.2.2.2.1 12 "000c".toList "0X".toList hw (.inr (.inr rfl))⟩

end VehiclePid
