import Mathlib.Data.List.Forall2
import Mathlib.Data.List.Induction
import Mathlib.Data.Nat.Digits.Defs
import VehiclePid.Proofs.Except
import VehiclePid.Text.Hex

namespace VehiclePid.Hex

variable {c : Char} {cs ds : List Char} {vs : List Nat} {bytes : List UInt8}
  {d n limit position : Nat} {e : DecodeError}

def IsDigit (c : Char) (d : Nat) : Prop := "0123456789ABCDEF".toList[d]? = some c.toUpper

instance (c : Char) (d : Nat) : Decidable (IsDigit c d) := inferInstanceAs (Decidable (_ = _))

/-- Digits and the number that they denote, the most significant one first. -/
def Denotes (cs : List Char) (n : Nat) : Prop :=
  ∃ vs, List.Forall₂ IsDigit cs vs ∧ n = Nat.ofDigits 16 vs.reverse

/-- An optional plus sign before one or more digits. -/
def IsNumber (cs : List Char) (n : Nat) : Prop :=
  ∃ sign ds, cs = sign ++ ds ∧ (sign = [] ∨ sign = ['+']) ∧ ds ≠ [] ∧ Denotes ds n

/-- Two digits for each byte, the high one first. -/
inductive Spells : List Char → List UInt8 → Prop
  | nil : Spells [] []
  | cons {high low : Char} {b : UInt8} {cs : List Char} {bytes : List UInt8} :
      IsDigit high (b.toNat / 16) → IsDigit low (b.toNat % 16) → Spells cs bytes →
      Spells (high :: low :: cs) (b :: bytes)

theorem IsDigit.lt (h : IsDigit c d) : d < 16 := (List.getElem?_eq_some_iff.mp h).1

theorem ascii_forall {p : Char → Prop} (h : ∀ n < 128, p (Char.ofNat n)) (hc : c.toNat < 128) :
    p c := by
  have hn := h c.toNat hc
  rwa [Char.ofNat_toNat] at hn

theorem toUpper_eq_self (h : ¬c.toNat < 128) : c.toUpper = c :=
  dif_neg fun hl => h (Nat.lt_of_le_of_lt hl.2 (by decide))

theorem IsDigit.toNat_lt (h : IsDigit c d) : c.toNat < 128 := by
  have hall : ∀ x ∈ "0123456789ABCDEF".toList, x.toNat < 128 := by simp
  by_contra hn
  exact hn (toUpper_eq_self hn ▸ hall _ (List.mem_of_getElem? h))

theorem digit?_eq_some_iff : digit? c = some d ↔ IsDigit c d := by
  have low : c.toNat < 128 ∧ d < 16 → (digit? c = some d ↔ IsDigit c d) := fun hcd =>
    ascii_forall (p := fun c => ∀ d < 16, digit? c = some d ↔ IsDigit c d) (by decide +kernel)
      hcd.1 d hcd.2
  constructor
  · intro h
    refine (low ?_).mp h
    grind [digit?]
  · exact fun h => (low ⟨h.toNat_lt, h.lt⟩).mpr h

theorem digit?_eq_none_iff : digit? c = none ↔ ¬∃ d, IsDigit c d := by
  rw [Option.eq_none_iff_forall_ne_some, not_exists]
  exact forall_congr' fun d => not_congr digit?_eq_some_iff

theorem digits?_concat (cs : List Char) (c : Char) :
    digits? (cs ++ [c]) = (digits? cs).bind fun n => (digit? c).map fun d => 16 * n + d := by
  simp only [digits?, List.foldl_append, List.foldl_cons, List.foldl_nil]
  cases digit? c <;> rfl

theorem denotes_concat_iff : Denotes (cs ++ [c]) n ↔
    ∃ m d, Denotes cs m ∧ IsDigit c d ∧ n = 16 * m + d := by
  constructor
  · rintro ⟨vs, hvs, rfl⟩
    rw [← List.forall₂_reverse_iff, List.reverse_concat, List.forall₂_cons_left_iff] at hvs
    obtain ⟨d, us, hd, hus, hrev⟩ := hvs
    rw [← List.reverse_reverse us, List.forall₂_reverse_iff] at hus
    refine ⟨_, d, ⟨_, hus, rfl⟩, hd, ?_⟩
    rw [hrev, List.reverse_reverse, Nat.ofDigits_cons, Nat.add_comm]
  · rintro ⟨m, d, ⟨us, hus, rfl⟩, hd, rfl⟩
    refine ⟨us ++ [d], List.rel_append hus (.cons hd .nil), ?_⟩
    rw [List.reverse_concat, Nat.ofDigits_cons, Nat.add_comm]

theorem digits?_eq_some_iff : digits? cs = some n ↔ Denotes cs n := by
  induction cs using List.reverseRecOn generalizing n with
  | nil =>
    have hnil : Denotes [] n ↔ n = 0 := by
      simp [Denotes]
    rw [hnil, digits?, List.foldl_nil, Option.some.injEq, eq_comm]
  | append_singleton cs c ih =>
    rw [digits?_concat, denotes_concat_iff, Option.bind_eq_some_iff]
    simp only [ih, Option.map_eq_some_iff, digit?_eq_some_iff]
    constructor
    · rintro ⟨m, hm, d, hd, rfl⟩
      exact ⟨m, d, hm, hd, rfl⟩
    · rintro ⟨m, d, hm, hd, rfl⟩
      exact ⟨m, hm, d, hd, rfl⟩

theorem not_denotes_plus (n : Nat) : ¬Denotes ('+' :: ds) n := by
  rintro ⟨vs, hvs, -⟩
  obtain ⟨d, -, hd, -, -⟩ := List.forall₂_cons_left_iff.mp hvs
  have hplus := digit?_eq_some_iff.mpr hd
  cases hplus

theorem isNumber_plus_iff : IsNumber ('+' :: ds) n ↔ ds ≠ [] ∧ Denotes ds n := by
  constructor
  · rintro ⟨sign, rest, hcs, rfl | rfl, hne, hden⟩
    · obtain rfl : '+' :: ds = rest := hcs
      exact absurd hden (not_denotes_plus n)
    · cases hcs
      exact ⟨hne, hden⟩
  · rintro ⟨hne, hden⟩
    exact ⟨['+'], ds, rfl, .inr rfl, hne, hden⟩

theorem isNumber_iff_of_no_plus (h : ∀ ds, cs ≠ '+' :: ds) :
    IsNumber cs n ↔ cs ≠ [] ∧ Denotes cs n := by
  constructor
  · rintro ⟨sign, rest, rfl, rfl | rfl, hne, hden⟩
    · exact ⟨hne, hden⟩
    · exact absurd rfl (h rest)
  · rintro ⟨hne, hden⟩
    exact ⟨[], cs, rfl, .inl rfl, hne, hden⟩

theorem number?_eq_some_iff : number? limit cs = some n ↔ IsNumber cs n ∧ n ≤ limit := by
  have run : ∀ ds : List Char,
      (if ds.isEmpty then none else (digits? ds).filter (· ≤ limit)) = some n ↔
        (ds ≠ [] ∧ Denotes ds n) ∧ n ≤ limit := by
    intro ds
    cases ds with
    | nil => simp
    | cons c ds =>
      rw [List.isEmpty_cons, if_neg Bool.false_ne_true, Option.filter_eq_some_iff,
        digits?_eq_some_iff, decide_eq_true_iff]
      simp
  unfold number?
  dsimp only
  split
  · rw [run, isNumber_plus_iff]
  · rename_i h
    rw [run, isNumber_iff_of_no_plus fun ds hds => h ds hds]

theorem number?_eq_none_iff : number? limit cs = none ↔ ¬∃ n ≤ limit, IsNumber cs n := by
  rw [Option.eq_none_iff_forall_ne_some, not_exists]
  exact forall_congr' fun n => not_congr (number?_eq_some_iff.trans and_comm)

theorem IsNumber.unique {m : Nat} (hm : IsNumber cs m) (hn : IsNumber cs n) : m = n := by
  have hm' := number?_eq_some_iff.mpr ⟨hm, Nat.le_max_left m n⟩
  have hn' := number?_eq_some_iff.mpr ⟨hn, Nat.le_max_right m n⟩
  exact Option.some.inj (hm'.symm.trans hn')

theorem digitValues_eq_ok_iff : digitValues position cs = .ok vs ↔ List.Forall₂ IsDigit cs vs := by
  induction cs generalizing position vs with
  | nil => rw [digitValues, List.forall₂_nil_left_iff, Except.ok.injEq, eq_comm]
  | cons c cs ih =>
    rw [digitValues, List.forall₂_cons_left_iff]
    cases hc : digit? c with
    | none =>
      have hno := digit?_eq_none_iff.mp hc
      exact ⟨nofun, fun ⟨d, _, hd, _⟩ => absurd ⟨d, hd⟩ hno⟩
    | some d =>
      have hd := digit?_eq_some_iff.mp hc
      dsimp only
      rw [Except.map_eq_ok_iff]
      constructor
      · rintro ⟨us, hus, rfl⟩
        exact ⟨d, us, hd, ih.mp hus, rfl⟩
      · rintro ⟨d', us, hd', hus, rfl⟩
        obtain rfl : d = d' := Option.some.inj (hc.symm.trans (digit?_eq_some_iff.mpr hd'))
        exact ⟨us, ih.mpr hus, rfl⟩

/-- The character with the code of the first byte of another. -/
def leading (c : Char) : Char := Char.ofNat ((String.utf8EncodeChar c).headD 0).toNat

/-- The digits end at a character that is none. -/
def EndsAt (cs : List Char) (c : Char) (position : Nat) : Prop :=
  ∃ before after, cs = before ++ c :: after ∧ before.length = position ∧
    (∀ x ∈ before, ∃ d, IsDigit x d) ∧ ¬∃ d, IsDigit c d

theorem endsAt_cons_iff {x : Char} : EndsAt (x :: cs) c n ↔
    ((¬∃ d, IsDigit x d) ∧ c = x ∧ n = 0) ∨
      (∃ d, IsDigit x d) ∧ ∃ m, EndsAt cs c m ∧ n = m + 1 := by
  constructor
  · rintro ⟨before, after, hcs, rfl, hbefore, hc⟩
    cases before with
    | nil =>
      cases hcs
      exact .inl ⟨hc, rfl, rfl⟩
    | cons y before =>
      cases hcs
      obtain ⟨hx, hbefore⟩ := List.forall_mem_cons.mp hbefore
      exact .inr ⟨hx, _, ⟨before, after, rfl, rfl, hbefore, hc⟩, rfl⟩
  · rintro (⟨hx, rfl, rfl⟩ | ⟨hx, _, ⟨before, after, rfl, rfl, hbefore, hc⟩, rfl⟩)
    · exact ⟨[], cs, rfl, rfl, nofun, hx⟩
    · exact ⟨x :: before, after, rfl, rfl, List.forall_mem_cons.mpr ⟨hx, hbefore⟩, hc⟩

theorem digitValues_eq_error_iff : digitValues position cs = .error e ↔
    ∃ c n, EndsAt cs c n ∧ e = .badDigit (leading c) (position + n) := by
  induction cs generalizing position with
  | nil =>
    constructor
    · nofun
    · rintro ⟨c, n, ⟨before, after, hcs, -⟩, -⟩
      simp at hcs
  | cons x cs ih =>
    rw [digitValues]
    simp only [endsAt_cons_iff]
    cases hx : digit? x with
    | none =>
      have hno := digit?_eq_none_iff.mp hx
      constructor
      · intro h
        exact ⟨x, 0, .inl ⟨hno, rfl, rfl⟩, (Except.error.inj h).symm⟩
      · rintro ⟨c, n, ⟨-, rfl, rfl⟩ | ⟨hd, -⟩, rfl⟩
        · rfl
        · exact absurd hd hno
    | some d =>
      have hd : ∃ d, IsDigit x d := ⟨d, digit?_eq_some_iff.mp hx⟩
      dsimp only
      rw [Except.map_eq_error_iff, ih]
      constructor
      · rintro ⟨c, n, hc, rfl⟩
        exact ⟨c, n + 1, .inr ⟨hd, n, hc, rfl⟩, by rw [Nat.add_assoc, Nat.add_comm 1]⟩
      · rintro ⟨c, n, ⟨hno, -⟩ | ⟨-, m, hc, rfl⟩, rfl⟩
        · exact absurd hd hno
        · exact ⟨c, m, hc, by rw [Nat.add_assoc, Nat.add_comm 1]⟩

theorem Spells.length_eq (h : Spells cs bytes) : cs.length = 2 * bytes.length := by
  induction h with
  | nil => rfl
  | cons _ _ _ ih =>
    simp only [List.length_cons, ih]
    omega

theorem Spells.exists_values (h : Spells cs bytes) :
    ∃ vs, List.Forall₂ IsDigit cs vs ∧ pair vs = bytes := by
  induction h with
  | nil => exact ⟨[], .nil, rfl⟩
  | @cons _ _ b _ _ hhigh hlow _ ih =>
    obtain ⟨vs, hvs, rfl⟩ := ih
    refine ⟨_, .cons hhigh (.cons hlow hvs), ?_⟩
    rw [pair, Nat.div_add_mod, UInt8.ofNat_toNat]

theorem spells_pair (h : List.Forall₂ IsDigit cs vs) (heven : cs.length % 2 = 0) :
    Spells cs (pair vs) := by
  induction vs using pair.induct generalizing cs with
  | case1 high low vs ih =>
    obtain ⟨x, _, hx, hr, rfl⟩ := List.forall₂_cons_right_iff.mp h
    obtain ⟨y, cs, hy, hvs, rfl⟩ := List.forall₂_cons_right_iff.mp hr
    have hhigh := hx.lt
    have hlow := hy.lt
    have hb : (UInt8.ofNat (16 * high + low)).toNat = 16 * high + low :=
      UInt8.toNat_ofNat_of_lt' (Nat.lt_of_lt_of_le (by omega) (Nat.le_refl 256))
    have hq : (16 * high + low) / 16 = high := by omega
    have hm : (16 * high + low) % 16 = low := by omega
    have hrest : cs.length % 2 = 0 := by
      rw [List.length_cons, List.length_cons] at heven
      omega
    refine .cons ?_ ?_ (ih hvs hrest)
    · rwa [hb, hq]
    · rwa [hb, hm]
  | case2 vs hvs =>
    have hlen := h.length_eq
    cases vs with
    | nil =>
      obtain rfl := List.forall₂_nil_right_iff.mp h
      exact .nil
    | cons v vs =>
      cases vs with
      | nil =>
        rw [hlen] at heven
        cases heven
      | cons w vs => exact (hvs v w vs rfl).elim

theorem utf8ByteSize_of_digits (h : ∀ c ∈ cs, ∃ d, IsDigit c d) :
    (String.ofList cs).utf8ByteSize = cs.length := by
  induction cs with
  | nil => rfl
  | cons c cs ih =>
    obtain ⟨⟨d, hd⟩, hcs⟩ := List.forall_mem_cons.mp h
    have hsize : c.utf8Size = 1 := Char.utf8Size_eq_one_iff.mpr (Nat.le_of_lt_succ hd.toNat_lt)
    rw [String.ofList_cons, String.utf8ByteSize_append, String.utf8ByteSize_singleton, hsize,
      ih hcs, List.length_cons, Nat.add_comm]

theorem foldr_utf8Size (cs : List Char) :
    cs.foldr (fun c n => c.utf8Size + n) 0 = (String.ofList cs).utf8ByteSize := by
  induction cs with
  | nil => rfl
  | cons c cs ih =>
    rw [List.foldr_cons, ih, String.ofList_cons, String.utf8ByteSize_append,
      String.utf8ByteSize_singleton]

theorem exists_isDigit_of_forall₂ (h : List.Forall₂ IsDigit cs vs) :
    ∀ c ∈ cs, ∃ d, IsDigit c d := by
  induction h with
  | nil => nofun
  | cons hd _ ih => exact List.forall_mem_cons.mpr ⟨⟨_, hd⟩, ih⟩

theorem exists_forall₂_of_digits (h : ∀ c ∈ cs, ∃ d, IsDigit c d) :
    ∃ vs, List.Forall₂ IsDigit cs vs := by
  induction cs with
  | nil => exact ⟨[], .nil⟩
  | cons c cs ih =>
    obtain ⟨⟨d, hd⟩, hcs⟩ := List.forall_mem_cons.mp h
    obtain ⟨vs, hvs⟩ := ih hcs
    exact ⟨d :: vs, .cons hd hvs⟩

theorem decodeChars_eq_ok_iff : decodeChars cs = .ok bytes ↔ Spells cs bytes := by
  rw [decodeChars, foldr_utf8Size]
  constructor
  · intro h
    split at h
    · cases h
    · rename_i hodd
      obtain ⟨vs, hvs, rfl⟩ := Except.map_eq_ok_iff.mp h
      have hvs := digitValues_eq_ok_iff.mp hvs
      rw [utf8ByteSize_of_digits (exists_isDigit_of_forall₂ hvs)] at hodd
      exact spells_pair hvs (by omega)
  · intro h
    obtain ⟨vs, hvs, hpair⟩ := h.exists_values
    have hlen := h.length_eq
    rw [utf8ByteSize_of_digits (exists_isDigit_of_forall₂ hvs), if_neg (by omega)]
    exact Except.map_eq_ok_iff.mpr ⟨vs, digitValues_eq_ok_iff.mpr hvs, hpair⟩

theorem exists_spells_iff : (∃ bytes, Spells cs bytes) ↔
    cs.length % 2 = 0 ∧ ∀ c ∈ cs, ∃ d, IsDigit c d := by
  constructor
  · rintro ⟨bytes, h⟩
    obtain ⟨vs, hvs, -⟩ := h.exists_values
    have hlen := h.length_eq
    exact ⟨by omega, exists_isDigit_of_forall₂ hvs⟩
  · rintro ⟨heven, h⟩
    obtain ⟨vs, hvs⟩ := exists_forall₂_of_digits h
    exact ⟨_, spells_pair hvs heven⟩

theorem decodeChars_eq_error_iff : decodeChars cs = .error e ↔
    ((String.ofList cs).utf8ByteSize % 2 = 1 ∧ e = .oddLength) ∨
      (String.ofList cs).utf8ByteSize % 2 = 0 ∧
        ∃ c n, EndsAt cs c n ∧ e = .badDigit (leading c) n := by
  rw [decodeChars, foldr_utf8Size]
  split
  · rename_i hodd
    rw [hodd]
    simp [eq_comm]
  · rename_i hodd
    have heven : (String.ofList cs).utf8ByteSize % 2 = 0 := by omega
    rw [Except.map_eq_error_iff, digitValues_eq_error_iff, heven]
    simp

end VehiclePid.Hex
