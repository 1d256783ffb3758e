import VehiclePid.Proofs.Formula.Grammar

namespace VehiclePid.Formula

def byteLength (cs : List Char) : Nat := (String.ofList cs).utf8ByteSize

@[simp] theorem byteLength_append (cs ds : List Char) :
    byteLength (cs ++ ds) = byteLength cs + byteLength ds := by
  simp only [byteLength, String.ofList_append, String.utf8ByteSize_append]

@[simp] theorem byteLength_cons (c : Char) (cs : List Char) :
    byteLength (c :: cs) = c.utf8Size + byteLength cs := by
  simp only [byteLength, String.ofList_cons, String.utf8ByteSize_append,
    String.utf8ByteSize_singleton]

theorem isAsciiBlank_eq_false {p : Char → Bool} {c : Char} (hc : p c = true)
    (h : [' ', '\t', '\n', '\x0c', '\r'].any p = false) : Text.isAsciiBlank c = false := by
  by_cases hb : Text.isAsciiBlank c = true
  · simp only [Text.isAsciiBlank, Bool.or_eq_true, beq_iff_eq] at hb
    exact absurd hc (List.any_eq_false.mp h c (by simpa [or_assoc] using hb))
  · simpa using hb

theorem isAsciiBlank_of_isNumeral {c : Char} (h : isNumeral c = true) :
    Text.isAsciiBlank c = false := isAsciiBlank_eq_false h (by rfl)

theorem isNumeral_of_isAsciiBlank {c : Char} (h : Text.isAsciiBlank c = true) :
    isNumeral c = false := by
  by_cases hd : isNumeral c = true
  · rw [isAsciiBlank_of_isNumeral hd] at h
    cases h
  · simpa using hd

theorem isDigit_or_eq_point {c : Char} (h : isNumeral c = true) :
    Decimal.isDigit c = true ∨ c = '.' := by
  simpa [isNumeral] using h

theorem Numeral.isNumeral_of_mem {n : Numeral} {d : Char} (hd : d ∈ n.text) :
    isNumeral d = true := by
  have h := Decimal.isDigit_or_eq_point_of_literal? n.reads d hd
  simpa [isNumeral] using h

theorem Numeral.exists_text_iff {ds : List Char} :
    (∃ n : Numeral, n.text = ds) ↔ (∀ d ∈ ds, isNumeral d = true) ∧
      (∃ d ∈ ds, Decimal.isDigit d = true) ∧ ds.count '.' ≤ 1 := by
  constructor
  · rintro ⟨n, rfl⟩
    have hd : ∀ d ∈ n.text, isNumeral d = true := fun d => n.isNumeral_of_mem
    refine ⟨hd, ?_⟩
    apply (Decimal.literal?_isSome_iff fun d hm => isDigit_or_eq_point (hd d hm)).mp
    exact Option.isSome_iff_exists.mpr ⟨n.value, n.reads⟩
  · rintro ⟨hd, hn⟩
    have hl : (Decimal.literal? ds : Option (Binary .double)).isSome = true :=
      (Decimal.literal?_isSome_iff fun d hm => isDigit_or_eq_point (hd d hm)).mpr hn
    obtain ⟨v, hv⟩ := Option.isSome_iff_exists.mp hl
    exact ⟨⟨ds, v, hv⟩, rfl⟩

theorem Numeral.text_ne_nil (n : Numeral) : n.text ≠ [] := by
  obtain ⟨-, ⟨d, hd, -⟩, -⟩ := exists_text_iff.mp ⟨n, rfl⟩
  exact List.ne_nil_of_mem hd

theorem utf8Size_of_isNumeral {c : Char} (h : isNumeral c = true) : c.utf8Size = 1 := by
  have hle : c ≤ '9' := by
    simp only [isNumeral, Decimal.isDigit, Bool.or_eq_true, Bool.and_eq_true, decide_eq_true_eq,
      beq_iff_eq] at h
    obtain ⟨-, h⟩ | rfl := h
    · exact h
    · decide
  have hv : c.val ≤ 127 := UInt32.le_trans (Char.le_def.mp hle) (by decide)
  simp [Char.utf8Size, hv]

theorem byteLength_of_isNumeral {ds : List Char} (h : ∀ d ∈ ds, isNumeral d = true) :
    byteLength ds = ds.length := by
  induction ds with
  | nil => rfl
  | cons d ds ih =>
    obtain ⟨hd, hr⟩ := List.forall_mem_cons.mp h
    rw [byteLength_cons, ih hr, utf8Size_of_isNumeral hd, List.length_cons, Nat.add_comm]

/-- No number lies across the cut. -/
def Cut (p r : List Char) : Prop :=
  ∀ c ∈ p.getLast?, ∀ d ∈ r.head?, isNumeral c = true → isNumeral d = false

theorem Cut.of_head {p r : List Char} (h : ∀ d ∈ r.head?, isNumeral d = false) : Cut p r :=
  fun _ _ d hd _ => h d hd

theorem Cut.singleton {c : Char} (hc : isNumeral c = false) (r : List Char) : Cut [c] r := by
  rintro d hd e - h
  cases hd
  exact absurd (hc.symm.trans h) Bool.false_ne_true

theorem Cut.append {p r : List Char} (h : Cut p r) {q : List Char} (hq : p = [] → Cut q r) :
    Cut (q ++ p) r := by
  cases p with
  | nil => simpa using hq rfl
  | cons e p =>
    intro c hc
    apply h c
    simpa [List.getLast?_append] using hc

theorem Cut.of_append {q p r : List Char} (h : Cut (q ++ p) r) : Cut p r := by
  intro c hc
  apply h c
  simp [List.getLast?_append, Option.mem_def.mp hc]

theorem Cut.head_append {ds p r : List Char} (h : Cut (ds ++ p) r) (hn : ds ≠ [])
    (hd : ∀ d ∈ ds, isNumeral d = true) (hp : ∀ c ∈ p.head?, isNumeral c = false) :
    ∀ c ∈ (p ++ r).head?, isNumeral c = false := by
  cases p with
  | nil =>
    intro c hc
    rw [List.append_nil] at h
    exact h (ds.getLast hn) (List.getLast?_eq_some_getLast hn) c hc (hd _ (List.getLast_mem hn))
  | cons e p => exact hp

theorem head_dropWhile (cs : List Char) :
    ∀ c ∈ (cs.dropWhile isNumeral).head?, isNumeral c = false := by
  intro c hc
  have h := List.head?_dropWhile_not isNumeral cs
  rw [Option.mem_def.mp hc] at h
  exact h

/-- Texts are built from blanks, whole numbers and other characters. -/
theorem text_induction {motive : List Char → Prop} (nil : motive [])
    (blank : ∀ c cs, Text.isAsciiBlank c = true → motive cs → motive (c :: cs))
    (number : ∀ ds cs, ds ≠ [] → (∀ d ∈ ds, isNumeral d = true) →
      (∀ c ∈ cs.head?, isNumeral c = false) → motive cs → motive (ds ++ cs))
    (symbol : ∀ c cs, Text.isAsciiBlank c = false → isNumeral c = false → motive cs →
      motive (c :: cs)) (cs : List Char) : motive cs := by
  induction hn : cs.length using Nat.strongRecOn generalizing cs with
  | ind n ih =>
    subst hn
    cases cs with
    | nil => exact nil
    | cons c cs =>
      have hcs : motive cs := ih cs.length (Nat.lt_succ_self _) cs rfl
      by_cases hb : Text.isAsciiBlank c = true
      · exact blank c cs hb hcs
      by_cases hd : isNumeral c = true
      · let ds := (c :: cs).takeWhile isNumeral
        let rest := (c :: cs).dropWhile isNumeral
        have hs : ds ++ rest = c :: cs := List.takeWhile_append_dropWhile
        have hds : ds = c :: cs.takeWhile isNumeral := List.takeWhile_cons_of_pos hd
        have hlen : rest.length < (c :: cs).length := by
          rw [← hs, hds, List.length_append, List.length_cons]
          omega
        rw [← hs]
        refine number ds rest (by simp [hds]) ?_ ?_ (ih _ hlen rest rfl)
        · exact List.all_eq_true.mp List.all_takeWhile
        · exact head_dropWhile (c :: cs)
      · exact symbol c cs (by simpa using hb) (by simpa using hd) hcs

theorem lexemes_blank {c : Char} (hc : Text.isAsciiBlank c = true) (n : Nat) (cs : List Char) :
    lexemes n (c :: cs) = lexemes (n + c.utf8Size) cs := by
  simp [lexemes, hc]

theorem lexemes_symbol {c : Char} (hb : Text.isAsciiBlank c = false) (hc : isNumeral c = false)
    (n : Nat) (cs : List Char) :
    lexemes n (c :: cs) = ⟨.ofChar c, n⟩ :: lexemes (n + c.utf8Size) cs := by
  simp [lexemes, hb, hc]

theorem lexemes_numeral {c : Char} (hc : isNumeral c = true) (n : Nat) (cs : List Char) :
    lexemes n (c :: cs) = joinNumeral c n cs.head? (lexemes (n + c.utf8Size) cs) := by
  simp [lexemes, hc, isAsciiBlank_of_isNumeral hc]

theorem joinNumeral_alone {following : Option Char} (h : ∀ d ∈ following, isNumeral d = false)
    (c : Char) (n : Nat) (rest : List Placed) :
    joinNumeral c n following rest = ⟨.number [c], n⟩ :: rest := by
  have ha : following.any isNumeral = false := by
    cases following with
    | none => rfl
    | some d => exact h d rfl
  unfold joinNumeral
  split
  · simp [ha]
  · rfl

theorem lexemes_number {ds cs : List Char} (hn : ds ≠ []) (hd : ∀ d ∈ ds, isNumeral d = true)
    (hc : ∀ c ∈ cs.head?, isNumeral c = false) (n : Nat) :
    lexemes n (ds ++ cs) = ⟨.number ds, n⟩ :: lexemes (n + byteLength ds) cs := by
  induction ds generalizing n with
  | nil => exact absurd rfl hn
  | cons d ds ih =>
    obtain ⟨hd, hr⟩ := List.forall_mem_cons.mp hd
    rw [List.cons_append, lexemes_numeral hd, byteLength_cons, ← Nat.add_assoc]
    cases ds with
    | nil => exact joinNumeral_alone hc d n _
    | cons e ds =>
      rw [ih (by simp) hr]
      simp [joinNumeral, hr e (by simp)]

theorem lexemes_append {p r : List Char} (h : Cut p r) (n : Nat) :
    lexemes n (p ++ r) = lexemes n p ++ lexemes (n + byteLength p) r := by
  induction p using text_induction generalizing n with
  | nil => rfl
  | blank c p hc ih =>
    rw [List.cons_append, lexemes_blank hc, lexemes_blank hc, ih (Cut.of_append (q := [c]) h),
      byteLength_cons, Nat.add_assoc]
  | number ds p hn hd hc ih =>
    rw [List.append_assoc, lexemes_number hn hd (h.head_append hn hd hc), lexemes_number hn hd hc,
      ih (Cut.of_append h), byteLength_append, Nat.add_assoc, List.cons_append]
  | symbol c p hb hc ih =>
    rw [List.cons_append, lexemes_symbol hb hc, lexemes_symbol hb hc,
      ih (Cut.of_append (q := [c]) h), byteLength_cons, Nat.add_assoc, List.cons_append]

inductive Word : List Char → Lexeme → Prop
  | number {ds : List Char} (hn : ds ≠ []) (hd : ∀ d ∈ ds, isNumeral d = true) :
    Word ds (.number ds)
  | symbol {c : Char} (hb : Text.isAsciiBlank c = false) (hc : isNumeral c = false) :
    Word [c] (.ofChar c)

theorem symbol_ofChar {c : Char} (h : ∀ d, Lexeme.ofChar c ≠ .unknown d) :
    Symbol c (.ofChar c) := by
  unfold Lexeme.ofChar at h ⊢
  split at h
  · exact .operator .add
  · exact .operator .sub
  · exact .operator .mul
  · exact .operator .div
  · exact .leftParen
  · exact .rightParen
  · split at h
    · rename_i hc
      rw [if_pos hc]
      exact .letter hc
    · exact absurd rfl (h c)

theorem ofChar_ne_number (c : Char) (ds : List Char) : Lexeme.ofChar c ≠ .number ds := by
  unfold Lexeme.ofChar
  split
  iterate 6 exact nofun
  split <;> exact nofun

theorem eq_of_ofChar_eq_unknown {c d : Char} (h : Lexeme.ofChar c = .unknown d) : c = d := by
  unfold Lexeme.ofChar at h
  split at h
  iterate 6 cases h
  split at h <;> cases h
  rfl

theorem Word.of_number {w ds : List Char} (h : Word w (.number ds)) :
    w = ds ∧ ds ≠ [] ∧ ∀ d ∈ ds, isNumeral d = true := by
  generalize hx : Lexeme.number ds = x at h
  cases h with
  | number hn hd =>
    cases hx
    exact ⟨rfl, hn, hd⟩
  | symbol => exact absurd hx.symm (ofChar_ne_number _ ds)

theorem Word.of_unknown {w : List Char} {c : Char} (h : Word w (.unknown c)) : w = [c] := by
  generalize hx : Lexeme.unknown c = x at h
  cases h with
  | number => cases hx
  | symbol => rw [eq_of_ofChar_eq_unknown hx.symm]

theorem Word.exists_symbol {w : List Char} {x : Lexeme} (h : Word w x)
    (hn : ∀ ds, x ≠ .number ds) (hu : ∀ c, x ≠ .unknown c) : ∃ c, w = [c] ∧ Symbol c x := by
  cases h with
  | number => exact absurd rfl (hn w)
  | @symbol c => exact ⟨c, rfl, symbol_ofChar hu⟩

/-- A token that is written between two parts of a text. -/
structure WordAt (p w r : List Char) (x : Lexeme) : Prop where
  word : Word w x
  before : Cut p (w ++ r)
  after : Cut w r

theorem Word.ne_nil {w : List Char} {x : Lexeme} (h : Word w x) : w ≠ [] := by
  cases h with
  | number hn => exact hn
  | symbol => simp

theorem WordAt.cut {p w r : List Char} {x : Lexeme} (h : WordAt p w r x) (t : List Char) :
    Cut p (w ++ t) := by
  intro c hc d hd
  apply h.before c hc d
  cases w with
  | nil => exact absurd rfl h.word.ne_nil
  | cons e w => exact hd

theorem lexemes_split {n : Nat} {cs : List Char} {ys : List Placed} {x : Placed}
    {zs : List Placed} (h : lexemes n cs = ys ++ x :: zs) :
    ∃ p w r, cs = p ++ (w ++ r) ∧ WordAt p w r x.lexeme ∧ lexemes n p = ys ∧
      x.position = n + byteLength p := by
  induction cs using text_induction generalizing n ys with
  | nil => simp [lexemes] at h
  | blank c cs hc ih =>
    rw [lexemes_blank hc] at h
    obtain ⟨p, w, r, rfl, hw, hys, hpos⟩ := ih h
    refine ⟨c :: p, w, r, rfl, ⟨hw.word, ?_, hw.after⟩, by rw [lexemes_blank hc, hys], ?_⟩
    · exact hw.before.append (q := [c]) fun _ => .singleton (isNumeral_of_isAsciiBlank hc) _
    · rw [hpos, byteLength_cons, Nat.add_assoc]
  | number ds cs hn hd hc ih =>
    rw [lexemes_number hn hd hc] at h
    cases ys with
    | nil =>
      cases h
      exact ⟨[], ds, cs, rfl, ⟨.number hn hd, nofun, .of_head hc⟩, rfl, rfl⟩
    | cons y ys =>
      obtain ⟨rfl, ht⟩ := List.cons.inj h
      obtain ⟨p, w, r, rfl, hw, hys, hpos⟩ := ih ht
      refine ⟨ds ++ p, w, r, by rw [List.append_assoc], ⟨hw.word, ?_, hw.after⟩, ?_, ?_⟩
      · refine hw.before.append fun hp => .of_head ?_
        simpa [hp] using hc
      · rw [lexemes_number hn hd, hys]
        intro c hm
        cases p with
        | nil => cases hm
        | cons e p => exact hc c hm
      · rw [hpos, byteLength_append, Nat.add_assoc]
  | symbol c cs hb hc ih =>
    rw [lexemes_symbol hb hc] at h
    cases ys with
    | nil =>
      cases h
      exact ⟨[], [c], cs, rfl, ⟨.symbol hb hc, nofun, .singleton hc _⟩, rfl, rfl⟩
    | cons y ys =>
      obtain ⟨rfl, ht⟩ := List.cons.inj h
      obtain ⟨p, w, r, rfl, hw, hys, hpos⟩ := ih ht
      refine ⟨c :: p, w, r, rfl, ⟨hw.word, ?_, hw.after⟩, by rw [lexemes_symbol hb hc, hys], ?_⟩
      · exact hw.before.append (q := [c]) fun _ => .singleton hc _
      · rw [hpos, byteLength_cons, Nat.add_assoc]

theorem Word.lexemes_eq {w : List Char} {x : Lexeme} (h : Word w x) (n : Nat) :
    lexemes n w = [⟨x, n⟩] := by
  cases h with
  | number hn hd =>
    have hl : lexemes n (w ++ []) = ⟨.number w, n⟩ :: lexemes (n + byteLength w) [] :=
      lexemes_number hn hd (by simp) n
    rwa [List.append_nil] at hl
  | symbol hb hc => exact lexemes_symbol hb hc n []

theorem WordAt.lexemes_eq {p w r : List Char} {x : Lexeme} (h : WordAt p w r x) (n : Nat) :
    lexemes n (p ++ (w ++ r)) = lexemes n p ++
      ⟨x, n + byteLength p⟩ :: lexemes (n + byteLength p + byteLength w) r := by
  rw [lexemes_append h.before, lexemes_append h.after, h.word.lexemes_eq]
  rfl

theorem lexemes_word {w : List Char} {x : Lexeme} (h : Word w x) (n : Nat) (r : List Char) :
    ∃ y zs, lexemes n (w ++ r) = ⟨y, n⟩ :: zs ∧ x.Alike y := by
  cases h with
  | number hn hd =>
    have hr := List.takeWhile_append_dropWhile (p := isNumeral) (l := r)
    have hn' : w ++ r.takeWhile isNumeral ≠ [] := by simp [hn]
    have hd' : ∀ d ∈ w ++ r.takeWhile isNumeral, isNumeral d = true := by
      intro d hm
      obtain hm | hm := List.mem_append.mp hm
      · exact hd d hm
      · exact List.all_eq_true.mp List.all_takeWhile d hm
    have hs := lexemes_number hn' hd' (head_dropWhile r) n
    rw [List.append_assoc, hr] at hs
    exact ⟨_, _, hs, .inr ⟨_, _, rfl, rfl⟩⟩
  | symbol hb hc => exact ⟨_, _, lexemes_symbol hb hc n r, .inl rfl⟩

theorem isNumeral_of_capital {c : Char} (h : 'A' ≤ c) : isNumeral c = false := by
  have ha : 65 ≤ c.val.toNat := UInt32.le_iff_toNat_le.mp h
  have h9 : ¬c ≤ '9' := fun hc =>
    absurd (Nat.le_trans ha (UInt32.le_iff_toNat_le.mp hc)) (by decide)
  have hp : c ≠ '.' := by
    rintro rfl
    exact absurd h (by decide)
  simp [isNumeral, Decimal.isDigit, h9, hp]

theorem Symbol.not_isNumeral {c : Char} {x : Lexeme} (h : Symbol c x) : isNumeral c = false := by
  cases h with
  | letter h => exact isNumeral_of_capital h.1
  | operator op => cases op <;> rfl
  | leftParen | rightParen => rfl

theorem Symbol.not_isAsciiBlank {c : Char} {x : Lexeme} (h : Symbol c x) :
    Text.isAsciiBlank c = false := by
  cases h with
  | letter h =>
    have hc : decide ('A' ≤ c ∧ c ≤ 'Z') = true := decide_eq_true h
    exact isAsciiBlank_eq_false (p := fun d => decide ('A' ≤ d ∧ d ≤ 'Z')) hc (by rfl)
  | operator op => cases op <;> rfl
  | leftParen | rightParen => rfl

theorem Symbol.ofChar_eq {c : Char} {x : Lexeme} (h : Symbol c x) : .ofChar c = x := by
  cases h with
  | letter h =>
    unfold Lexeme.ofChar
    split
    iterate 6 exact absurd h (by decide)
    exact if_pos h
  | operator op => cases op <;> rfl
  | leftParen | rightParen => rfl

theorem ofChar_of_isNumeral {c : Char} (hc : isNumeral c = true) :
    Lexeme.ofChar c = .unknown c := by
  by_cases hn : Lexeme.ofChar c = .unknown c
  · exact hn
  · have hs : Symbol c (.ofChar c) := by
      apply symbol_ofChar
      intro d hd
      obtain rfl := eq_of_ofChar_eq_unknown hd
      exact hn hd
    rw [hs.not_isNumeral] at hc
    cases hc

theorem Reads.lexemes_eq {cs : List Char} {xs : List Lexeme} (h : Reads cs xs) (n : Nat) :
    (lexemes n cs).map Placed.lexeme = xs := by
  induction h generalizing n with
  | nil => rfl
  | blank hc h ih => rw [lexemes_blank hc, ih]
  | number hn hd hc h ih => rw [lexemes_number hn hd hc, List.map_cons, ih]
  | symbol hc h ih =>
    rw [lexemes_symbol hc.not_isAsciiBlank hc.not_isNumeral, List.map_cons, ih, hc.ofChar_eq]

theorem reads_lexemes {n : Nat} {cs : List Char}
    (h : ∀ c, .unknown c ∉ (lexemes n cs).map Placed.lexeme) :
    Reads cs ((lexemes n cs).map Placed.lexeme) := by
  induction cs using text_induction generalizing n with
  | nil => exact .nil
  | blank c cs hc ih =>
    rw [lexemes_blank hc] at h ⊢
    exact .blank hc (ih h)
  | number ds cs hn hd hc ih =>
    rw [lexemes_number hn hd hc, List.map_cons] at h ⊢
    exact .number hn hd hc (ih fun c hm => h c (List.mem_cons_of_mem _ hm))
  | symbol c cs hb hc ih =>
    rw [lexemes_symbol hb hc, List.map_cons] at h ⊢
    refine .symbol (symbol_ofChar fun d hd => h d (hd ▸ List.mem_cons_self)) ?_
    exact ih fun d hm => h d (List.mem_cons_of_mem _ hm)

theorem Reads.alphabet {cs : List Char} {xs : List Lexeme} (h : Reads cs xs) :
    ∀ c ∈ cs, isNumeral c = true ∨ Text.isAsciiBlank c = true ∨ ('A' ≤ c ∧ c ≤ 'Z') ∨
      c ∈ ['+', '-', '*', '/', '(', ')'] := by
  induction h with
  | nil => exact nofun
  | blank hc _ ih => exact List.forall_mem_cons.mpr ⟨.inr (.inl hc), ih⟩
  | number _ hd _ _ ih =>
    intro c hm
    obtain hm | hm := List.mem_append.mp hm
    · exact .inl (hd c hm)
    · exact ih c hm
  | symbol hc _ ih =>
    refine List.forall_mem_cons.mpr ⟨.inr (.inr ?_), ih⟩
    cases hc with
    | letter h => exact .inl h
    | operator op => cases op <;> exact .inr (by decide)
    | leftParen | rightParen => exact .inr (by decide)

theorem capital_iff {c : Char} : 'A' ≤ c ∧ c ≤ 'Z' ↔ 65 ≤ c.toNat ∧ c.toNat ≤ 90 :=
  and_congr UInt32.le_iff_toNat_le UInt32.le_iff_toNat_le

theorem toNat_letter : ∀ i < 26, (letter i).toNat = 65 + i := by decide

theorem letter_index {c : Char} (h : 'A' ≤ c ∧ c ≤ 'Z') : letter (c.toNat - 65) = c := by
  have hc := capital_iff.mp h
  have hn : 65 + (c.toNat - 65) = c.toNat := by omega
  rw [letter, hn, Char.ofNat_toNat]

theorem Reads.mem_letters {cs : List Char} {xs : List Lexeme} (h : Reads cs xs) (i : Nat) :
    i ∈ letters xs ↔ ∃ c ∈ cs, ('A' ≤ c ∧ c ≤ 'Z') ∧ i = c.toNat - 65 := by
  induction h with
  | nil => simp
  | @blank c cs xs hc _ ih =>
    have hn : ¬('A' ≤ c ∧ c ≤ 'Z') := fun h => by simp [(Symbol.letter h).not_isAsciiBlank] at hc
    simp [ih, hn]
  | @number ds cs xs _ hd _ _ ih =>
    have hn : ∀ d ∈ ds, ¬('A' ≤ d ∧ d ≤ 'Z') := by
      intro d hm h
      have hf := hd d hm
      rw [isNumeral_of_capital h.1] at hf
      cases hf
    rw [show letters (.number ds :: xs) = letters xs from rfl, ih]
    constructor
    · rintro ⟨c, hm, hc⟩
      exact ⟨c, List.mem_append_right _ hm, hc⟩
    · rintro ⟨c, hm, hc, hi⟩
      obtain hm | hm := List.mem_append.mp hm
      · exact absurd hc (hn c hm)
      · exact ⟨c, hm, hc, hi⟩
  | symbol hc _ ih =>
    cases hc with
    | letter h => simp [ih, h]
    | operator op =>
      have hn : ¬('A' ≤ op.symbol ∧ op.symbol ≤ 'Z') := by cases op <;> decide
      simp [ih, hn]
    | leftParen | rightParen => simp [ih, show ¬('A' ≤ '(') by decide, show ¬('A' ≤ ')') by decide]

theorem Reads.lt_of_mem_letters {cs : List Char} {xs : List Lexeme} (h : Reads cs xs) {i : Nat}
    (hi : i ∈ letters xs) : i < 26 := by
  obtain ⟨c, -, hc, rfl⟩ := (h.mem_letters i).mp hi
  have hcap := capital_iff.mp hc
  omega

theorem Reads.unique {cs : List Char} {xs ys : List Lexeme} (h : Reads cs xs) (h' : Reads cs ys) :
    xs = ys := (h.lexemes_eq 0).symm.trans (h'.lexemes_eq 0)

theorem Reads.append {as bs : List Char} {xs ys : List Lexeme} (ha : Reads as xs)
    (hb : Reads bs ys) (h : ∀ b ∈ bs.head?, isNumeral b = false) : Reads (as ++ bs) (xs ++ ys) := by
  induction ha with
  | nil => exact hb
  | blank hc _ ih => exact .blank hc ih
  | @number ds cs xs hn hd hc _ ih =>
    rw [List.append_assoc]
    refine .number hn hd ?_ ih
    cases cs with
    | nil => exact h
    | cons c cs => exact hc
  | symbol hc _ ih => exact .symbol hc ih

end VehiclePid.Formula
