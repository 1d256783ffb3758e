import VehiclePid.Proofs.Formula.Limits

namespace VehiclePid.Formula

structure Acceptable (cs : List Char) (xs : List Lexeme) : Prop where
  alphabet : ∀ c ∈ cs, isNumeral c = true ∨ Text.isAsciiBlank c = true ∨ ('A' ≤ c ∧ c ≤ 'Z') ∨
    c ∈ ['+', '-', '*', '/', '(', ')']
  numbers : ∀ p ds r, cs = p ++ (ds ++ r) → WordAt p ds r (.number ds) →
    (∃ d ∈ ds, Decimal.isDigit d = true) ∧ ds.count '.' ≤ 1
  sentence : ∃ t : Tree .expr, t.yield = xs
  inOrder : InOrder (letters xs)
  leaves_le : leaves xs ≤ 16
  backlog_le : ∀ ys x zs, xs = ys ++ x :: zs → x.opens = true → backlog (ys ++ [x]) ≤ 32

namespace Acceptable

variable {cs : List Char} {xs : List Lexeme}

theorem not_exceeds (h : Acceptable cs xs) {ys zs : List Lexeme} (hs : xs = ys ++ zs) :
    ¬Exceeds ys := by
  rintro (hl | ⟨ys, x, rfl, hx, hb⟩)
  · have hle := h.leaves_le
    rw [hs, leaves_append] at hle
    omega
  · have hle := h.backlog_le ys x zs (by simpa using hs) hx
    omega

theorem exists_step (h : Acceptable cs xs) {ys zs : List Lexeme} {x : Lexeme}
    (hs : xs = ys ++ x :: zs) {p : Partial} (hp : Partial.start.run ys = some p) :
    ∃ q, p.step x = some q := by
  obtain ⟨t, ht⟩ := h.sentence
  obtain ⟨s, f, hr, -⟩ := Tree.yield_eq_iff.mp ht
  rw [hs, Partial.run_append, hp, Option.bind_some, Partial.run_cons] at hr
  obtain ⟨q, hq, -⟩ := Option.bind_eq_some_iff.mp hr
  exact ⟨q, hq⟩

theorem letter_le (h : Acceptable cs xs) {ys zs : List Lexeme} {i : Nat}
    (hs : xs = ys ++ .letter i :: zs) {p : Partial} {s : Scan} (hf : Follows ys p s) :
    i ≤ s.letters := by
  have ho := h.inOrder
  have hl : letters xs = (letters ys ++ [i]) ++ letters zs := by simp [hs]
  rw [hl] at ho
  have hi := (inOrder_concat.mp ho.of_append).2
  apply Nat.le_of_not_lt
  intro hn
  -- a letter past the first free one is neither bound nor the next to be
  obtain hm | hm := hi
  · have hlt := (hf.mem_letters i).mp hm
    omega
  · have hlt := (hf.mem_letters s.letters).mp ((hm s.letters).mpr hn)
    omega

theorem not_verdict (h : Acceptable cs xs) {ys zs : List Lexeme} {x : Placed}
    (hs : xs = ys ++ x.lexeme :: zs) {p : Partial} {s : Scan} (hf : Follows ys p s)
    (e : CompileError) : ¬Verdict p s.letters x (.error e) := by
  obtain ⟨q, hq⟩ := h.exists_step hs hf.run_eq
  have hlim : ¬Exceeds (ys ++ [x.lexeme]) :=
    h.not_exceeds (show xs = (ys ++ [x.lexeme]) ++ zs by simpa using hs)
  intro hv
  cases hv with
  | full hq' _ hfit => exact hlim (hf.exceeds_of_full hq' hfit)
  | misplaced hm => simp [hm _ (.inl rfl)] at hq
  | unknown hx => simp [hx, Partial.step] at hq
  | illiterate hx hd =>
    rw [hx] at hq
    cases Partial.moves_of_step hq with
    | literal outer u n => simp [Numeral.ofText?_text] at hd
  | early hx _ hi =>
    rw [hx] at hs
    have hle := h.letter_le hs hf
    omega
  | unopened hx ho | fullUnopened hx ho =>
    rw [hx] at hq
    cases Partial.moves_of_step hq with
    | rightParen => cases ho

theorem not_ending (h : Acceptable cs xs) {p : Partial} {s : Scan} (hf : Follows xs p s)
    (e : CompileError) : ¬Ending p s.letters (.error e) := by
  obtain ⟨t, ht⟩ := h.sentence
  obtain ⟨u, f, hr, -⟩ := Tree.yield_eq_iff.mp ht
  have hp : p = ⟨[], u, some f⟩ := Option.some.inj (hf.run_eq.symm.trans hr)
  intro he
  cases he with
  | unclosed ho => simp [hp] at ho
  | unfinished hn => simp [hp] at hn
  | full hp hfull => exact h.not_exceeds (List.append_nil xs).symm (hf.exceeds_of_release hp hfull)

theorem exists_compileChars (h : Acceptable cs xs) (hr : Reads cs xs) :
    ∃ f, compileChars cs = .ok f := by
  have hx := hr.lexemes_eq 0
  cases hc : compileChars cs with
  | ok f => exact ⟨f, rfl⟩
  | error e =>
    obtain ⟨ys, x, zs, p, s, hs, hf, hv⟩ | ⟨p, s, hf, he⟩ := exists_verdict_of_compileChars hc
    · rw [hs, List.map_append, List.map_cons] at hx
      exact absurd hv (h.not_verdict hx.symm hf e)
    · rw [hx] at hf
      exact absurd he (h.not_ending hf e)

end Acceptable

theorem acceptable_of_compileChars {cs : List Char} {f : Formula}
    (hb : cs.all Text.isBlank = false) (h : compileChars cs = .ok f) :
    ∃ xs, Reads cs xs ∧ Acceptable cs xs ∧ f.tokens.length + 1 = 2 * leaves xs := by
  obtain ⟨t, hr, ho, htok, hlen, -⟩ := exists_tree_of_compileChars hb h
  have hx := hr.lexemes_eq 0
  have hl : f.tokens.length + 1 = 2 * leaves t.yield := by
    rw [htok, Expr.length_postorder, Tree.leaves_yield]
  have hlen : f.tokens.length ≤ 32 := hlen
  refine ⟨t.yield, hr, ⟨hr.alphabet, ?_, ⟨t, rfl⟩, ho, by omega, ?_⟩, hl⟩
  · rintro p ds r rfl hw
    exact hw.number_of_reads hr
  · intro ys x zs hs _
    rw [← hx] at hs
    obtain ⟨us, vs, hl, rfl, hv⟩ := List.map_eq_append_iff.mp hs
    obtain ⟨v, vs, rfl, rfl, -⟩ := List.map_eq_cons_iff.mp hv
    rw [List.append_cons] at hl
    obtain ⟨p, s, hf⟩ := exists_follows_of_compileChars hb h hl
    simpa using hf.backlog_le

/-- A text compiles exactly when it is acceptable, and then to at most 31 tokens. -/
theorem compile_isOk_iff {source : String} (hb : ∃ c ∈ source.toList, Text.isBlank c = false) :
    ((∃ f, compile source = .ok f) ↔
        ∃ xs, Reads source.toList xs ∧ Acceptable source.toList xs) ∧
      ∀ f, compile source = .ok f → f.tokens.length ≤ 31 := by
  have hb : source.toList.all Text.isBlank = false := List.all_eq_false.mpr (by simpa using hb)
  refine ⟨⟨?_, ?_⟩, ?_⟩
  · rintro ⟨f, h⟩
    obtain ⟨xs, hr, ha, -⟩ := acceptable_of_compileChars hb h
    exact ⟨xs, hr, ha⟩
  · rintro ⟨xs, hr, ha⟩
    exact ha.exists_compileChars hr
  · intro f h
    obtain ⟨xs, -, ha, hl⟩ := acceptable_of_compileChars hb h
    have hle := ha.leaves_le
    omega

theorem compile_isOk_iff_nested :
    (∃ c ∈ "(A+B)*.5 - 1".toList, Text.isBlank c = false) ∧
      compile "(A+B)*.5 - 1" = .ok ⟨[.operand 0, .operand 1, .operator .add,
        .literal (.ofQuotient false 5 10), .operator .mul, .literal (.ofNat 1),
        .operator .sub], 2⟩ ∧
      ∃ xs, Reads "(A+B)*.5 - 1".toList xs ∧ Acceptable "(A+B)*.5 - 1".toList xs :=
  have hb : ∃ c ∈ "(A+B)*.5 - 1".toList, Text.isBlank c = false := ⟨'A', by decide, rfl⟩
  have h : compile "(A+B)*.5 - 1" = .ok ⟨[.operand 0, .operand 1, .operator .add,
    .literal (.ofQuotient false 5 10), .operator .mul, .literal (.ofNat 1),
    .operator .sub], 2⟩ := by rfl
  ⟨hb, h, (compile_isOk_iff hb).1.mp ⟨_, h⟩⟩

end VehiclePid.Formula
