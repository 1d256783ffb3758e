import VehiclePid.Proofs.Except
import VehiclePid.Proofs.Formula.Reading
import VehiclePid.Proofs.Formula.Scanning

namespace VehiclePid.Formula

theorem InOrder.of_append {is js : List Nat} (h : InOrder (is ++ js)) : InOrder is :=
  fun p i r hs => h p i (r ++ js) (by simp [hs])

theorem inOrder_concat {is : List Nat} {i : Nat} :
    InOrder (is ++ [i]) ↔ InOrder is ∧ (i ∈ is ∨ ∀ j, j ∈ is ↔ j < i) := by
  constructor
  · intro h
    exact ⟨h.of_append, h is i [] rfl⟩
  · rintro ⟨h, hi⟩ p k r hs
    obtain rfl | ⟨r, l, rfl⟩ := List.eq_nil_or_concat r
    · obtain ⟨rfl, hk⟩ := List.append_inj' hs rfl
      cases hk
      exact hi
    · have hs : is ++ [i] = (p ++ k :: r) ++ [l] := by simpa using hs
      obtain ⟨rfl, -⟩ := List.append_inj' hs rfl
      exact h p k r rfl

/-- A scan that has read some tokens and the partial parse of them. -/
structure Follows (xs : List Lexeme) (p : Partial) (s : Scan) : Prop where
  run_eq : Partial.start.run xs = some p
  contents_eq : s.contents = p.contents s.letters
  inOrder : InOrder (letters xs)
  mem_letters : ∀ j, j ∈ letters xs ↔ j < s.letters

namespace Follows

theorem start : Follows [] .start .start :=
  ⟨rfl, rfl, by simp [InOrder], by simp [Scan.start]⟩

theorem verdict {xs : List Lexeme} {p : Partial} {s : Scan} (h : Follows xs p s) (x : Placed) :
    Verdict p s.letters x (s.step x) := Scan.step_verdict h.contents_eq x

theorem inOrder_step {xs : List Lexeme} {p : Partial} {s : Scan} (h : Follows xs p s) {x : Lexeme}
    (hx : ∀ i, x = .letter i → i ≤ s.letters) : InOrder (letters (xs ++ [x])) := by
  rw [letters_append]
  cases x with
  | letter i =>
    refine inOrder_concat.mpr ⟨h.inOrder, ?_⟩
    by_cases hi : i < s.letters
    · exact .inl ((h.mem_letters i).mpr hi)
    · obtain rfl : i = s.letters := Nat.le_antisymm (hx i rfl) (Nat.not_lt.mp hi)
      exact .inr h.mem_letters
  | _ => simpa using h.inOrder

theorem mem_letters_step {xs : List Lexeme} {p : Partial} {s : Scan} (h : Follows xs p s)
    {x : Lexeme} (hx : ∀ i, x = .letter i → i ≤ s.letters) (j : Nat) :
    j ∈ letters (xs ++ [x]) ↔ j < x.bound s.letters := by
  rw [letters_append, List.mem_append, h.mem_letters]
  cases x with
  | letter i =>
    have hi := hx i rfl
    simp only [letters_cons, letters_nil, Lexeme.letter?, Lexeme.bound, Option.toList_some,
      List.append_nil, List.mem_singleton]
    omega
  | _ => simp [Lexeme.bound]

theorem step {xs : List Lexeme} {p : Partial} {s t : Scan} {x : Placed} (h : Follows xs p s)
    (hs : s.step x = .ok t) : ∃ q, p.step x.lexeme = some q ∧ Follows (xs ++ [x.lexeme]) q t := by
  have hv := h.verdict x
  rw [hs] at hv
  cases hv with
  | @accepted q _ hq hn ht =>
    have hl : t.letters = x.lexeme.bound s.letters := congrArg Contents.letters ht
    refine ⟨q, hq, ?_, by rw [ht, hl], h.inOrder_step hn, fun j => ?_⟩
    · rw [Partial.run_append, h.run_eq, Option.bind_some, Partial.run_singleton, hq]
    · rw [hl, h.mem_letters_step hn]

theorem run {ys : List Placed} {xs : List Lexeme} {p : Partial} {s t : Scan} (h : Follows xs p s)
    (hr : ys.foldlM Scan.step s = .ok t) : ∃ q, Follows (xs ++ ys.map Placed.lexeme) q t := by
  have hstart : ∃ q, Follows (xs ++ ([] : List Placed).map Placed.lexeme) q s := ⟨p, by simpa using h⟩
  refine Except.foldlM_preserves (P := fun ys t => ∃ q, Follows (xs ++ ys.map Placed.lexeme) q t)
    (fun ys y s t hs ht => ?_) hstart hr
  obtain ⟨q, hq⟩ := hs
  obtain ⟨q', -, hq'⟩ := hq.step ht
  exact ⟨q', by simpa using hq'⟩

theorem yield_close {xs : List Lexeme} {p : Partial} {s : Scan} (h : Follows xs p s)
    (ho : p.outer = []) {f : Tree .factor} (hf : p.operand = some f) :
    (p.inner.close f).yield = xs := by
  obtain ⟨outer, inner, operand⟩ := p
  subst ho hf
  exact Tree.yield_eq_iff.mpr ⟨inner, f, h.run_eq, rfl⟩

theorem ending {xs : List Lexeme} {p : Partial} {s : Scan} (h : Follows xs p s) :
    Ending p s.letters s.finish := Scan.finish_ending h.contents_eq

end Follows

theorem not_unknown_mem_yield {l : Level} (t : Tree l) (c : Char) : .unknown c ∉ t.yield := by
  induction t with
  | sum e op t ihe iht | product e op t ihe iht => simp [Tree.yield, ihe, iht]
  | ofTerm t ih | ofFactor t ih => exact ih
  | letter i | literal n => simp [Tree.yield]
  | paren e ih => simp [Tree.yield, ih]

theorem exists_numeral_of_mem_yield {l : Level} {t : Tree l} {ds : List Char}
    (h : .number ds ∈ t.yield) : ∃ n : Numeral, n.text = ds := by
  induction t with
  | sum e op t ihe iht | product e op t ihe iht =>
    simp only [Tree.yield, List.mem_append, List.mem_cons, reduceCtorEq, false_or] at h
    exact h.elim ihe iht
  | ofTerm t ih | ofFactor t ih => exact ih h
  | letter i => simp [Tree.yield] at h
  | literal n =>
    simp only [Tree.yield, List.mem_singleton, Lexeme.number.injEq] at h
    exact ⟨n, h.symm⟩
  | paren e ih => exact ih (by simpa [Tree.yield] using h)

theorem WordAt.number_of_reads {p ds r : List Char} (h : WordAt p ds r (.number ds))
    {t : Tree .expr} (hr : Reads (p ++ (ds ++ r)) t.yield) :
    (∃ d ∈ ds, Decimal.isDigit d = true) ∧ ds.count '.' ≤ 1 := by
  have hm : .number ds ∈ t.yield := by
    rw [← hr.lexemes_eq 0, h.lexemes_eq]
    simp
  exact (Numeral.exists_text_iff.mp (exists_numeral_of_mem_yield hm)).2

theorem exists_follows_of_compileChars {cs : List Char} {f : Formula}
    (hb : cs.all Text.isBlank = false) (h : compileChars cs = .ok f) {ys zs : List Placed}
    (hs : lexemes 0 cs = ys ++ zs) : ∃ p s, Follows (ys.map Placed.lexeme) p s := by
  rw [compileChars, hb, hs, List.foldlM_append] at h
  cases hr : ys.foldlM Scan.step Scan.start with
  | error e => simp [hr, bind, Except.bind] at h
  | ok s =>
    obtain ⟨p, hp⟩ := Follows.start.run hr
    exact ⟨p, s, by simpa using hp⟩

theorem exists_tree_of_compileChars {cs : List Char} {f : Formula}
    (hb : cs.all Text.isBlank = false) (h : compileChars cs = .ok f) :
    ∃ t : Tree .expr, Reads cs t.yield ∧ InOrder (letters t.yield) ∧
      f.tokens = t.toExpr.postorder ∧ f.tokens.length ≤ tokenLimit ∧
      ∀ j, j ∈ letters t.yield ↔ j < f.operands := by
  rw [compileChars, hb] at h
  cases hr : (lexemes 0 cs).foldlM Scan.step Scan.start with
  | error e => simp [hr, bind, Except.bind] at h
  | ok s =>
    rw [hr] at h
    obtain ⟨p, hp⟩ := Follows.start.run hr
    have he := hp.ending
    rw [show s.finish = .ok f from h] at he
    cases he with
    | @whole g ho hg hf =>
      have hy := hp.yield_close ho hg
      refine ⟨p.inner.close g, ?_, ?_, rfl, hf, ?_⟩
      · have hn := not_unknown_mem_yield (p.inner.close g)
        rw [hy] at hn ⊢
        exact reads_lexemes hn
      · rw [hy]
        exact hp.inOrder
      · rw [hy]
        exact hp.mem_letters

theorem exists_verdict_of_compileChars {cs : List Char} {e : CompileError}
    (h : compileChars cs = .error e) :
    (∃ ys x zs p s, lexemes 0 cs = ys ++ x :: zs ∧ Follows (ys.map Placed.lexeme) p s ∧
      Verdict p s.letters x (.error e)) ∨
    ∃ p s, Follows ((lexemes 0 cs).map Placed.lexeme) p s ∧ Ending p s.letters (.error e) := by
  unfold compileChars at h
  split at h
  · cases h
  · cases hr : (lexemes 0 cs).foldlM Scan.step Scan.start with
    | error d =>
      rw [hr] at h
      cases h
      obtain ⟨ys, x, zs, t, hs, ht, he⟩ := Except.foldlM_eq_error_iff.mp hr
      obtain ⟨p, hp⟩ := Follows.start.run ht
      exact .inl ⟨ys, x, zs, p, t, hs, hp, he ▸ hp.verdict x⟩
    | ok s =>
      rw [hr] at h
      obtain ⟨p, hp⟩ := Follows.start.run hr
      have he := hp.ending
      rw [show s.finish = .error e from h] at he
      exact .inr ⟨p, s, hp, he⟩

end VehiclePid.Formula
