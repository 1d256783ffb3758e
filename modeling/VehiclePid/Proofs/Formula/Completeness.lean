import Mathlib.Data.Bool.Basic
import Mathlib.Data.List.Dedup
import Mathlib.Data.List.Induction
import VehiclePid.Proofs.Formula.Acceptance
import VehiclePid.Proofs.Formula.Spelling

namespace VehiclePid.Formula

theorem openings_enclose (b : Bool) (xs : List Lexeme) :
    openings (enclose b xs) = openings xs + b.toNat := by
  cases b <;> simp [enclose]

/-- Parentheses around inner nodes only: an expression has one inner node less than leaves. -/
theorem openings_spell {wrap : Operator → Side → Expr → Bool}
    (hw : ∀ op side c, wrap op side c = true → c.isInner = true) (e : Expr) :
    openings (e.spell wrap) + e.isInner.toNat + 2 ≤ 2 * e.leaves := by
  induction e with
  | letter | literal => exact Nat.le_refl 2
  | binary op l r ihl ihr =>
    have hl := Bool.toNat_le_toNat (Bool.le_iff_imp.mpr (hw op .left l))
    have hr := Bool.toNat_le_toNat (Bool.le_iff_imp.mpr (hw op .right r))
    simp only [Expr.spell, Expr.leaves, Expr.isInner, openings_append, openings_cons,
      openings_enclose, Lexeme.opens, if_true, Bool.toNat_true]
    omega

theorem Expr.length_letters_le (e : Expr) : e.letters.length ≤ e.leaves := by
  induction e with
  | letter | literal => exact Nat.le_add_left _ _
  | binary op l r ihl ihr =>
    rw [letters, leaves, List.length_append]
    exact Nat.add_le_add ihl ihr

theorem InOrder.lt_length {is : List Nat} (h : InOrder is) : ∀ i ∈ is, i < is.length := by
  induction is using List.reverseRecOn with
  | nil => exact nofun
  | append_singleton is i ih =>
    obtain ⟨hs, hi⟩ := inOrder_concat.mp h
    have hlt := ih hs
    have hle : i ≤ is.length := by
      obtain hm | hm := hi
      · exact Nat.le_of_lt (hlt i hm)
      · apply Nat.le_of_not_lt
        intro hn
        exact Nat.lt_irrefl _ (hlt _ ((hm is.length).mpr hn))
    intro j hj
    rw [List.length_append, List.length_singleton]
    obtain hj | hj := List.mem_append.mp hj
    · exact Nat.lt_succ_of_lt (hlt j hj)
    · rw [List.mem_singleton.mp hj]
      exact Nat.lt_succ_of_le hle

theorem length_dedup_of_mem_iff {is : List Nat} {n : Nat} (h : ∀ j, j ∈ is ↔ j < n) :
    is.dedup.length = n := by
  have hp : is.dedup.Perm (List.range n) := by
    rw [List.perm_ext_iff_of_nodup is.nodup_dedup List.nodup_range]
    intro j
    rw [List.mem_dedup, h, List.mem_range]
  rw [hp.length_eq, List.length_range]

theorem lt_of_mem_letters {t : Tree .expr} (ho : InOrder (letters t.yield))
    (hl : leaves t.yield ≤ 16) : ∀ i ∈ letters t.yield, i < 26 := by
  intro i hi
  have hlt := ho.lt_length i hi
  have hle := t.toExpr.length_letters_le
  rw [← t.letters_yield, ← t.leaves_yield] at hle
  omega

theorem acceptable_of_openings {t : Tree .expr} {cs : List Char} (hr : Reads cs t.yield)
    (ho : InOrder (letters t.yield)) (hl : leaves t.yield ≤ 16) (hb : openings t.yield ≤ 32) :
    Acceptable cs t.yield :=
  { alphabet := hr.alphabet
    numbers := by
      rintro p ds r rfl hw
      exact hw.number_of_reads hr
    sentence := ⟨t, rfl⟩
    inOrder := ho
    leaves_le := hl
    backlog_le := by
      intro ys x zs hx _
      rw [List.append_cons] at hx
      exact Nat.le_trans (backlog_le_openings hx) hb }

theorem compileChars_of_reads {t : Tree .expr} {cs : List Char} (hr : Reads cs t.yield)
    (ha : Acceptable cs t.yield) :
    compileChars cs = .ok ⟨t.toExpr.postorder, t.toExpr.letters.dedup.length⟩ := by
  obtain ⟨f, hf⟩ := ha.exists_compileChars hr
  have hne : t.yield ≠ [] := by
    intro hn
    have hp := t.toExpr.leaves_pos
    rw [← t.leaves_yield, hn] at hp
    exact Nat.lt_irrefl 0 hp
  obtain ⟨u, hu, -, htok, -, hmem⟩ := exists_tree_of_compileChars (hr.not_all_blank hne) hf
  obtain rfl := Tree.yield_injective (hu.unique hr)
  rw [hf, ← u.letters_yield, length_dedup_of_mem_iff hmem, ← htok]

/-- Any spelling with the parentheses that are needed and others around inner nodes at most. -/
theorem compileChars_of_spell {wrap : Operator → Side → Expr → Bool}
    (hweak : ∀ op side c, Expr.isWeak op side c = true → wrap op side c = true)
    (hinner : ∀ op side c, wrap op side c = true → c.isInner = true) {b : Bool} {e : Expr}
    (hb : b = true → e.isInner = true) (ho : InOrder e.letters) (hl : e.leaves ≤ 16)
    {cs : List Char} (hs : Spaced (enclose b (e.spell wrap)) cs) :
    compileChars cs = .ok ⟨e.postorder, e.letters.dedup.length⟩ := by
  have hp := (parses_spell hweak e).enclose (b := b) e.one_le_strength fun _ => e.one_le_strength
  obtain ⟨t, hy, rfl⟩ := hp .expr (Nat.le_refl 1)
  have hopen : openings t.yield ≤ 32 := by
    have hle := openings_spell hinner t.toExpr
    have hbe := Bool.toNat_le_toNat (Bool.le_iff_imp.mpr hb)
    rw [hy, openings_enclose]
    omega
  rw [← hy] at hs
  rw [← t.letters_yield] at ho
  rw [← t.leaves_yield] at hl
  obtain ⟨p, f, hrun, -⟩ := Partial.consumes t []
  have hr := (hs.reads (lt_of_mem_letters ho hl) hrun).1
  exact compileChars_of_reads hr (acceptable_of_openings hr ho hl hopen)

theorem isInner_of_isWeak {op : Operator} {side : Side} {e : Expr}
    (h : Expr.isWeak op side e = true) : e.isInner = true := by
  cases e with
  | binary => rfl
  | letter | literal => cases op <;> cases side <;> cases h

/-- Every expression over at most sixteen leaves compiles to its postorder, however its text is
spaced, when it is spelled with the parentheses it needs or with parentheses around all inner nodes.
Its literals are any runs of digits with at most one point and at least one digit. -/
theorem compile_eq_postorder_of_spaced :
    (∀ ds : List Char, (∃ n : Numeral, n.text = ds) ↔ (∀ d ∈ ds, isNumeral d = true) ∧
      (∃ d ∈ ds, Decimal.isDigit d = true) ∧ ds.count '.' ≤ 1) ∧
    ∀ (e : Expr) (xs : List Lexeme) (source : String), e.leaves ≤ 16 → InOrder e.letters →
      (xs = e.minimal ∨ xs = e.bracketed) → Spaced xs source.toList →
      compile source = .ok ⟨e.postorder, e.letters.dedup.length⟩ := by
  refine ⟨fun ds => Numeral.exists_text_iff, ?_⟩
  rintro e xs source hl ho (rfl | rfl) hs
  · have hs : Spaced (enclose false (e.spell Expr.isWeak)) source.toList := hs
    exact compileChars_of_spell (b := false) (fun _ _ _ h => h) (fun _ _ _ => isInner_of_isWeak)
      nofun ho hl hs
  · exact compileChars_of_spell (fun _ _ _ => isInner_of_isWeak) (fun _ _ _ h => h) id ho hl hs

theorem compile_eq_postorder_of_spaced_nested : ∃ e : Expr, e.leaves ≤ 16 ∧ InOrder e.letters ∧
    Spaced e.minimal "A - (.5-B*A)".toList ∧ Spaced e.bracketed "( A-(.5-(B*A)) )".toList ∧
    compile "A - (.5-B*A)" = .ok ⟨[.operand 0, .literal (.ofQuotient false 5 10), .operand 1,
      .operand 0, .operator .mul, .operator .sub, .operator .sub], 2⟩ ∧
    compile "( A-(.5-(B*A)) )" = compile "A - (.5-B*A)" := by
  let half : Numeral := ⟨['.', '5'], .ofQuotient false 5 10, rfl⟩
  let e : Expr := .binary .sub (.letter 0)
    (.binary .sub (.literal half) (.binary .mul (.letter 1) (.letter 0)))
  have hl : e.leaves ≤ 16 := by decide
  have ho : InOrder e.letters := by
    have h : InOrder ([] ++ [0] ++ [1] ++ [0]) := by
      simp only [inOrder_concat]
      simp [InOrder]
    exact h
  have hm : Spaced e.minimal "A - (.5-B*A)".toList :=
    .token (.blank rfl (.token (.blank rfl (.token (.token (.token (.token (.token (.token
      (.token .nil))))))))))
  have hb : Spaced e.bracketed "( A-(.5-(B*A)) )".toList :=
    .token (.blank rfl (.token (.token (.token (.token (.token (.token (.token (.token (.token
      (.token (.token (.blank rfl (.token .nil))))))))))))))
  have hc := compile_eq_postorder_of_spaced.2 e _ _ hl ho (.inl rfl) hm
  have hc' := compile_eq_postorder_of_spaced.2 e _ _ hl ho (.inr rfl) hb
  exact ⟨e, hl, ho, hm, hb, hc, hc'.trans hc.symm⟩

end VehiclePid.Formula
