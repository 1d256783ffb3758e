import VehiclePid.Proofs.Formula.Compilation

namespace VehiclePid.Formula

/-- Some formula begins with the text. -/
def Extensible (cs : List Char) : Prop := ∃ ds, IsFormula (cs ++ ds)

theorem IsFormula.extensible {cs ds : List Char} (h : IsFormula (cs ++ ds)) : Extensible cs :=
  ⟨ds, h⟩

theorem exists_tree_of_operand (outer : List Slot) (inner : Slot) (f : Tree .factor) :
    ∃ t : Tree .expr, t.yield =
      (⟨outer, inner, some f⟩ : Partial).yield ++ List.replicate outer.length .rightParen := by
  induction outer generalizing inner f with
  | nil => exact ⟨inner.close f, by simp [Partial.yield, Slot.yield_close]⟩
  | cons s outer ih =>
    obtain ⟨t, ht⟩ := ih s (.paren (inner.close f))
    have hs := Partial.yield_step (Partial.step_rightParen s outer inner f)
    refine ⟨t, ?_⟩
    rw [ht, hs, List.append_assoc, List.singleton_append, List.length_cons, List.replicate_succ]

theorem reads_closing (k : Nat) : Reads (List.replicate k ')') (List.replicate k .rightParen) := by
  induction k with
  | zero => exact .nil
  | succ k ih => exact .symbol .rightParen ih

theorem letters_closing (k : Nat) : letters (List.replicate k .rightParen) = [] := by
  induction k with
  | zero => rfl
  | succ k ih => simpa [List.replicate_succ] using ih

theorem InOrder.concat_zero {is : List Nat} (h : InOrder is) : InOrder (is ++ [0]) := by
  refine inOrder_concat.mpr ⟨h, ?_⟩
  cases is with
  | nil => exact .inr (by simp)
  | cons i is =>
    obtain hm | hm := h [] i is rfl
    · cases hm
    · have hi : i = 0 := Nat.le_zero.mp (Nat.le_of_not_lt fun hi => by simpa using (hm 0).mpr hi)
      exact .inl (by simp [hi])

section

variable {cs : List Char} {xs : List Lexeme} {p : Partial}

theorem isFormula_of_operand (hr : Reads cs xs) (hp : Partial.start.run xs = some p)
    (ho : InOrder (letters xs)) (hf : p.operand.isSome = true) :
    IsFormula (cs ++ List.replicate p.outer.length ')') := by
  obtain ⟨outer, inner, operand⟩ := p
  obtain ⟨f, rfl⟩ := Option.isSome_iff_exists.mp hf
  obtain ⟨t, ht⟩ := exists_tree_of_operand outer inner f
  rw [Partial.yield_run hp, Partial.yield_start, List.nil_append] at ht
  refine ⟨t, ?_, ?_⟩
  · rw [ht]
    refine hr.append (reads_closing _) ?_
    intro c hc
    cases outer with
    | nil => cases hc
    | cons s outer =>
      cases hc
      rfl
  · rw [ht, letters_append, letters_closing, List.append_nil]
    exact ho

theorem isFormula_of_no_operand (hr : Reads cs xs) (hp : Partial.start.run xs = some p)
    (ho : InOrder (letters xs)) (hn : p.operand = none) :
    IsFormula (cs ++ 'A' :: List.replicate p.outer.length ')') := by
  obtain ⟨outer, inner, operand⟩ := p
  subst hn
  have ha : Reads (cs ++ ['A']) (xs ++ [.letter 0]) :=
    hr.append (.symbol (.letter (by decide)) .nil) (by simp; decide)
  have hq : Partial.start.run (xs ++ [.letter 0]) = some ⟨outer, inner, some (.letter 0)⟩ := by
    rw [Partial.run_append, hp]
    rfl
  have hl : InOrder (letters (xs ++ [.letter 0])) := by simpa using ho.concat_zero
  simpa using isFormula_of_operand ha hq hl rfl

theorem extensible_of_run (hr : Reads cs xs) (hp : Partial.start.run xs = some p)
    (ho : InOrder (letters xs)) : Extensible cs := by
  cases hf : p.operand with
  | none => exact (isFormula_of_no_operand hr hp ho hf).extensible
  | some f => exact (isFormula_of_operand hr hp ho (by simp [hf])).extensible

theorem not_unknown_mem_of_run (hp : Partial.start.run xs = some p) (c : Char) :
    .unknown c ∉ xs := by
  intro hm
  obtain ⟨ys, zs, rfl⟩ := List.append_of_mem hm
  rw [Partial.run_append] at hp
  obtain ⟨q, -, hq⟩ := Option.bind_eq_some_iff.mp hp
  rw [Partial.run_cons] at hq
  obtain ⟨r, hr, -⟩ := Option.bind_eq_some_iff.mp hq
  cases Partial.moves_of_step hr

theorem run_of_isFormula (hr : Reads cs xs) (h : IsFormula cs) :
    ∃ s f, Partial.start.run xs = some ⟨[], s, some f⟩ := by
  obtain ⟨t, ht, -⟩ := h
  obtain ⟨s, f, hs, -⟩ := Tree.yield_eq_iff.mp (ht.unique hr)
  exact ⟨s, f, hs⟩

end

theorem not_extensible_of_step {p w r : List Char} {x : Lexeme} (hw : WordAt p w r x)
    {q : Partial} (hq : Partial.start.run ((lexemes 0 p).map Placed.lexeme) = some q)
    (hn : ∀ y, x.Alike y → q.step y = none) : ¬Extensible (p ++ w) := by
  rintro ⟨ds, t, hr, -⟩
  rw [List.append_assoc] at hr
  obtain ⟨y, zs, hl, hy⟩ := lexemes_word hw.word (0 + byteLength p) ds
  have hx := hr.lexemes_eq 0
  rw [lexemes_append (hw.cut ds), hl, List.map_append, List.map_cons] at hx
  obtain ⟨s, f, hs, -⟩ := Tree.yield_eq_iff.mp hx.symm
  rw [Partial.run_append, hq, Option.bind_some, Partial.run_cons, hn y hy] at hs
  cases hs

end VehiclePid.Formula
