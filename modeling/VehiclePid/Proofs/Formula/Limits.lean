import VehiclePid.Proofs.Formula.Compilation

namespace VehiclePid.Formula

namespace Slot

theorem length_output (s : Slot) :
    s.output.length + s.operators.length = 2 * leaves s.yield := by
  obtain ⟨sum, product⟩ := s
  have post : ∀ {l : Level} (t : Tree l), t.toExpr.postorder.length + 1 = 2 * leaves t.yield :=
    fun t => by rw [t.leaves_yield, Expr.length_postorder]
  cases sum with
  | none =>
    cases product with
    | none => rfl
    | some q => simpa [output, operators, yield] using post q.1
  | some p =>
    have hp := post p.1
    cases product with
    | none => simpa [output, operators, yield] using hp
    | some q =>
      have hq := post q.1
      simp [output, operators, yield]
      omega

end Slot

namespace Partial

theorem length_outer_le (outer : List Slot) :
    (outer.reverse.flatMap Slot.output).length ≤
      2 * leaves (outer.reverse.flatMap fun s => s.yield ++ [.leftParen]) := by
  induction outer with
  | nil => simp
  | cons s outer ih =>
    have hs := s.length_output
    rw [List.reverse_cons, List.flatMap_append, List.flatMap_append, List.length_append,
      leaves_append]
    simp only [List.flatMap_singleton, leaves_append, leaves_cons, leaves_nil, Lexeme.isLeaf]
    simp only [Bool.false_eq_true, if_false]
    omega

/-- With a factor at its end a partial parse can release one level and still needs less space than
twice its leaves. -/
theorem length_output_add_lt {p : Partial} {f : Tree .factor} (hf : p.operand = some f) :
    p.output.length + p.inner.operators.length < 2 * leaves p.yield := by
  have ho := length_outer_le p.outer
  have hi := p.inner.length_output
  have hp := f.toExpr.length_postorder
  simp only [output, yield, hf, Option.elim, List.length_append, leaves_append, f.leaves_yield]
  omega

theorem length_output_le (p : Partial) : p.output.length ≤ 2 * leaves p.yield := by
  cases hf : p.operand with
  | some f =>
    have h := length_output_add_lt hf
    omega
  | none =>
    have ho := length_outer_le p.outer
    have hi := p.inner.length_output
    simp only [output, yield, hf, Option.elim, List.length_append, leaves_append, leaves_nil,
      List.length_nil]
    omega

end Partial

/-- The operators so far in each open parenthesis level, innermost first. -/
def levelStep (ls : List (List Operator)) (x : Lexeme) : List (List Operator) :=
  match x, ls with
  | .operator op, l :: ls => (l ++ [op]) :: ls
  | .leftParen, ls => [] :: ls
  | .rightParen, _ :: ls => ls
  | _, ls => ls

def levels (xs : List Lexeme) : List (List Operator) := xs.foldl levelStep [[]]

/-- The number of operators of a level that still wait for their right operands. -/
def deferred (ops : List Operator) : Nat :=
  match ops.getLast? with
  | none => 0
  | some .add | some .sub => 1
  | some .mul | some .div => if .add ∈ ops ∨ .sub ∈ ops then 2 else 1

/-- The open parentheses and the operators that wait in all open levels. -/
def backlog (xs : List Lexeme) : Nat :=
  (levels xs).tail.length + ((levels xs).map deferred).foldr (· + ·) 0

/-- Whether a sum and a product wait in a level with these operators. -/
def waiting (ops : List Operator) : Bool × Bool :=
  (ops.any fun op => op == .add || op == .sub,
    ops.getLast?.any fun op => op == .mul || op == .div)

def Slot.waiting (s : Slot) : Bool × Bool := (s.sum.isSome, s.product.isSome)

theorem waiting_extend {ops : List Operator} {s : Slot} (h : waiting ops = s.waiting)
    (f : Tree .factor) (op : Operator) : waiting (ops ++ [op]) = (s.extend f op).waiting := by
  have hs : (ops.any fun op => op == .add || op == .sub) = s.sum.isSome := congrArg Prod.fst h
  cases op <;> simp [waiting, Slot.waiting, Slot.extend, hs]

theorem Slot.length_operators (s : Slot) :
    s.operators.length = s.waiting.1.toNat + s.waiting.2.toNat := by
  unfold Slot.operators Slot.waiting
  cases s.sum <;> cases s.product <;> rfl

theorem deferred_eq (ops : List Operator) :
    deferred ops = (waiting ops).1.toNat + (waiting ops).2.toNat := by
  have ha : (waiting ops).1 = decide (.add ∈ ops ∨ .sub ∈ ops) := by
    rw [Bool.eq_iff_iff]
    simp only [waiting, List.any_eq_true, Bool.or_eq_true, beq_iff_eq, decide_eq_true_eq]
    constructor
    · rintro ⟨op, hm, rfl | rfl⟩
      · exact .inl hm
      · exact .inr hm
    · rintro (hm | hm)
      · exact ⟨_, hm, .inl rfl⟩
      · exact ⟨_, hm, .inr rfl⟩
  have hp : (waiting ops).2 = ops.getLast?.any fun op => op == .mul || op == .div := rfl
  rw [ha, hp, deferred]
  cases ho : ops.getLast? with
  | none => simp [List.getLast?_eq_none_iff.mp ho]
  | some op =>
    have hm := List.mem_of_getLast? ho
    cases op with
    | add | sub => simp [hm]
    | mul | div =>
      by_cases h : Operator.add ∈ ops ∨ Operator.sub ∈ ops <;> simp [h]

theorem levels_step {ls : List (List Operator)} {p q : Partial} {x : Lexeme}
    (hl : ls.map waiting = (p.inner :: p.outer).map Slot.waiting) (h : p.step x = some q) :
    (levelStep ls x).map waiting = (q.inner :: q.outer).map Slot.waiting := by
  obtain ⟨l, ls, rfl⟩ : ∃ l r, ls = l :: r := by
    cases ls with
    | nil => cases hl
    | cons l ls => exact ⟨l, ls, rfl⟩
  obtain ⟨hw, ho⟩ := List.cons.inj hl
  cases Partial.moves_of_step h with
  | letter | literal => exact hl
  | operator outer s f op =>
    rw [levelStep, List.map_cons, waiting_extend hw f op, ho]
    rfl
  | leftParen outer s =>
    rw [levelStep, List.map_cons, hl]
    rfl
  | rightParen outer s inner f => exact ho

theorem levels_run {ls : List (List Operator)} {p q : Partial} {xs : List Lexeme}
    (hl : ls.map waiting = (p.inner :: p.outer).map Slot.waiting) (h : p.run xs = some q) :
    (xs.foldl levelStep ls).map waiting = (q.inner :: q.outer).map Slot.waiting := by
  induction xs generalizing ls p with
  | nil =>
    cases h
    exact hl
  | cons x xs ih =>
    rw [Partial.run_cons] at h
    obtain ⟨r, hr, h⟩ := Option.bind_eq_some_iff.mp h
    exact ih (levels_step hl hr) h

theorem length_enclosing {ls : List (List Operator)} {outer : List Slot}
    (h : ls.map waiting = outer.map Slot.waiting) :
    (outer.reverse.flatMap fun s => s.operators.map Pending.operator ++ [.leftParen]).length =
      ls.length + (ls.map deferred).foldr (· + ·) 0 := by
  induction outer generalizing ls with
  | nil =>
    rw [List.map_nil, List.map_eq_nil_iff] at h
    simp [h]
  | cons s outer ih =>
    obtain ⟨l, ls, rfl, hl, hls⟩ := List.map_eq_cons_iff.mp h
    have hd : deferred l = s.operators.length := by
      rw [deferred_eq, hl, s.length_operators]
    have hi := ih hls
    rw [List.reverse_cons, List.flatMap_append, List.length_append, hi]
    simp only [List.flatMap_singleton, List.length_append, List.length_map, List.length_nil,
      List.length_cons, List.map_cons, List.foldr_cons, hd]
    omega

theorem length_pending {xs : List Lexeme} {p : Partial} (h : Partial.start.run xs = some p) :
    p.pending.length = backlog xs := by
  have hw : (levels xs).map waiting = (p.inner :: p.outer).map Slot.waiting := levels_run rfl h
  obtain ⟨l, ls, hx, hl, hls⟩ := List.map_eq_cons_iff.mp hw
  have ho := length_enclosing hls
  have hd : deferred l = p.inner.operators.length := by
    rw [deferred_eq, hl, p.inner.length_operators]
  rw [backlog, hx]
  simp only [Partial.pending, Partial.enclosing, List.length_append, ho, List.length_map,
    List.tail_cons, List.map_cons, List.foldr_cons, hd]
  omega

/-- The tokens that are put on the pending stack. -/
@[simp] def Lexeme.opens : Lexeme → Bool
  | .leftParen | .operator _ => true
  | _ => false

/-- The tokens up to some point have too many leaves, or the last one finds too many others that
wait. -/
def Exceeds (xs : List Lexeme) : Prop :=
  16 < leaves xs ∨ ∃ ys x, xs = ys ++ [x] ∧ x.opens = true ∧ 32 < backlog xs

def openings (xs : List Lexeme) : Nat := xs.countP Lexeme.opens

@[simp] theorem openings_nil : openings [] = 0 := rfl

@[simp] theorem openings_append (xs ys : List Lexeme) :
    openings (xs ++ ys) = openings xs + openings ys := List.countP_append

@[simp] theorem openings_cons (x : Lexeme) (xs : List Lexeme) :
    openings (x :: xs) = openings xs + if x.opens then 1 else 0 := List.countP_cons

theorem Slot.length_operators_extend (s : Slot) (f : Tree .factor) (op : Operator) :
    (s.extend f op).operators.length ≤ s.operators.length + 1 := by
  obtain ⟨kept, released, hs, -, -, he, -⟩ := s.extend_eq f op
  rw [he, hs, List.length_append, List.length_append, List.length_singleton]
  omega

namespace Partial

theorem length_pending_step {p q : Partial} {x : Lexeme} (h : p.step x = some q) :
    q.pending.length ≤ p.pending.length + openings [x] := by
  cases moves_of_step h with
  | letter | literal => exact Nat.le_refl _
  | operator outer s f op =>
    have hs := s.length_operators_extend f op
    simp only [pending, enclosing, List.length_append, List.length_map, openings_cons,
      openings_nil, Lexeme.opens, if_true]
    omega
  | leftParen outer s =>
    have hnew : Slot.empty.operators = [] := rfl
    simp [pending, enclosing, hnew, Nat.add_assoc]
  | rightParen =>
    simp only [pending, enclosing, List.reverse_cons, List.flatMap_append,
      List.flatMap_singleton, List.length_append]
    omega

theorem length_pending_run {p q : Partial} {xs : List Lexeme} (h : p.run xs = some q) :
    q.pending.length ≤ p.pending.length + openings xs := by
  induction xs generalizing p with
  | nil =>
    cases h
    exact Nat.le_refl _
  | cons x xs ih =>
    rw [run_cons] at h
    obtain ⟨r, hr, h⟩ := Option.bind_eq_some_iff.mp h
    have hs := length_pending_step hr
    have hx := ih h
    simp only [openings_cons, openings_nil] at hs ⊢
    omega

end Partial

theorem backlog_le_openings {t : Tree .expr} {ys zs : List Lexeme} (h : t.yield = ys ++ zs) :
    backlog ys ≤ openings t.yield := by
  obtain ⟨s, f, hr, -⟩ := Tree.yield_eq_iff.mp h
  rw [Partial.run_append] at hr
  obtain ⟨p, hp, -⟩ := Option.bind_eq_some_iff.mp hr
  calc backlog ys = p.pending.length := (length_pending hp).symm
    _ ≤ Partial.start.pending.length + openings ys := Partial.length_pending_run hp
    _ = openings ys := Nat.zero_add _
    _ ≤ openings t.yield := by
      rw [h, openings_append]
      exact Nat.le_add_right _ _

namespace Follows

variable {xs : List Lexeme} {p : Partial} {s : Scan}

theorem yield_eq (h : Follows xs p s) : p.yield = xs := Partial.yield_run h.run_eq

theorem backlog_le (h : Follows xs p s) : backlog xs ≤ 32 := by
  have hf := s.contents_fits.2
  rw [h.contents_eq] at hf
  rwa [← length_pending h.run_eq]

theorem exceeds_of_full (h : Follows xs p s) {x : Lexeme} {q : Partial} (hq : p.step x = some q)
    {n : Nat} (hf : ¬(q.contents n).Fits) : Exceeds (xs ++ [x]) := by
  have hy : q.yield = xs ++ [x] := by rw [Partial.yield_step hq, h.yield_eq]
  have hr : Partial.start.run (xs ++ [x]) = some q := by
    rw [Partial.run_append, h.run_eq, Option.bind_some, Partial.run_singleton, hq]
  have ho := q.length_output_le
  rw [hy] at ho
  by_cases hl : 16 < leaves (xs ++ [x])
  · exact .inl hl
  · have ho : q.output.length ≤ 32 := by omega
    have hp : 32 < q.pending.length := Nat.lt_of_not_le fun hp => hf ⟨ho, hp⟩
    refine .inr ⟨xs, x, rfl, ?_, by rwa [← length_pending hr]⟩
    by_cases hx : x.opens = true
    · exact hx
    · have hle := Partial.length_pending_step hq
      rw [openings_cons, if_neg hx, openings_nil] at hle
      have hb := h.backlog_le
      rw [← length_pending h.run_eq] at hb
      omega

theorem exceeds_of_close (h : Follows xs p s) (ho : p.outer = []) {f : Tree .factor}
    (hp : p.operand = some f) (hf : 32 < (p.inner.close f).toExpr.postorder.length) :
    Exceeds xs := by
  have hl := (p.inner.close f).toExpr.length_postorder
  rw [← Tree.leaves_yield, h.yield_close ho hp] at hl
  exact .inl (by omega)

theorem exceeds_of_release (h : Follows xs p s) {f : Tree .factor} (hp : p.operand = some f)
    (hf : 32 < p.output.length + p.inner.operators.length) : Exceeds xs := by
  have hl := Partial.length_output_add_lt hp
  rw [h.yield_eq] at hl
  exact .inl (by omega)

end Follows

end VehiclePid.Formula
