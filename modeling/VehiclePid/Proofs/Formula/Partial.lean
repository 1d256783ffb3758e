import VehiclePid.Proofs.Formula.Grammar

namespace VehiclePid.Formula

/-- What waits in one parenthesis level: a sum with its operator, then a product with its. -/
structure Slot where
  sum : Option (Tree .expr × Additive)
  product : Option (Tree .term × Multiplicative)

namespace Slot

def empty : Slot := ⟨none, none⟩

def term (s : Slot) (f : Tree .factor) : Tree .term :=
  match s.product with
  | some (t, op) => .product t op f
  | none => .ofFactor f

def close (s : Slot) (f : Tree .factor) : Tree .expr :=
  match s.sum with
  | some (e, op) => .sum e op (s.term f)
  | none => .ofTerm (s.term f)

/-- An operator after a factor: what binds no weaker than it is complete. -/
def extend (s : Slot) (f : Tree .factor) (op : Operator) : Slot :=
  if h : op = .add ∨ op = .sub then ⟨some (s.close f, ⟨op, h⟩), none⟩
  else ⟨s.sum, some (s.term f, ⟨op, by cases op <;> simp_all⟩)⟩

def yield (s : Slot) : List Lexeme :=
  (s.sum.elim [] fun p => p.1.yield ++ [.operator p.2]) ++
    s.product.elim [] fun p => p.1.yield ++ [.operator p.2]

def operators (s : Slot) : List Operator :=
  s.sum.toList.map (·.2.val) ++ s.product.toList.map (·.2.val)

def output (s : Slot) : List Token :=
  (s.sum.elim [] fun p => p.1.toExpr.postorder) ++ s.product.elim [] fun p => p.1.toExpr.postorder

theorem yield_term (s : Slot) (f : Tree .factor) :
    (s.term f).yield =
      (s.product.elim [] fun p => p.1.yield ++ [.operator p.2]) ++ f.yield := by
  unfold term
  cases s.product with
  | none => rfl
  | some p => simp [Tree.yield]

theorem yield_close (s : Slot) (f : Tree .factor) : (s.close f).yield = s.yield ++ f.yield := by
  unfold close yield
  cases s.sum with
  | none => simp [Tree.yield, yield_term]
  | some p => simp [Tree.yield, yield_term]

theorem yield_extend (s : Slot) (f : Tree .factor) (op : Operator) :
    (s.extend f op).yield = s.yield ++ f.yield ++ [.operator op] := by
  unfold extend
  split
  · rw [← yield_close]
    simp [yield]
  · simp [yield, yield_term]

end Slot

/-- A parse of the tokens so far: the enclosing parenthesis levels from the innermost to the
outermost, the current one, and its last factor unless an operator or a parenthesis follows it. -/
structure Partial where
  outer : List Slot
  inner : Slot
  operand : Option (Tree .factor)

namespace Partial

def start : Partial := ⟨[], .empty, none⟩

def yield (p : Partial) : List Lexeme :=
  (p.outer.reverse.flatMap fun s => s.yield ++ [.leftParen]) ++ p.inner.yield ++
    p.operand.elim [] Tree.yield

def step (p : Partial) (x : Lexeme) : Option Partial :=
  match x, p.operand with
  | .letter i, none => some { p with operand := some (.letter i) }
  | .number ds, none =>
    (Numeral.ofText? ds).map fun n => { p with operand := some (.literal n) }
  | .leftParen, none => some ⟨p.inner :: p.outer, .empty, none⟩
  | .operator op, some f => some { p with inner := p.inner.extend f op, operand := none }
  | .rightParen, some f =>
    match p.outer with
    | s :: outer => some ⟨outer, s, some (.paren (p.inner.close f))⟩
    | [] => none
  | _, _ => none

def run (p : Partial) (xs : List Lexeme) : Option Partial := xs.foldlM step p

theorem run_append (p : Partial) (xs ys : List Lexeme) :
    p.run (xs ++ ys) = (p.run xs).bind fun q => q.run ys := List.foldlM_append

theorem run_cons (p : Partial) (x : Lexeme) (xs : List Lexeme) :
    p.run (x :: xs) = (p.step x).bind fun q => q.run xs := List.foldlM_cons

theorem run_singleton (p : Partial) (x : Lexeme) : p.run [x] = p.step x := by
  rw [run_cons]
  exact Option.bind_fun_some _

@[simp] theorem step_operator (outer : List Slot) (s : Slot) (f : Tree .factor) (op : Operator) :
    step ⟨outer, s, some f⟩ (.operator op) = some ⟨outer, s.extend f op, none⟩ := rfl

@[simp] theorem step_leftParen (outer : List Slot) (s : Slot) :
    step ⟨outer, s, none⟩ .leftParen = some ⟨s :: outer, .empty, none⟩ := rfl

@[simp] theorem step_rightParen (s : Slot) (outer : List Slot) (inner : Slot) (f : Tree .factor) :
    step ⟨s :: outer, inner, some f⟩ .rightParen =
      some ⟨outer, s, some (.paren (inner.close f))⟩ := rfl

@[simp] theorem step_numeral (outer : List Slot) (s : Slot) (n : Numeral) :
    step ⟨outer, s, none⟩ (.number n.text) = some ⟨outer, s, some (.literal n)⟩ := by
  simp [step, Numeral.ofText?_text]

@[simp] theorem yield_start : start.yield = [] := rfl

inductive Moves : Partial → Lexeme → Partial → Prop
  | letter (outer : List Slot) (s : Slot) (i : Nat) :
    Moves ⟨outer, s, none⟩ (.letter i) ⟨outer, s, some (.letter i)⟩
  | literal (outer : List Slot) (s : Slot) (n : Numeral) :
    Moves ⟨outer, s, none⟩ (.number n.text) ⟨outer, s, some (.literal n)⟩
  | operator (outer : List Slot) (s : Slot) (f : Tree .factor) (op : Operator) :
    Moves ⟨outer, s, some f⟩ (.operator op) ⟨outer, s.extend f op, none⟩
  | leftParen (outer : List Slot) (s : Slot) :
    Moves ⟨outer, s, none⟩ .leftParen ⟨s :: outer, .empty, none⟩
  | rightParen (outer : List Slot) (s inner : Slot) (f : Tree .factor) :
    Moves ⟨s :: outer, inner, some f⟩ .rightParen ⟨outer, s, some (.paren (inner.close f))⟩

theorem moves_of_step {p q : Partial} {x : Lexeme} (h : p.step x = some q) : Moves p x q := by
  obtain ⟨outer, inner, operand⟩ := p
  cases operand with
  | none =>
    cases x with
    | letter i => cases h; exact .letter outer inner i
    | number ds =>
      obtain ⟨n, hn, rfl⟩ := Option.map_eq_some_iff.mp h
      obtain rfl := Numeral.text_of_ofText? hn
      exact .literal outer inner n
    | leftParen => cases h; exact .leftParen outer inner
    | _ => cases h
  | some f =>
    cases x with
    | operator op => cases h; exact .operator outer inner f op
    | rightParen =>
      cases outer with
      | nil => cases h
      | cons s outer => cases h; exact .rightParen outer s inner f
    | _ => cases h

theorem yield_step {p q : Partial} {x : Lexeme} (h : p.step x = some q) :
    q.yield = p.yield ++ [x] := by
  cases moves_of_step h with
  | letter | literal => simp [yield, Tree.yield]
  | leftParen => simp [yield, Slot.yield, Slot.empty]
  | operator => simp [yield, Slot.yield_extend]
  | rightParen => simp [yield, Tree.yield, Slot.yield_close]

theorem yield_run {p q : Partial} {xs : List Lexeme} (h : p.run xs = some q) :
    q.yield = p.yield ++ xs := by
  induction xs generalizing p with
  | nil => cases h; simp
  | cons x xs ih =>
    rw [run_cons] at h
    obtain ⟨r, hr, hq⟩ := Option.bind_eq_some_iff.mp h
    rw [ih hq, yield_step hr, List.append_assoc, List.singleton_append]

/-- What a run over the yield of a tree does, level by level. -/
def Consumes : {l : Level} → Tree l → Prop
  | .expr, e => ∀ outer, ∃ s f,
      run ⟨outer, .empty, none⟩ e.yield = some ⟨outer, s, some f⟩ ∧ s.close f = e
  | .term, t => ∀ outer sum, ∃ s f,
      run ⟨outer, ⟨sum, none⟩, none⟩ t.yield = some ⟨outer, s, some f⟩ ∧
        s.sum = sum ∧ s.term f = t
  | .factor, f => ∀ outer s, run ⟨outer, s, none⟩ f.yield = some ⟨outer, s, some f⟩

theorem consumes {l : Level} (t : Tree l) : Consumes t := by
  induction t with
  | sum e op t ihe iht =>
    intro outer
    obtain ⟨s, f, hs, he⟩ := ihe outer
    obtain ⟨u, g, hu, hsum, ht⟩ := iht outer (some (e, op))
    refine ⟨u, g, ?_, by simp [Slot.close, hsum, ht]⟩
    have hx : s.extend f op = ⟨some (e, op), none⟩ := by simp [Slot.extend, op.property, he]
    rw [Tree.yield, run_append, hs, Option.bind_some, run_cons, step_operator, hx]
    exact hu
  | ofTerm t ih =>
    intro outer
    obtain ⟨s, f, hs, hsum, ht⟩ := ih outer none
    exact ⟨s, f, hs, by simp [Slot.close, hsum, ht]⟩
  | product t op g iht ihg =>
    intro outer sum
    obtain ⟨s, f, hs, hsum, ht⟩ := iht outer sum
    refine ⟨⟨sum, some (t, op)⟩, g, ?_, rfl, rfl⟩
    have hop : ¬(op.val = .add ∨ op.val = .sub) := by
      obtain h | h := op.property <;> simp [h]
    have hx : s.extend f op = ⟨sum, some (t, op)⟩ := by simp [Slot.extend, hop, hsum, ht]
    rw [Tree.yield, run_append, hs, Option.bind_some, run_cons, step_operator, hx]
    exact ihg outer _
  | ofFactor f ih =>
    intro outer sum
    exact ⟨_, f, ih outer ⟨sum, none⟩, rfl, rfl⟩
  | letter i =>
    intro outer s
    rfl
  | literal n =>
    intro outer s
    rw [Tree.yield, run_singleton, step_numeral]
  | paren e ih =>
    intro outer s
    obtain ⟨u, f, hu, he⟩ := ih (s :: outer)
    rw [Tree.yield, List.cons_append, run_cons, step_leftParen, Option.bind_some, run_append, hu,
      Option.bind_some, run_singleton, step_rightParen, he]

end Partial

/-- A sentence is what the partial parse of its tokens closes to. -/
theorem Tree.yield_eq_iff {xs : List Lexeme} {t : Tree .expr} :
    t.yield = xs ↔ ∃ s f, Partial.start.run xs = some ⟨[], s, some f⟩ ∧ s.close f = t := by
  constructor
  · rintro rfl
    exact Partial.consumes t []
  · rintro ⟨s, f, hr, rfl⟩
    have h := Partial.yield_run hr
    rw [Partial.yield_start, List.nil_append] at h
    rw [Slot.yield_close, ← h]
    rfl

theorem Tree.yield_injective {t u : Tree .expr} (h : t.yield = u.yield) : t = u := by
  obtain ⟨s, f, hr, rfl⟩ := Tree.yield_eq_iff.mp h
  obtain ⟨s', f', hr', rfl⟩ := Tree.yield_eq_iff.mp (rfl : u.yield = u.yield)
  rw [hr] at hr'
  cases hr'
  rfl

end VehiclePid.Formula
