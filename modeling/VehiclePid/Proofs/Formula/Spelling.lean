import VehiclePid.Proofs.Formula.Partial
import VehiclePid.Proofs.Formula.Reading

namespace VehiclePid.Formula

def Lexeme.text : Lexeme → List Char
  | letter i => [VehiclePid.letter i]
  | number ds => ds
  | operator op => [op.symbol]
  | leftParen => ['(']
  | rightParen => [')']
  | unknown c => [c]

/-- A text of tokens one after another, with blanks before, between and after them. -/
inductive Spaced : List Lexeme → List Char → Prop
  | nil : Spaced [] []
  | blank {c : Char} {xs : List Lexeme} {cs : List Char} (hc : Text.isAsciiBlank c = true)
      (h : Spaced xs cs) : Spaced xs (c :: cs)
  | token {x : Lexeme} {xs : List Lexeme} {cs : List Char} (h : Spaced xs cs) :
      Spaced (x :: xs) (x.text ++ cs)

theorem symbol_letter {i : Nat} (hi : i < 26) : Symbol (VehiclePid.letter i) (.letter i) := by
  have hn := toNat_letter i hi
  have hs : Symbol (VehiclePid.letter i) (.letter ((VehiclePid.letter i).toNat - 65)) :=
    .letter (capital_iff.mpr (by omega))
  rwa [hn, Nat.add_sub_cancel_left] at hs

/-- The tokens of a spaced text are read back. Two numbers never meet, since an operand is not
followed by another in a partial parse. -/
theorem Spaced.reads {xs : List Lexeme} {cs : List Char} (h : Spaced xs cs)
    (hl : ∀ i ∈ letters xs, i < 26) {p q : Partial} (hr : p.run xs = some q) :
    Reads cs xs ∧ (p.operand ≠ none → ∀ c ∈ cs.head?, isNumeral c = false) := by
  induction h generalizing p with
  | nil => exact ⟨.nil, by simp⟩
  | @blank c xs cs hc _ ih =>
    refine ⟨.blank hc (ih hl hr).1, ?_⟩
    rintro - d hd
    cases hd
    exact isNumeral_of_isAsciiBlank hc
  | @token x xs cs _ ih =>
    rw [Partial.run_cons] at hr
    obtain ⟨r, hs, hr⟩ := Option.bind_eq_some_iff.mp hr
    have hrest : ∀ i ∈ letters xs, i < 26 := fun i hi => hl i (by simp [hi])
    obtain ⟨hreads, hhead⟩ := ih hrest hr
    have single {c : Char} (hc : Symbol c x) : Reads (c :: cs) (x :: xs) ∧
        (p.operand ≠ none → ∀ d ∈ (c :: cs).head?, isNumeral d = false) := by
      refine ⟨.symbol hc hreads, ?_⟩
      rintro - d hd
      cases hd
      exact hc.not_isNumeral
    cases Partial.moves_of_step hs with
    | letter outer s i => exact single (symbol_letter (hl i (by simp)))
    | literal outer s n =>
      have hnext := hhead (Option.some_ne_none _)
      refine ⟨.number n.text_ne_nil (fun d => n.isNumeral_of_mem) hnext hreads, ?_⟩
      exact fun hn => absurd rfl hn
    | operator outer s f op => exact single (.operator op)
    | leftParen => exact single .leftParen
    | rightParen => exact single .rightParen

theorem toNat_of_isNumeral {c : Char} (h : isNumeral c = true) : 46 ≤ c.toNat ∧ c.toNat ≤ 57 := by
  simp only [isNumeral, Decimal.isDigit, Bool.or_eq_true, Bool.and_eq_true, decide_eq_true_eq,
    beq_iff_eq] at h
  obtain ⟨hl, hu⟩ | rfl := h
  · have hl : 48 ≤ c.toNat := UInt32.le_iff_toNat_le.mp hl
    exact ⟨by omega, UInt32.le_iff_toNat_le.mp hu⟩
  · decide

theorem Symbol.toNat_range {c : Char} {x : Lexeme} (h : Symbol c x) :
    33 ≤ c.toNat ∧ c.toNat ≤ 90 := by
  cases h with
  | letter h =>
    have hc := capital_iff.mp h
    omega
  | operator op => cases op <;> decide
  | leftParen | rightParen => decide

theorem isBlank_eq_false {c : Char} (h : 33 ≤ c.toNat) (h' : c.toNat ≤ 90) :
    Text.isBlank c = false := by
  simp only [Text.isBlank, Bool.or_eq_false_iff, Bool.and_eq_false_iff, decide_eq_false_iff_not,
    beq_eq_false_iff_ne]
  omega

theorem Reads.not_all_blank {cs : List Char} {xs : List Lexeme} (h : Reads cs xs) (hx : xs ≠ []) :
    cs.all Text.isBlank = false := by
  induction h with
  | nil => exact absurd rfl hx
  | blank _ _ ih => rw [List.all_cons, ih hx, Bool.and_false]
  | @number ds cs xs hn hd _ _ _ =>
    obtain ⟨d, hm⟩ := List.exists_mem_of_ne_nil ds hn
    have hb : Text.isBlank d = false := by
      have hr := toNat_of_isNumeral (hd d hm)
      exact isBlank_eq_false (by omega) (by omega)
    exact List.all_eq_false.mpr ⟨d, List.mem_append_left cs hm, by simp [hb]⟩
  | symbol hc _ _ =>
    have hr := hc.toNat_range
    rw [List.all_cons, isBlank_eq_false hr.1 hr.2, Bool.false_and]

inductive Side
  | left
  | right

def enclose (b : Bool) (xs : List Lexeme) : List Lexeme :=
  if b then .leftParen :: xs ++ [.rightParen] else xs

namespace Expr

def isInner : Expr → Bool
  | letter _ | literal _ => false
  | binary _ _ _ => true

/-- Binding strength, which is greatest for what no operator can split. -/
def strength : Expr → Nat
  | letter _ | literal _ => 3
  | binary op _ _ => op.precedence

/-- The tokens of an expression with parentheses around the children that `wrap` chooses. -/
def spell (wrap : Operator → Side → Expr → Bool) : Expr → List Lexeme
  | letter i => [.letter i]
  | literal n => [.number n.text]
  | binary op l r =>
    enclose (wrap op .left l) (l.spell wrap) ++
      .operator op :: enclose (wrap op .right r) (r.spell wrap)

/-- Whether a child binds too weakly for its operator. Operators associate to the left, so a right
child of equal strength does. -/
def isWeak (op : Operator) : Side → Expr → Bool
  | .left, e => e.strength < op.precedence
  | .right, e => e.strength ≤ op.precedence

def minimal (e : Expr) : List Lexeme := e.spell isWeak

def bracketed (e : Expr) : List Lexeme := enclose e.isInner (e.spell fun _ _ c => c.isInner)

end Expr

def Level.strength : Level → Nat
  | expr => 1
  | term => 2
  | factor => 3

def Tree.lift : (l : Level) → Tree .factor → Tree l
  | .expr, f => .ofTerm (.ofFactor f)
  | .term, f => .ofFactor f
  | .factor, f => f

@[simp] theorem Tree.yield_lift (l : Level) (f : Tree .factor) : (f.lift l).yield = f.yield := by
  cases l <;> rfl

@[simp] theorem Tree.toExpr_lift (l : Level) (f : Tree .factor) : (f.lift l).toExpr = f.toExpr := by
  cases l <;> rfl

/-- The tokens have a tree of the expression at each level that admits its strength. -/
def Parses (e : Expr) (xs : List Lexeme) (k : Nat) : Prop :=
  ∀ l : Level, l.strength ≤ k → ∃ t : Tree l, t.yield = xs ∧ t.toExpr = e

theorem Parses.enclose {e : Expr} {xs : List Lexeme} {k : Nat} (h : Parses e xs k) (hk : 1 ≤ k)
    {b : Bool} {m : Nat} (hm : b = false → m ≤ k) : Parses e (enclose b xs) m := by
  cases b with
  | false => exact fun l hl => h l (Nat.le_trans hl (hm rfl))
  | true =>
    intro l _
    obtain ⟨t, hy, he⟩ := h .expr hk
    refine ⟨(Tree.paren t).lift l, ?_, ?_⟩
    · simp [Tree.yield, hy, Formula.enclose]
    · simp [Tree.toExpr, he]

theorem one_le_precedence (op : Operator) : 1 ≤ op.precedence := by cases op <;> decide

theorem Expr.one_le_strength (e : Expr) : 1 ≤ e.strength := by
  cases e with
  | letter | literal => exact Nat.le_add_left 1 2
  | binary op l r => exact one_le_precedence op

theorem Parses.binary {op : Operator} {l r : Expr} {xs ys : List Lexeme}
    (hl : Parses l xs op.precedence) (hr : Parses r ys (op.precedence + 1)) :
    Parses (.binary op l r) (xs ++ .operator op :: ys) op.precedence := by
  intro level hlevel
  by_cases h : op = .add ∨ op = .sub
  · have hp : op.precedence = 1 := by obtain rfl | rfl := h <;> rfl
    rw [hp] at hl hr hlevel
    obtain ⟨t, hty, hte⟩ := hl .expr (Nat.le_refl 1)
    obtain ⟨u, huy, hue⟩ := hr .term (Nat.le_refl 2)
    cases level with
    | expr =>
      exact ⟨.sum t ⟨op, h⟩ u, by rw [Tree.yield, hty, huy], by rw [Tree.toExpr, hte, hue]⟩
    | term | factor => exact absurd hlevel (by decide)
  · have h : op = .mul ∨ op = .div := by cases op <;> simp_all
    have hp : op.precedence = 2 := by obtain rfl | rfl := h <;> rfl
    rw [hp] at hl hr hlevel
    obtain ⟨t, hty, hte⟩ := hl .term (Nat.le_refl 2)
    obtain ⟨u, huy, hue⟩ := hr .factor (Nat.le_refl 3)
    have hy : (Tree.product t ⟨op, h⟩ u).yield = xs ++ .operator op :: ys := by
      rw [Tree.yield, hty, huy]
    have he : (Tree.product t ⟨op, h⟩ u).toExpr = .binary op l r := by rw [Tree.toExpr, hte, hue]
    cases level with
    | expr => exact ⟨.ofTerm (.product t ⟨op, h⟩ u), hy, he⟩
    | term => exact ⟨.product t ⟨op, h⟩ u, hy, he⟩
    | factor => exact absurd hlevel (by decide)

/-- What is spelled with at least the parentheses that are needed parses to the expression. -/
theorem parses_spell {wrap : Operator → Side → Expr → Bool}
    (hw : ∀ op side c, Expr.isWeak op side c = true → wrap op side c = true) (e : Expr) :
    Parses e (e.spell wrap) e.strength := by
  induction e with
  | letter i => exact fun l _ => ⟨(Tree.letter i).lift l, Tree.yield_lift l _, Tree.toExpr_lift l _⟩
  | literal n =>
    exact fun l _ => ⟨(Tree.literal n).lift l, Tree.yield_lift l _, Tree.toExpr_lift l _⟩
  | binary op l r ihl ihr =>
    have strong {side : Side} {c : Expr} (h : wrap op side c = false) :
        Expr.isWeak op side c = false := by
      by_cases hc : Expr.isWeak op side c = true
      · exact absurd (hw op side c hc) (by simp [h])
      · simpa using hc
    refine .binary (ihl.enclose l.one_le_strength fun h => ?_)
      (ihr.enclose r.one_le_strength fun h => ?_)
    · simpa [Expr.isWeak] using strong h
    · simpa [Expr.isWeak, Nat.succ_le_iff] using strong h

end VehiclePid.Formula
