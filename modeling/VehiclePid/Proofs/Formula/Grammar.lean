import VehiclePid.Formula.Evaluate
import VehiclePid.Formula.Lexeme

namespace VehiclePid.Formula

structure Numeral where
  text : List Char
  value : Binary .double
  reads : Decimal.literal? text = some value

namespace Numeral

def ofText? (text : List Char) : Option Numeral :=
  match h : Decimal.literal? text with
  | some value => some ⟨text, value, h⟩
  | none => none

theorem ofText?_text (n : Numeral) : ofText? n.text = some n := by
  obtain ⟨text, value, h⟩ := n
  unfold ofText?
  split
  · rename_i v hv
    rw [h] at hv
    cases hv
    rfl
  · rename_i hv
    rw [h] at hv
    cases hv

theorem text_of_ofText? {text : List Char} {n : Numeral} (h : ofText? text = some n) :
    n.text = text := by
  unfold ofText? at h
  split at h
  · cases h
    rfl
  · cases h

theorem ofText?_eq_none_iff {text : List Char} :
    ofText? text = none ↔ (Decimal.literal? text : Option (Binary .double)) = none := by
  unfold ofText?
  split
  · rename_i v hv
    simp [hv]
  · rename_i hv
    simp [hv]

end Numeral

inductive Expr
  | letter (index : Nat)
  | literal (n : Numeral)
  | binary (op : Operator) (left right : Expr)

namespace Expr

def postorder : Expr → List Token
  | letter i => [.operand i]
  | literal n => [.literal n.value]
  | binary op l r => l.postorder ++ r.postorder ++ [.operator op]

/-- The value on payload bytes, which is missing when a letter has no byte. -/
def value? (raw : List UInt8) : Expr → Option (Binary .double)
  | letter i => raw[i]?.map fun b => .ofNat b.toNat
  | literal n => some n.value
  | binary op l r => do return op.apply (← l.value? raw) (← r.value? raw)

def leaves : Expr → Nat
  | letter _ | literal _ => 1
  | binary _ l r => l.leaves + r.leaves

def letters : Expr → List Nat
  | letter i => [i]
  | literal _ => []
  | binary _ l r => l.letters ++ r.letters

theorem leaves_pos (e : Expr) : 0 < e.leaves := by
  induction e with
  | letter | literal => exact Nat.one_pos
  | binary op l r ihl ihr => exact Nat.add_pos_left ihl _

theorem length_postorder (e : Expr) : e.postorder.length + 1 = 2 * e.leaves := by
  induction e with
  | letter | literal => rfl
  | binary op l r ihl ihr =>
    simp only [postorder, leaves, List.length_append, List.length_singleton]
    omega

theorem operand_mem_postorder (e : Expr) (i : Nat) :
    Token.operand i ∈ e.postorder ↔ i ∈ e.letters := by
  induction e with
  | letter | literal => simp [postorder, letters]
  | binary op l r ihl ihr => simp [postorder, letters, ihl, ihr]

theorem exists_value {raw : List UInt8} (e : Expr) (h : ∀ i ∈ e.letters, i < raw.length) :
    ∃ v, e.value? raw = some v := by
  induction e with
  | letter i =>
    have hi : i < raw.length := h i (by simp [letters])
    exact ⟨.ofNat raw[i].toNat, by simp [value?, hi]⟩
  | literal n => exact ⟨n.value, rfl⟩
  | binary op l r ihl ihr =>
    obtain ⟨x, hx⟩ := ihl fun i hi => h i (by simp [letters, hi])
    obtain ⟨y, hy⟩ := ihr fun i hi => h i (by simp [letters, hi])
    exact ⟨op.apply x y, by simp [value?, hx, hy]⟩

theorem value?_congr {raw raw' : List UInt8} (e : Expr)
    (h : ∀ i ∈ e.letters, raw[i]? = raw'[i]?) : e.value? raw = e.value? raw' := by
  induction e with
  | letter i => rw [value?, value?, h i (by simp [letters])]
  | literal n => rfl
  | binary op l r ihl ihr =>
    rw [value?, value?, ihl fun i hi => h i (by simp [letters, hi]),
      ihr fun i hi => h i (by simp [letters, hi])]

end Expr

inductive Level
  | expr
  | term
  | factor

abbrev Additive := { op : Operator // op = .add ∨ op = .sub }

abbrev Multiplicative := { op : Operator // op = .mul ∨ op = .div }

/-- The parse trees of a level. A chain of operators of one level leans to the left. -/
inductive Tree : Level → Type
  | sum (left : Tree .expr) (op : Additive) (right : Tree .term) : Tree .expr
  | ofTerm (t : Tree .term) : Tree .expr
  | product (left : Tree .term) (op : Multiplicative) (right : Tree .factor) : Tree .term
  | ofFactor (f : Tree .factor) : Tree .term
  | letter (index : Nat) : Tree .factor
  | literal (n : Numeral) : Tree .factor
  | paren (e : Tree .expr) : Tree .factor

namespace Tree

def yield : {l : Level} → Tree l → List Lexeme
  | _, sum e op t => e.yield ++ .operator op :: t.yield
  | _, ofTerm t => t.yield
  | _, product t op f => t.yield ++ .operator op :: f.yield
  | _, ofFactor f => f.yield
  | _, letter i => [.letter i]
  | _, literal n => [.number n.text]
  | _, paren e => .leftParen :: e.yield ++ [.rightParen]

def toExpr : {l : Level} → Tree l → Expr
  | _, sum e op t => .binary op e.toExpr t.toExpr
  | _, ofTerm t => t.toExpr
  | _, product t op f => .binary op t.toExpr f.toExpr
  | _, ofFactor f => f.toExpr
  | _, letter i => .letter i
  | _, literal n => .literal n
  | _, paren e => e.toExpr

end Tree

/-- Equal, or both numbers. -/
def Lexeme.Alike (x y : Lexeme) : Prop := y = x ∨ ∃ ds es, x = .number ds ∧ y = .number es

theorem Lexeme.Alike.eq_of_ne {x y : Lexeme} (h : x.Alike y) (hx : ∀ ds, x ≠ .number ds) :
    y = x := by
  obtain rfl | ⟨ds, -, hd, -⟩ := h
  · rfl
  · exact absurd hd (hx ds)

@[simp] def Lexeme.letter? : Lexeme → Option Nat
  | .letter i => some i
  | _ => none

@[simp] def Lexeme.isLeaf : Lexeme → Bool
  | .letter _ | .number _ => true
  | _ => false

def letters (xs : List Lexeme) : List Nat := xs.filterMap Lexeme.letter?

def leaves (xs : List Lexeme) : Nat := xs.countP Lexeme.isLeaf

@[simp] theorem letters_nil : letters [] = [] := rfl

@[simp] theorem letters_append (xs ys : List Lexeme) :
    letters (xs ++ ys) = letters xs ++ letters ys := List.filterMap_append

@[simp] theorem letters_cons (x : Lexeme) (xs : List Lexeme) :
    letters (x :: xs) = x.letter?.toList ++ letters xs := by
  cases x <;> rfl

@[simp] theorem leaves_nil : leaves [] = 0 := rfl

@[simp] theorem leaves_append (xs ys : List Lexeme) :
    leaves (xs ++ ys) = leaves xs + leaves ys := List.countP_append

@[simp] theorem leaves_cons (x : Lexeme) (xs : List Lexeme) :
    leaves (x :: xs) = leaves xs + if x.isLeaf then 1 else 0 := List.countP_cons

theorem Tree.letters_yield {l : Level} (t : Tree l) : letters t.yield = t.toExpr.letters := by
  induction t with
  | sum e op t ihe iht | product e op t ihe iht => simp [yield, toExpr, Expr.letters, ihe, iht]
  | ofTerm t ih | ofFactor t ih => exact ih
  | letter i | literal n => rfl
  | paren e ih => simp [yield, toExpr, ih]

theorem Tree.leaves_yield {l : Level} (t : Tree l) : leaves t.yield = t.toExpr.leaves := by
  induction t with
  | sum e op t ihe iht | product e op t ihe iht => simp [yield, toExpr, Expr.leaves, ihe, iht]
  | ofTerm t ih | ofFactor t ih => exact ih
  | letter i | literal n => rfl
  | paren e ih => simp [yield, toExpr, ih]

/-- Each letter has occurred before or is the next one after those that have. -/
def InOrder (is : List Nat) : Prop :=
  ∀ p i r, is = p ++ i :: r → i ∈ p ∨ ∀ j, j ∈ p ↔ j < i

inductive Symbol : Char → Lexeme → Prop
  | letter {c : Char} (h : 'A' ≤ c ∧ c ≤ 'Z') : Symbol c (.letter (c.toNat - 65))
  | operator (op : Operator) : Symbol op.symbol (.operator op)
  | leftParen : Symbol '(' .leftParen
  | rightParen : Symbol ')' .rightParen

/-- A text and its tokens. A number is a run of digits and points that nothing extends. -/
inductive Reads : List Char → List Lexeme → Prop
  | nil : Reads [] []
  | blank {c : Char} {cs : List Char} {xs : List Lexeme} (hc : Text.isAsciiBlank c = true)
      (h : Reads cs xs) : Reads (c :: cs) xs
  | number {ds cs : List Char} {xs : List Lexeme} (hn : ds ≠ [])
      (hd : ∀ d ∈ ds, isNumeral d = true) (hc : ∀ c ∈ cs.head?, isNumeral c = false)
      (h : Reads cs xs) : Reads (ds ++ cs) (.number ds :: xs)
  | symbol {c : Char} {cs : List Char} {x : Lexeme} {xs : List Lexeme} (hc : Symbol c x)
      (h : Reads cs xs) : Reads (c :: cs) (x :: xs)

def IsFormula (cs : List Char) : Prop :=
  ∃ t : Tree .expr, Reads cs t.yield ∧ InOrder (letters t.yield)

end VehiclePid.Formula
