import VehiclePid.Formula.Compile
import VehiclePid.Proofs.Formula.Partial

namespace VehiclePid.Formula

/-- The lists that the stacks of a scan hold. -/
structure Contents where
  output : List Token
  pending : List Pending
  expected : Expected
  letters : Nat

def Contents.Fits (c : Contents) : Prop :=
  c.output.length ≤ tokenLimit ∧ c.pending.length ≤ tokenLimit

namespace Scan

def contents (s : Scan) : Contents := ⟨s.output.toList, s.pending.toList, s.expected, s.letters⟩

theorem contents_fits (s : Scan) : s.contents.Fits := by
  simp only [Contents.Fits, contents, Stack.length_toList]
  exact ⟨s.output.height_le, s.pending.height_le⟩

end Scan

/-- The result of an operation that is to leave given contents: it does, or they do not fit. -/
inductive Stores (c : Contents) : Except CompileError Scan → Prop
  | ok {s : Scan} (h : s.contents = c) : Stores c (.ok s)
  | full (h : ¬c.Fits) : Stores c (.error (.tokenOverflow tokenLimit))

theorem Stores.bind {c d : Contents} {m : Except CompileError Scan}
    {k : Scan → Except CompileError Scan} (h : Stores c m)
    (hk : ∀ s : Scan, s.contents = c → Stores d (k s)) (hf : d.Fits → c.Fits) :
    Stores d (m >>= k) := by
  cases h with
  | ok h => exact hk _ h
  | full h => exact .full fun hd => h (hf hd)

namespace Scan

theorem pushOn_cases {α : Type} (stack : Stack α tokenLimit) (a : α) :
    (∃ t, pushOn stack a = .ok t ∧ t.toList = stack.toList ++ [a]) ∨
      stack.toList.length = tokenLimit ∧
        pushOn stack a = .error (.tokenOverflow tokenLimit) := by
  by_cases hs : stack.height = tokenLimit
  · exact .inr ⟨by simp [hs], by simp [pushOn, Stack.isFull, hs]⟩
  · have hl := stack.height_le
    obtain ⟨t, ht, hl⟩ := stack.exists_push a (by omega)
    refine .inl ⟨t, ?_, hl⟩
    rw [pushOn, if_neg (by simpa [Stack.isFull] using hs), ht]
    rfl

theorem emit_stores (s : Scan) (t : Token) :
    Stores { s.contents with output := s.contents.output ++ [t] } (s.emit t) := by
  obtain ⟨o, ho, hl⟩ | ⟨hl, ho⟩ := pushOn_cases s.output t
  · rw [emit, ho]
    exact .ok (by simp [contents, hl])
  · rw [emit, ho]
    refine .full fun hf => ?_
    have := hf.1
    simp only [contents, List.length_append, List.length_singleton, hl] at this
    omega

theorem suspend_stores (s : Scan) (p : Pending) :
    Stores { s.contents with pending := s.contents.pending ++ [p] } (s.suspend p) := by
  obtain ⟨o, ho, hl⟩ | ⟨hl, ho⟩ := pushOn_cases s.pending p
  · rw [suspend, ho]
    exact .ok (by simp [contents, hl])
  · rw [suspend, ho]
    refine .full fun hf => ?_
    have := hf.2
    simp only [contents, List.length_append, List.length_singleton, hl] at this
    omega

theorem exists_release {s : Scan} {ps : List Pending} {p : Pending}
    (h : s.contents.pending = ps ++ [p]) :
    ∃ u, s.release = .ok u ∧ u.contents = { s.contents with pending := ps } := by
  obtain ⟨t, ht, hl⟩ := s.pending.exists_pop h
  refine ⟨{ s with pending := t }, ?_, by simp [contents, hl]⟩
  rw [release, ht]
  rfl

theorem peek?_eq (s : Scan) : s.pending.peek? = s.contents.pending.getLast? :=
  s.pending.peek?_eq_getLast?

/-- Draining takes the newest operators, here `ops` with the newest first, down to an entry that
the condition does not cover. -/
theorem drain_stores {p : Operator → Bool} {base : List Pending}
    (hb : ∀ op, base.getLast? = some (.operator op) → p op = false) {ops : List Operator}
    (hp : ∀ op ∈ ops, p op = true) {n : Nat} (hn : ops.length ≤ n) {s : Scan}
    (hs : s.contents.pending = base ++ (ops.map .operator).reverse) :
    Stores { s.contents with
      output := s.contents.output ++ ops.map .operator, pending := base } (s.drain p n) := by
  induction ops generalizing n s with
  | nil =>
    have hs : s.contents.pending = base := by simpa using hs
    have hd : s.drain p n = .ok s := by
      cases n with
      | zero => rfl
      | succ n =>
        rw [drain, peek?_eq, hs]
        split
        · rename_i op hop
          rw [hb op hop]
          rfl
        · rfl
    rw [hd]
    exact .ok (by simp [← hs])
  | cons op ops ih =>
    obtain ⟨n, rfl⟩ : ∃ m, n = m + 1 := ⟨n - 1, by simp at hn; omega⟩
    rw [List.map_cons, List.reverse_cons, ← List.append_assoc] at hs
    obtain ⟨u, hu, hc⟩ := exists_release hs
    have hd : s.drain p (n + 1) = (u.emit (.operator op)).bind (drain p n) := by
      rw [drain, peek?_eq, hs, List.getLast?_concat]
      simp only [hp op List.mem_cons_self, if_true, hu]
      rfl
    rw [hd]
    refine (u.emit_stores (.operator op)).bind (fun v hv => ?_) ?_
    · have h := ih (fun o ho => hp o (List.mem_cons_of_mem _ ho)) (by simpa using hn)
        (s := v) (n := n) (by rw [hv, hc])
      rw [hv, hc] at h
      simpa using h
    · have hf := s.contents_fits.2
      rw [hs] at hf
      rw [hc]
      simp only [Contents.Fits, List.length_append, List.length_map, List.length_cons,
        List.length_reverse, List.length_nil] at hf ⊢
      omega

theorem drainWhile_stores {p : Operator → Bool} {base : List Pending} {ops : List Operator}
    (hb : ∀ op, base.getLast? = some (.operator op) → p op = false)
    (hp : ∀ op ∈ ops, p op = true) {s : Scan}
    (hs : s.contents.pending = base ++ ops.map .operator) :
    Stores { s.contents with
      output := s.contents.output ++ ops.reverse.map .operator, pending := base }
      (s.drainWhile p) := by
  have hn : ops.reverse.length ≤ s.pending.height := by
    rw [← Stack.length_toList, show s.pending.toList = _ from hs]
    simp
  exact drain_stores hb (fun op ho => hp op (List.mem_reverse.mp ho)) hn (by simpa using hs)

end Scan

theorem Additive.precedence_eq (op : Additive) : op.val.precedence = 1 := by
  obtain ⟨_, rfl | rfl⟩ := op <;> rfl

theorem Multiplicative.precedence_eq (op : Multiplicative) : op.val.precedence = 2 := by
  obtain ⟨_, rfl | rfl⟩ := op <;> rfl

namespace Slot

theorem postorder_term (s : Slot) (f : Tree .factor) :
    (s.term f).toExpr.postorder =
      (s.product.elim [] fun p => p.1.toExpr.postorder) ++ f.toExpr.postorder ++
        (s.product.toList.map (·.2.val)).reverse.map .operator := by
  unfold term
  cases s.product with
  | none => simp [Tree.toExpr]
  | some p => simp [Tree.toExpr, Expr.postorder]

theorem postorder_close (s : Slot) (f : Tree .factor) :
    (s.close f).toExpr.postorder =
      s.output ++ f.toExpr.postorder ++ s.operators.reverse.map .operator := by
  unfold close output operators
  cases s.sum with
  | none => simp [Tree.toExpr, postorder_term]
  | some p => simp [Tree.toExpr, Expr.postorder, postorder_term]

theorem extend_eq (s : Slot) (f : Tree .factor) (op : Operator) :
    ∃ kept released, s.operators = kept ++ released ∧
      (∀ o ∈ kept, o.precedence < op.precedence) ∧
      (∀ o ∈ released, op.precedence ≤ o.precedence) ∧
      (s.extend f op).operators = kept ++ [op] ∧
      (s.extend f op).output =
        s.output ++ f.toExpr.postorder ++ released.reverse.map .operator := by
  by_cases h : op = .add ∨ op = .sub
  · refine ⟨[], s.operators, rfl, nofun, ?_, by simp [extend, h, operators], ?_⟩
    · intro o _
      obtain rfl | rfl := h <;> cases o <;> decide
    · rw [← postorder_close]
      simp [extend, h, output]
  · have hop : op.precedence = 2 := by cases op <;> simp_all [Operator.precedence]
    refine ⟨s.sum.toList.map (·.2.val), s.product.toList.map (·.2.val), rfl, ?_, ?_, ?_, ?_⟩
    · intro o ho
      obtain ⟨p, -, rfl⟩ := List.mem_map.mp ho
      rw [p.2.precedence_eq, hop]
      decide
    · intro o ho
      obtain ⟨p, -, rfl⟩ := List.mem_map.mp ho
      exact Nat.le_of_eq (hop.trans p.2.precedence_eq.symm)
    · simp [extend, h, operators]
    · simp [extend, h, output, postorder_term]

end Slot

namespace Partial

def output (p : Partial) : List Token :=
  p.outer.reverse.flatMap Slot.output ++ p.inner.output ++
    p.operand.elim [] fun f => f.toExpr.postorder

def enclosing (p : Partial) : List Pending :=
  p.outer.reverse.flatMap fun s => s.operators.map .operator ++ [.leftParen]

def pending (p : Partial) : List Pending := p.enclosing ++ p.inner.operators.map .operator

/-- The contents of a scan of the same tokens that has bound `n` letters. -/
def contents (p : Partial) (n : Nat) : Contents :=
  ⟨p.output, p.pending, if p.operand.isSome then .operator else .operand, n⟩

theorem getLast?_enclosing (p : Partial) (op : Operator) :
    p.enclosing.getLast? ≠ some (.operator op) := by
  unfold enclosing
  cases p.outer with
  | nil => simp
  | cons s outer => simp

end Partial

def Lexeme.bound (n : Nat) : Lexeme → Nat
  | .letter i => max n (i + 1)
  | _ => n

/-- What a step of a scan that has bound `n` letters can do with a token, and why. -/
inductive Verdict (p : Partial) (n : Nat) (x : Placed) : Except CompileError Scan → Prop
  | accepted {q : Partial} {s : Scan} (hq : p.step x.lexeme = some q)
    (hn : ∀ i, x.lexeme = .letter i → i ≤ n) (hs : s.contents = q.contents (x.lexeme.bound n)) :
    Verdict p n x (.ok s)
  | full {q : Partial} (hq : p.step x.lexeme = some q)
    (hn : ∀ i, x.lexeme = .letter i → i ≤ n) (hf : ¬(q.contents (x.lexeme.bound n)).Fits) :
    Verdict p n x (.error (.tokenOverflow tokenLimit))
  | misplaced (h : ∀ y, x.lexeme.Alike y → p.step y = none) :
    Verdict p n x (.error (.unexpectedToken x.position))
  | unknown {c : Char} (hx : x.lexeme = .unknown c) :
    Verdict p n x (.error (.unknownToken c x.position))
  | illiterate {ds : List Char} (hx : x.lexeme = .number ds) (hd : Numeral.ofText? ds = none) :
    Verdict p n x (.error (.invalidLiteral (String.ofList ds)))
  | early {i : Nat} (hx : x.lexeme = .letter i) (hp : p.operand = none) (hi : n < i) :
    Verdict p n x (.error (.nonContiguousOperand (VehiclePid.letter n) (VehiclePid.letter i)))
  | unopened {f : Tree .factor} (hx : x.lexeme = .rightParen) (ho : p.outer = [])
    (hp : p.operand = some f) : Verdict p n x (.error .unbalancedParens)
  | fullUnopened {f : Tree .factor} (hx : x.lexeme = .rightParen) (ho : p.outer = [])
    (hp : p.operand = some f) (hf : tokenLimit < (p.inner.close f).toExpr.postorder.length) :
    Verdict p n x (.error (.tokenOverflow tokenLimit))

/-- The end of a scan that has bound `n` letters, and why. -/
inductive Ending (p : Partial) (n : Nat) : Except CompileError Formula → Prop
  | whole {f : Tree .factor} (ho : p.outer = []) (hp : p.operand = some f)
    (hf : (p.inner.close f).toExpr.postorder.length ≤ tokenLimit) :
    Ending p n (.ok ⟨(p.inner.close f).toExpr.postorder, n⟩)
  | unclosed {f : Tree .factor} (ho : p.outer ≠ []) (hp : p.operand = some f) :
    Ending p n (.error .unbalancedParens)
  | unfinished (hp : p.operand = none) : Ending p n (.error .unexpectedEnd)
  | full {f : Tree .factor} (hp : p.operand = some f)
    (hf : tokenLimit < p.output.length + p.inner.operators.length) :
    Ending p n (.error (.tokenOverflow tokenLimit))

namespace Scan

theorem expect_of_eq {s : Scan} {e : Expected} (h : s.expected = e) (position : Nat) :
    s.expect e position = .ok () := if_pos h

theorem expect_of_ne {s : Scan} {e : Expected} (h : s.expected ≠ e) (position : Nat) :
    s.expect e position = .error (.unexpectedToken position) := if_neg h

variable {p : Partial} {n : Nat} {s : Scan}

theorem expected_operand (h : s.contents = p.contents n) (hp : p.operand = none) :
    s.expected = .operand := by
  have h := congrArg Contents.expected h
  simpa [Partial.contents, contents, hp] using h

theorem expected_operator (h : s.contents = p.contents n) {f : Tree .factor}
    (hp : p.operand = some f) : s.expected = .operator := by
  have h := congrArg Contents.expected h
  simpa [Partial.contents, contents, hp] using h

theorem letters_eq (h : s.contents = p.contents n) : s.letters = n := congrArg Contents.letters h

theorem verdict_of_stores {x : Placed} {q : Partial} (hq : p.step x.lexeme = some q)
    (hn : ∀ i, x.lexeme = .letter i → i ≤ n) {m : Except CompileError Scan}
    (hm : Stores (q.contents (x.lexeme.bound n)) m) : Verdict p n x m := by
  cases hm with
  | ok hs => exact .accepted hq hn hs
  | full hf => exact .full hq hn hf

theorem emit_operand_stores (h : s.contents = p.contents n) (hp : p.operand = none)
    {f : Tree .factor} {t : Token} (ht : f.toExpr.postorder = [t]) (g : Nat → Nat) :
    Stores ({ p with operand := some f }.contents (g n))
      (s.emit t >>= fun u => .ok { u with expected := .operator, letters := g u.letters }) := by
  refine (s.emit_stores t).bind (fun u hu => .ok ?_) ?_
  · rw [h] at hu
    have ho := congrArg Contents.output hu
    have hw := congrArg Contents.pending hu
    have hl := congrArg Contents.letters hu
    simp_all [contents, Partial.contents, Partial.output, Partial.pending, Partial.enclosing]
  · rw [h]
    simp [Contents.Fits, Partial.contents, Partial.output, Partial.pending, Partial.enclosing,
      hp, ht]

theorem letter_verdict (h : s.contents = p.contents n) (position i : Nat) :
    Verdict p n ⟨.letter i, position⟩ (s.letter position i) := by
  cases hp : p.operand with
  | some f =>
    have he : s.expected ≠ .operand := by simp [expected_operator h hp]
    rw [letter, expect_of_ne he]
    refine .misplaced fun y hy => ?_
    rw [hy.eq_of_ne nofun]
    simp [Partial.step, hp]
  | none =>
    rw [letter, expect_of_eq (expected_operand h hp), letters_eq h]
    by_cases hi : n < i
    · simp only [hi, if_true]
      exact .early rfl hp hi
    · simp only [hi, if_false]
      have hq : p.step (.letter i) = some { p with operand := some (.letter i) } := by
        simp [Partial.step, hp]
      refine verdict_of_stores hq (fun j hj => by cases hj; omega) ?_
      exact emit_operand_stores h hp rfl fun m => max m (i + 1)

theorem number_verdict (h : s.contents = p.contents n) (position : Nat) (ds : List Char) :
    Verdict p n ⟨.number ds, position⟩ (s.number position ds) := by
  cases hd : Numeral.ofText? ds with
  | none =>
    rw [number, Numeral.ofText?_eq_none_iff.mp hd]
    exact .illiterate rfl hd
  | some v =>
    obtain rfl := Numeral.text_of_ofText? hd
    rw [number, v.reads]
    cases hp : p.operand with
    | some f =>
      have he : s.expected ≠ .operand := by simp [expected_operator h hp]
      simp only [expect_of_ne he]
      refine .misplaced ?_
      rintro y (rfl | ⟨ds, es, hx, rfl⟩) <;> simp [Partial.step, hp]
    | none =>
      simp only [expect_of_eq (expected_operand h hp)]
      have hq : p.step (.number v.text) = some { p with operand := some (.literal v) } := by
        simp [Partial.step, hp, hd]
      refine verdict_of_stores hq (fun _ hi => by cases hi) ?_
      exact emit_operand_stores h hp rfl id

theorem leftParen_verdict (h : s.contents = p.contents n) (position : Nat) :
    Verdict p n ⟨.leftParen, position⟩ (s.leftParen position) := by
  cases hp : p.operand with
  | some f =>
    have he : s.expected ≠ .operand := by simp [expected_operator h hp]
    rw [leftParen, expect_of_ne he]
    refine .misplaced fun y hy => ?_
    rw [hy.eq_of_ne nofun]
    simp [Partial.step, hp]
  | none =>
    rw [leftParen, expect_of_eq (expected_operand h hp)]
    have hq : p.step .leftParen = some ⟨p.inner :: p.outer, .empty, none⟩ := by
      simp [Partial.step, hp]
    refine verdict_of_stores hq (fun _ hi => by cases hi) ?_
    have hs := s.suspend_stores .leftParen
    rw [h] at hs
    have hnew : Slot.empty.output = [] ∧ Slot.empty.operators = [] := ⟨rfl, rfl⟩
    change Stores _ (s.suspend .leftParen)
    simpa [Partial.contents, Partial.output, Partial.pending, Partial.enclosing, hp, hnew,
      Lexeme.bound] using hs

theorem operator_verdict (h : s.contents = p.contents n) (position : Nat) (op : Operator) :
    Verdict p n ⟨.operator op, position⟩ (s.operator position op) := by
  cases hp : p.operand with
  | none =>
    have he : s.expected ≠ .operator := by simp [expected_operand h hp]
    rw [operator, expect_of_ne he]
    refine .misplaced fun y hy => ?_
    rw [hy.eq_of_ne nofun]
    simp [Partial.step, hp]
  | some f =>
    rw [operator, expect_of_eq (expected_operator h hp)]
    have hq : p.step (.operator op) =
        some { p with inner := p.inner.extend f op, operand := none } := by
      simp [Partial.step, hp]
    refine verdict_of_stores hq (fun _ hi => by cases hi) ?_
    obtain ⟨kept, released, hops, hk, hr, hops', hout⟩ := p.inner.extend_eq f op
    have hpend : s.contents.pending =
        (p.enclosing ++ kept.map .operator) ++ released.map .operator := by
      rw [h]
      simp [Partial.contents, Partial.pending, hops]
    have hlast : ∀ o, (p.enclosing ++ kept.map Pending.operator).getLast? = some (.operator o) →
        decide (op.precedence ≤ o.precedence) = false := by
      intro o ho
      rw [List.getLast?_append, List.getLast?_map] at ho
      cases hl : kept.getLast? with
      | none => exact absurd (by simpa [hl] using ho) (p.getLast?_enclosing o)
      | some o' =>
        have hoo : o' = o := by simpa [hl] using ho
        have := hk o' (List.mem_of_getLast? hl)
        rw [← hoo]
        simpa using this
    have hc : s.contents.output ++ released.reverse.map .operator =
        ({ p with inner := p.inner.extend f op, operand := none } : Partial).output := by
      rw [h]
      simp [Partial.contents, Partial.output, hp, hout]
    have hd := drainWhile_stores hlast (by simpa using hr) hpend
    rw [hc, h] at hd
    refine hd.bind (fun u hu => ?_) ?_
    · have hs := u.suspend_stores (.operator op)
      rw [hu] at hs
      refine hs.bind (fun v hv => .ok ?_) ?_
      · simp_all [contents, Partial.contents, Partial.pending, Partial.enclosing, Lexeme.bound]
      · simp [Contents.Fits, Partial.contents, Partial.pending, Partial.enclosing, hops']
    · simp only [Contents.Fits, Partial.contents, Partial.pending, Partial.enclosing, hops',
        List.length_append, List.length_map]
      omega

theorem length_enclosing_le (h : s.contents = p.contents n) :
    p.enclosing.length ≤ tokenLimit := by
  have hf := s.contents_fits.2
  rw [h] at hf
  simp only [Partial.contents, Partial.pending, List.length_append] at hf
  omega

theorem drain_level_stores (h : s.contents = p.contents n) {f : Tree .factor}
    (hp : p.operand = some f) :
    Stores ⟨p.outer.reverse.flatMap Slot.output ++ (p.inner.close f).toExpr.postorder,
      p.enclosing, .operator, n⟩ (s.drainWhile fun _ => true) := by
  have hpend : s.contents.pending = p.enclosing ++ p.inner.operators.map .operator := by
    rw [h]
    rfl
  have hd := drainWhile_stores (p := fun _ => true)
    (fun op ho => absurd ho (p.getLast?_enclosing op)) (fun _ _ => rfl) hpend
  rw [h] at hd
  simpa [Partial.contents, Partial.output, hp, Slot.postorder_close] using hd

theorem rightParen_verdict (h : s.contents = p.contents n) (position : Nat) :
    Verdict p n ⟨.rightParen, position⟩ (s.rightParen position) := by
  cases hp : p.operand with
  | none =>
    have he : s.expected ≠ .operator := by simp [expected_operand h hp]
    rw [rightParen, expect_of_ne he]
    refine .misplaced fun y hy => ?_
    rw [hy.eq_of_ne nofun]
    simp [Partial.step, hp]
  | some f =>
    rw [rightParen, expect_of_eq (expected_operator h hp)]
    have hd := drain_level_stores h hp
    have henc := length_enclosing_le h
    cases ho : p.outer with
    | nil =>
      have hnil : p.enclosing = [] := by simp [Partial.enclosing, ho]
      rw [hnil, ho] at hd
      generalize s.drainWhile (fun _ => true) = m at hd ⊢
      cases hd with
      | @ok u hu =>
        have hk : u.pending.peek? = none := by
          rw [peek?_eq, hu]
          rfl
        simp only [bind, Except.bind, hk]
        exact .unopened rfl ho hp
      | full hf =>
        refine .fullUnopened rfl ho hp ?_
        simpa [Contents.Fits] using hf
    | cons t outer =>
      have hq : p.step .rightParen = some ⟨outer, t, some (.paren (p.inner.close f))⟩ := by
        simp [Partial.step, hp, ho]
      refine verdict_of_stores hq (fun _ hi => by cases hi) ?_
      refine hd.bind (fun u hu => ?_) ?_
      · have hw : u.contents.pending =
            (Partial.pending ⟨outer, t, some (.paren (p.inner.close f))⟩) ++ [.leftParen] := by
          rw [hu]
          simp [Partial.enclosing, Partial.pending, ho]
        obtain ⟨v, hv, hc⟩ := exists_release hw
        rw [peek?_eq, hw, List.getLast?_concat]
        simp only [hv]
        refine .ok ?_
        rw [hc, hu]
        simp [Partial.contents, Partial.output, Lexeme.bound, ho, Tree.toExpr]
      · rintro ⟨hf, -⟩
        refine ⟨?_, henc⟩
        simpa [Partial.contents, Partial.output, ho, Tree.toExpr] using hf

theorem step_verdict (h : s.contents = p.contents n) (x : Placed) :
    Verdict p n x (s.step x) := by
  obtain ⟨lexeme, position⟩ := x
  cases lexeme with
  | letter i => exact letter_verdict h position i
  | number ds => exact number_verdict h position ds
  | operator op => exact operator_verdict h position op
  | leftParen => exact leftParen_verdict h position
  | rightParen => exact rightParen_verdict h position
  | unknown c => exact .unknown rfl

theorem finish_ending (h : s.contents = p.contents n) : Ending p n s.finish := by
  cases hp : p.operand with
  | none =>
    rw [finish, expected_operand h hp]
    exact .unfinished hp
  | some f =>
    rw [finish, if_neg (by simp [expected_operator h hp])]
    have hd := drain_level_stores h hp
    generalize s.drainWhile (fun _ => true) = m at hd ⊢
    cases hd with
    | @ok u hu =>
      have hout : u.output.toList = _ := congrArg Contents.output hu
      have hpend : u.pending.toList = _ := congrArg Contents.pending hu
      have hlet : u.letters = n := congrArg Contents.letters hu
      change Ending p n (if u.pending.isEmpty then .ok ⟨u.output.toList, u.letters⟩
        else .error .unbalancedParens)
      rw [← Stack.isEmpty_toList, hpend, hout, hlet]
      cases ho : p.outer with
      | nil =>
        have hf := u.contents_fits.1
        rw [hu] at hf
        simp only [ho, List.reverse_nil, List.flatMap_nil, List.nil_append] at hf ⊢
        simpa [Partial.enclosing, ho] using Ending.whole (n := n) ho hp hf
      | cons t outer =>
        simpa [Partial.enclosing, ho] using Ending.unclosed (n := n) (by simp [ho]) hp
    | full hf =>
      refine .full hp ?_
      have henc := length_enclosing_le h
      simp only [Contents.Fits, Slot.postorder_close, List.length_append, List.length_map,
        List.length_reverse] at hf
      simp only [Partial.output, hp, List.length_append, Option.elim]
      omega

end Scan

end VehiclePid.Formula
