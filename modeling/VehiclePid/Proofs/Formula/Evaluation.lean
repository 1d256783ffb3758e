import VehiclePid.Proofs.Formula.Grammar

namespace VehiclePid.Formula

theorem run_append (raw : List UInt8) (xs ys : List Token) (s : Operands) :
    run raw (xs ++ ys) s = (run raw xs s).bind (run raw ys) := List.foldlM_append

theorem run_singleton (raw : List UInt8) (x : Token) (s : Operands) :
    run raw [x] s = step raw s x := by
  rw [run, List.foldlM_cons]
  cases step raw s x <;> rfl

theorem step_letter {raw : List UInt8} {i : Nat} {b : UInt8} (hb : raw[i]? = some b) {s : Operands}
    (hs : s.height < tokenLimit) :
    ∃ t, step raw s (.operand i) = .ok t ∧ t.toList = s.toList ++ [.ofNat b.toNat] := by
  obtain ⟨t, ht, hl⟩ := s.exists_push (.ofNat b.toNat) hs
  refine ⟨t, ?_, hl⟩
  simp only [step, hb, ht]
  rfl

theorem step_literal (raw : List UInt8) (v : Binary .double) {s : Operands}
    (hs : s.height < tokenLimit) :
    ∃ t, step raw s (.literal v) = .ok t ∧ t.toList = s.toList ++ [v] := by
  obtain ⟨t, ht, hl⟩ := s.exists_push v hs
  refine ⟨t, ?_, hl⟩
  rw [step, ht]
  rfl

theorem step_operator (raw : List UInt8) (op : Operator) {s : Operands}
    {vs : List (Binary .double)} {x y : Binary .double} (hs : s.toList = vs ++ [x] ++ [y]) :
    ∃ t, step raw s (.operator op) = .ok t ∧ t.toList = vs ++ [op.apply x y] := by
  obtain ⟨t, ht, hl⟩ := s.exists_pop hs
  obtain ⟨u, hu, hv⟩ := t.exists_pop hl
  have hh : u.height < tokenLimit := by
    have := t.height_le
    rw [← Stack.length_toList, hl] at this
    rw [← Stack.length_toList, hv]
    simp only [List.length_append, List.length_singleton] at this
    omega
  obtain ⟨w, hw, hx⟩ := u.exists_push (op.apply x y) hh
  refine ⟨w, ?_, by rw [hx, hv]⟩
  rw [step, ht]
  change (t.pop.mapError Fault.stack).bind
    (fun l => (l.2.push (op.apply l.1 y)).mapError Fault.stack) = .ok w
  rw [hu]
  change (u.push (op.apply x y)).mapError Fault.stack = .ok w
  rw [hw]
  rfl

theorem height_of_toList {s t : Operands} {v : Binary .double} (h : t.toList = s.toList ++ [v]) :
    t.height = s.height + 1 := by
  rw [← Stack.length_toList, h, List.length_append, Stack.length_toList]
  rfl

theorem run_postorder {raw : List UInt8} (e : Expr) {v : Binary .double}
    (hv : e.value? raw = some v) {s : Operands} (hs : s.height + e.leaves ≤ tokenLimit) :
    ∃ t, run raw e.postorder s = .ok t ∧ t.toList = s.toList ++ [v] := by
  induction e generalizing v s with
  | letter i =>
    obtain ⟨b, hb, rfl⟩ := Option.map_eq_some_iff.mp hv
    rw [Expr.postorder, run_singleton]
    exact step_letter hb hs
  | literal n =>
    cases hv
    rw [Expr.postorder, run_singleton]
    exact step_literal raw n.value hs
  | binary op l r ihl ihr =>
    obtain ⟨x, hx, hv⟩ := Option.bind_eq_some_iff.mp hv
    obtain ⟨y, hy, hv⟩ := Option.bind_eq_some_iff.mp hv
    cases hv
    rw [Expr.leaves] at hs
    obtain ⟨t, ht, hl⟩ := ihl hx (s := s) (by omega)
    have hh := height_of_toList hl
    have hpos := l.leaves_pos
    obtain ⟨u, hu, hm⟩ := ihr hy (s := t) (by omega)
    obtain ⟨w, hw, hn⟩ := step_operator raw op (s := u) (by rw [hm, hl])
    refine ⟨w, ?_, hn⟩
    rw [Expr.postorder, run_append, run_append, ht]
    simp only [Except.bind, hu, run_singleton, hw]

theorem value_postorder {raw : List UInt8} (e : Expr) {v : Binary .double}
    (hv : e.value? raw = some v) (hs : e.leaves ≤ tokenLimit) :
    value raw e.postorder = .ok v := by
  have hz : (Stack.empty : Operands).height = 0 := rfl
  obtain ⟨t, ht, hl⟩ := run_postorder e hv (s := .empty) (by omega)
  obtain ⟨u, hu, -⟩ := t.exists_pop hl
  have hh : t.height = 1 := height_of_toList hl
  rw [value, ht]
  change (if t.height = 1 then (t.pop.mapError Fault.stack).bind fun r => .ok r.1
    else .error (.malformed t.height)) = .ok v
  rw [if_pos hh, hu]
  rfl

theorem height_run_postorder {raw : List UInt8} (e : Expr) {v : Binary .double}
    (hv : e.value? raw = some v) {s : Operands} (hs : s.height + e.leaves ≤ tokenLimit) :
    ∃ t, run raw e.postorder s = .ok t ∧ t.height ≤ s.height + e.leaves := by
  obtain ⟨t, ht, hl⟩ := run_postorder e hv hs
  have hh := height_of_toList hl
  have hpos := e.leaves_pos
  exact ⟨t, ht, by omega⟩

/-- After each token of a postorder at most one value is held for each leaf of the expression. -/
theorem height_run_prefix {raw : List UInt8} (e : Expr) {v : Binary .double}
    (hv : e.value? raw = some v) {s : Operands} (hs : s.height + e.leaves ≤ tokenLimit)
    {xs ys : List Token} (hxs : e.postorder = xs ++ ys) :
    ∃ t, run raw xs s = .ok t ∧ t.height ≤ s.height + e.leaves := by
  induction e generalizing v s xs ys with
  | letter i | literal n =>
    obtain ⟨rfl, -⟩ | ⟨rfl, -⟩ := List.singleton_eq_append_iff.mp hxs
    · exact ⟨s, rfl, Nat.le_add_right _ _⟩
    · exact height_run_postorder _ hv hs
  | binary op l r ihl ihr =>
    obtain ⟨x, hx, hv'⟩ := Option.bind_eq_some_iff.mp hv
    obtain ⟨y, hy, -⟩ := Option.bind_eq_some_iff.mp hv'
    rw [Expr.postorder, List.append_assoc] at hxs
    have hle := hs
    rw [Expr.leaves] at hle
    -- the prefix ends after the left operand, where its value counts as one more, or inside it
    obtain ⟨as, rfl, hr⟩ | ⟨bs, hl, -⟩ := List.append_eq_append_iff.mp hxs
    · obtain ⟨t, ht, htl⟩ := run_postorder l hx (s := s) (by omega)
      have hh := height_of_toList htl
      have hpos := l.leaves_pos
      have inRight : ∀ bs, r.postorder = as ++ bs →
          ∃ t, run raw (l.postorder ++ as) s = .ok t ∧
            t.height ≤ s.height + (l.leaves + r.leaves) := by
        intro bs hbs
        obtain ⟨u, hu, hul⟩ := ihr hy (s := t) (by omega) hbs
        exact ⟨u, by rw [run_append, ht]; exact hu, by omega⟩
      obtain ⟨cs, rfl, hc⟩ | ⟨bs, hbs, -⟩ := List.append_eq_append_iff.mp hr
      · obtain ⟨rfl, -⟩ | ⟨rfl, -⟩ := List.singleton_eq_append_iff.mp hc
        · exact inRight [] (by simp)
        · rw [← List.append_assoc]
          exact height_run_postorder (.binary op l r) hv hs
      · exact inRight bs hbs
    · obtain ⟨t, ht, hle⟩ := ihl hx (s := s) (by omega) hl
      exact ⟨t, ht, by rw [Expr.leaves]; omega⟩

end VehiclePid.Formula
