import VehiclePid.Binary.Round

namespace VehiclePid.Decimal

def isDigit (c : Char) : Bool := '0' ≤ c && c ≤ '9'

def digitValue (c : Char) : Nat := c.toNat - 48

def naturalOfDigits (ds : List Char) : Nat := ds.foldl (fun n c => 10 * n + digitValue c) 0

def literal? {f : Format} (cs : List Char) : Option (Binary f) :=
  let whole := cs.takeWhile isDigit
  let rest := cs.dropWhile isDigit
  let fraction := rest.drop 1
  if (whole ++ fraction).isEmpty || !fraction.all isDigit || !rest.head?.all (· == '.') then none
  else some (.ofQuotient false (naturalOfDigits (whole ++ fraction)) (tenTo fraction.length))

theorem not_isDigit_point : isDigit '.' = false := by decide

theorem count_point_of_digits {cs : List Char} (h : ∀ c ∈ cs, isDigit c = true) :
    cs.count '.' = 0 := by
  apply List.count_eq_zero.mpr
  intro hm
  have hd := h _ hm
  rw [not_isDigit_point] at hd
  cases hd

theorem literal?_isSome_iff {f : Format} {cs : List Char}
    (hcs : ∀ c ∈ cs, isDigit c = true ∨ c = '.') :
    (literal? cs : Option (Binary f)).isSome = true ↔
      (∃ c ∈ cs, isDigit c = true) ∧ cs.count '.' ≤ 1 := by
  have hs : cs.takeWhile isDigit ++ cs.dropWhile isDigit = cs := List.takeWhile_append_dropWhile
  have hw : ∀ c ∈ cs.takeWhile isDigit, isDigit c = true :=
    List.all_eq_true.mp List.all_takeWhile
  have hh := List.head?_dropWhile_not isDigit cs
  unfold literal?
  generalize cs.takeWhile isDigit = whole at hs hw ⊢
  generalize cs.dropWhile isDigit = rest at hs hh ⊢
  subst hs
  have hc := count_point_of_digits hw
  cases rest with
  | nil =>
    cases whole with
    | nil => simp
    | cons d whole => simp_all
  | cons p fraction =>
    have hp : p = '.' := by
      obtain hd | hp := hcs p (by simp)
      · simp [hd] at hh
      · exact hp
    subst hp
    rw [List.count_append, hc, List.count_cons_self]
    by_cases hf : ∀ c ∈ fraction, isDigit c = true
    · have hfc := count_point_of_digits hf
      cases whole <;> cases fraction <;> simp_all [not_isDigit_point]
    · have hp : '.' ∈ fraction := by
        by_cases hp : '.' ∈ fraction
        · exact hp
        · refine absurd (fun c hm => ?_) hf
          obtain hd | rfl := hcs c (by simp [hm])
          · exact hd
          · exact absurd hm hp
      have hfc := List.count_pos_iff.mpr hp
      have hfa : fraction.all isDigit = false := List.all_eq_false.mpr (by simpa using hf)
      simp [hfa]
      omega

theorem isDigit_or_eq_point_of_literal? {f : Format} {cs : List Char} {v : Binary f}
    (h : literal? cs = some v) : ∀ c ∈ cs, isDigit c = true ∨ c = '.' := by
  have hs : cs.takeWhile isDigit ++ cs.dropWhile isDigit = cs := List.takeWhile_append_dropWhile
  have hw : ∀ c ∈ cs.takeWhile isDigit, isDigit c = true :=
    List.all_eq_true.mp List.all_takeWhile
  unfold literal? at h
  generalize cs.takeWhile isDigit = whole at hs hw h
  generalize cs.dropWhile isDigit = rest at hs h
  subst hs
  obtain ⟨hc, -⟩ := Option.ite_none_left_eq_some.mp h
  intro c hm
  obtain hm | hm := List.mem_append.mp hm
  · exact .inl (hw c hm)
  · cases rest with
    | nil => cases hm
    | cons p fraction =>
      have hp : p = '.' ∧ ∀ d ∈ fraction, isDigit d = true := by simp_all
      obtain rfl | hm := List.mem_cons.mp hm
      · exact .inr hp.1
      · exact .inl (hp.2 c hm)

end VehiclePid.Decimal
