import VehiclePid.Proofs.Formula.Meaning

namespace VehiclePid.Formula

/-- The evaluation of a formula on all payloads, short or long. -/
structure Safe (f : Formula) : Prop where
  error_iff : ∀ (raw : List UInt8) (e : EvalError), f.evaluate raw = .error e ↔
    raw.length < (if f.isIdentity then 1 else f.operands) ∧
      e = .insufficientBytes (if f.isIdentity then 1 else f.operands) raw.length
  height_le : f.isIdentity = false → ∀ raw : List UInt8, f.operands ≤ raw.length →
    ∀ done rest, f.tokens = done ++ rest → ∃ s, run raw done .empty = .ok s ∧ s.height ≤ 16
  evaluate_congr : f.isIdentity = false → ∀ raw raw' : List UInt8,
    raw.take f.operands = raw'.take f.operands → f.evaluate raw = f.evaluate raw'

theorem evaluate_eq_error_iff {f : Formula} {raw : List UInt8}
    (h : f.needed ≤ raw.length → ∃ v, f.evaluate raw = .ok v) (e : EvalError) :
    f.evaluate raw = .error e ↔
      raw.length < f.needed ∧ e = .insufficientBytes f.needed raw.length := by
  by_cases hl : raw.length < f.needed
  · have he : f.evaluate raw = .error (.insufficientBytes f.needed raw.length) := if_pos hl
    rw [he]
    constructor
    · intro h
      exact ⟨hl, (Except.error.inj h).symm⟩
    · rintro ⟨-, rfl⟩
      rfl
  · obtain ⟨v, hv⟩ := h (Nat.le_of_not_lt hl)
    rw [hv]
    constructor
    · intro h
      cases h
    · rintro ⟨h, -⟩
      exact absurd h hl

theorem safe_identity : Safe identity where
  error_iff raw := by
    apply evaluate_eq_error_iff
    intro hl
    exact ⟨_, if_neg (Nat.not_lt_of_le hl)⟩
  height_le := nofun
  evaluate_congr := nofun

namespace Compiles

variable {e : Expr} {f : Formula}

theorem evaluate_congr (h : Compiles e f) {raw raw' : List UInt8}
    (ht : raw.take f.operands = raw'.take f.operands) : f.evaluate raw = f.evaluate raw' := by
  have hl := congrArg List.length ht
  rw [List.length_take, List.length_take] at hl
  by_cases hr : f.operands ≤ raw.length
  · obtain ⟨v, hv⟩ := h.exists_value hr
    have hv' : e.value? raw' = some v := by
      rw [← hv]
      apply e.value?_congr
      intro i hi
      have hi := (h.mem_letters i).mp hi
      rw [← List.getElem?_take_of_lt hi, ← ht, List.getElem?_take_of_lt hi]
    rw [h.evaluate_eq hr hv, h.evaluate_eq (by omega) hv']
  · rw [List.take_of_length_le (by omega), List.take_of_length_le (by omega)] at ht
    rw [ht]

theorem safe (h : Compiles e f) : Safe f where
  error_iff raw := by
    apply evaluate_eq_error_iff
    intro hl
    rw [h.needed_eq] at hl
    obtain ⟨v, hv⟩ := h.exists_value hl
    exact ⟨v, h.evaluate_eq hl hv⟩
  height_le _ raw hl done rest ht := by
    obtain ⟨v, hv⟩ := h.exists_value hl
    have hle := h.leaves_le
    have hz : (Stack.empty : Operands).height = 0 := rfl
    have hs : (Stack.empty : Operands).height + e.leaves ≤ 32 := by omega
    obtain ⟨s, hs, hh⟩ := height_run_prefix e hv hs (h.tokens_eq.symm.trans ht)
    exact ⟨s, hs, by omega⟩
  evaluate_congr _ _ _ := h.evaluate_congr

end Compiles

theorem safe_of_compile {source : String} {f : Formula} (h : compile source = .ok f) : Safe f := by
  obtain ⟨-, rfl⟩ | ⟨-, t, -, hf⟩ := identity_or_compiles h
  · exact safe_identity
  · exact hf.safe

theorem letter_lt_of_mem_lexemes {n i m : Nat} {cs : List Char}
    (h : ⟨.letter i, m⟩ ∈ lexemes n cs) : i < 26 := by
  obtain ⟨ys, zs, hs⟩ := List.append_of_mem h
  obtain ⟨p, w, r, -, hw, -, -⟩ := lexemes_split hs
  obtain ⟨c, -, hc⟩ := hw.word.exists_symbol nofun nofun
  cases hc with
  | letter hc =>
    have hcap := capital_iff.mp hc
    omega

theorem Follows.letters_le {n : Nat} {cs : List Char} {ys zs : List Placed} {p : Partial} {s : Scan}
    (hs : lexemes n cs = ys ++ zs) (h : Follows (ys.map Placed.lexeme) p s) : s.letters ≤ 26 := by
  apply Nat.le_of_not_lt
  intro hlt
  have hm := (h.mem_letters 26).mpr hlt
  obtain ⟨x, hx, hl⟩ := List.mem_filterMap.mp hm
  obtain ⟨⟨lexeme, m⟩, hy, rfl⟩ := List.mem_map.mp hx
  cases lexeme with
  | letter i =>
    cases hl
    have hmem : ⟨.letter 26, m⟩ ∈ lexemes n cs := hs ▸ List.mem_append_left zs hy
    exact absurd (letter_lt_of_mem_lexemes hmem) (Nat.lt_irrefl 26)
  | _ => cases hl

theorem compile_ne_stackFault (source : String) (fault : Stack.Fault) :
    compile source ≠ .error (.stackFault fault) := by
  intro h
  obtain ⟨_, _, _, _, _, -, -, hv⟩ | ⟨_, _, -, he⟩ := exists_verdict_of_compileChars h
  · cases hv
  · cases he

theorem isValid_of_append {source : String} {p r : List Char} (h : source.toList = p ++ r) :
    (⟨byteLength p⟩ : String.Pos.Raw).IsValid source := by
  apply String.Pos.Raw.isValid_iff_exists_append.mpr
  refine ⟨String.ofList p, String.ofList r, ?_, rfl⟩
  rw [← String.ofList_append, ← h, String.ofList_toList]

theorem exists_slice_of_mem_lexemes {source : String} {ds : List Char} {n : Nat}
    (h : ⟨.number ds, n⟩ ∈ lexemes 0 source.toList) :
    (⟨n⟩ : String.Pos.Raw).IsValid source ∧ (⟨n + ds.length⟩ : String.Pos.Raw).IsValid source ∧
      ∃ p r, source.toList = p ++ (ds ++ r) ∧ byteLength p = n := by
  obtain ⟨ys, zs, hs⟩ := List.append_of_mem h
  obtain ⟨p, w, r, hcs, hw, -, hpos⟩ := lexemes_split hs
  obtain ⟨rfl, -, hd⟩ := hw.word.of_number
  have hn : n = byteLength p := by rw [← Nat.zero_add (byteLength p), ← hpos]
  subst hn
  have hl := isValid_of_append (hcs.trans (List.append_assoc p w r).symm)
  rw [byteLength_append, byteLength_of_isNumeral hd] at hl
  exact ⟨isValid_of_append hcs, hl, p, r, hcs, rfl⟩

/-- Compiling any text uses its stacks, offsets and letters within their bounds, and a formula that
comes out of it is safe on any payload. -/
theorem compile_safe (source : String) :
    (∀ fault, compile source ≠ .error (.stackFault fault)) ∧
      (∀ ds n, ⟨.number ds, n⟩ ∈ lexemes 0 source.toList →
        (⟨n⟩ : String.Pos.Raw).IsValid source ∧ (⟨n + ds.length⟩ : String.Pos.Raw).IsValid source ∧
          ∃ p r, source.toList = p ++ (ds ++ r) ∧ byteLength p = n) ∧
      (∀ ys zs s, lexemes 0 source.toList = ys ++ zs → ys.foldlM Scan.step Scan.start = .ok s →
        s.letters ≤ 26) ∧
      ∀ f, compile source = .ok f → Safe f := by
  refine ⟨compile_ne_stackFault source, fun ds n => exists_slice_of_mem_lexemes, ?_,
    fun f => safe_of_compile⟩
  intro ys zs s hs hr
  obtain ⟨p, hp⟩ := Follows.start.run hr
  exact hp.letters_le hs

theorem compile_safe_product :
    compile "A*B" = .ok ⟨[.operand 0, .operand 1, .operator .mul], 2⟩ ∧
      Safe ⟨[.operand 0, .operand 1, .operator .mul], 2⟩ :=
  have h : compile "A*B" = .ok ⟨[.operand 0, .operand 1, .operator .mul], 2⟩ := by rfl
  ⟨h, (compile_safe "A*B").2.2.2 _ h⟩

end VehiclePid.Formula
