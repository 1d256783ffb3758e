import VehiclePid.Proofs.Formula.Completion
import VehiclePid.Proofs.Formula.Limits

namespace VehiclePid.Formula

def Explains (cs : List Char) : CompileError → Prop
  | .unexpectedToken position => ∃ p w r x, cs = p ++ (w ++ r) ∧ WordAt p w r x ∧
      byteLength p = position ∧ Extensible p ∧ ¬Extensible (p ++ w)
  | .unknownToken c position => ∃ p r, cs = p ++ c :: r ∧
      byteLength p = position ∧ Extensible p ∧ ¬Extensible (p ++ [c])
  | .unbalancedParens => (∃ p r, cs = p ++ ')' :: r ∧ IsFormula p) ∨
      ¬IsFormula cs ∧ ∃ k, 0 < k ∧ IsFormula (cs ++ List.replicate k ')')
  | .unexpectedEnd => ∃ k, IsFormula (cs ++ 'A' :: List.replicate k ')')
  | .nonContiguousOperand expected found => ∃ p r k, cs = p ++ found :: r ∧
      IsFormula (p ++ 'A' :: List.replicate k ')') ∧ 'A' ≤ expected ∧ expected ∉ p ∧
      (∀ c, 'A' ≤ c → c < expected → c ∈ p) ∧ expected < found ∧ found ≤ 'Z'
  | .invalidLiteral text => ∃ p r, cs = p ++ (text.toList ++ r) ∧
      WordAt p text.toList r (.number text.toList) ∧ Extensible p ∧
      ¬((∃ d ∈ text.toList, Decimal.isDigit d = true) ∧ text.toList.count '.' ≤ 1) ∧
      ∀ t, Cut text.toList t → ¬IsFormula (p ++ (text.toList ++ t))
  | .tokenOverflow limit => limit = 32 ∧ ∃ p r xs, cs = p ++ r ∧ Reads p xs ∧
      Extensible p ∧ Exceeds xs
  | .stackFault _ => False

theorem lt_iff_toNat_lt {c d : Char} : c < d ↔ c.toNat < d.toNat := UInt32.lt_iff_toNat_lt

namespace Follows

variable {n : Nat} {cs : List Char} {xs : List Lexeme} {p : Partial} {s : Scan}

theorem reads (h : Follows ((lexemes n cs).map Placed.lexeme) p s) :
    Reads cs ((lexemes n cs).map Placed.lexeme) :=
  reads_lexemes (not_unknown_mem_of_run h.run_eq)

theorem extensible (h : Follows xs p s) (hr : Reads cs xs) : Extensible cs :=
  extensible_of_run hr h.run_eq h.inOrder

theorem explains_early (h : Follows xs p s) (hr : Reads cs xs) (hp : p.operand = none) {c : Char}
    (hc : 'A' ≤ c ∧ c ≤ 'Z') (hi : s.letters < c.toNat - 65) (r : List Char) :
    Explains (cs ++ c :: r) (.nonContiguousOperand (letter s.letters) (letter (c.toNat - 65))) := by
  have hcap := capital_iff.mp hc
  have hl := toNat_letter s.letters (by omega)
  have hexp : 'A' ≤ letter s.letters ∧ letter s.letters ≤ 'Z' := capital_iff.mpr (by omega)
  rw [letter_index hc]
  refine ⟨cs, r, p.outer.length, rfl, isFormula_of_no_operand hr h.run_eq h.inOrder hp, hexp.1,
    ?_, ?_, lt_iff_toNat_lt.mpr (by omega), hc.2⟩
  · intro hm
    have hlt := (h.mem_letters _).mp ((hr.mem_letters _).mpr ⟨_, hm, hexp, rfl⟩)
    omega
  · intro d hd hlt
    have hle := lt_iff_toNat_lt.mp hlt
    have hcd : 'A' ≤ d ∧ d ≤ 'Z' := by
      have h65 : 65 ≤ d.toNat := UInt32.le_iff_toNat_le.mp hd
      exact capital_iff.mpr (by omega)
    have hd65 := capital_iff.mp hcd
    obtain ⟨e, hm, hce, hde⟩ :=
      (hr.mem_letters _).mp ((h.mem_letters (d.toNat - 65)).mpr (by omega))
    rwa [← letter_index hcd, hde, letter_index hce]

end Follows

theorem explains_full {a w r : List Char} {x : Lexeme} {p q : Partial} {s : Scan} {n : Nat}
    (hf : Follows ((lexemes 0 a).map Placed.lexeme) p s) (hw : WordAt a w r x)
    (hq : p.step x = some q) (hn : ∀ i, x = .letter i → i ≤ s.letters)
    (hfit : ¬(q.contents n).Fits) : Explains (a ++ (w ++ r)) (.tokenOverflow 32) := by
  have hl : lexemes 0 (a ++ w) = lexemes 0 a ++ [⟨x, 0 + byteLength a⟩] := by
    have hc := hw.cut []
    rw [List.append_nil] at hc
    rw [lexemes_append hc, hw.word.lexemes_eq]
  have hx : (lexemes 0 (a ++ w)).map Placed.lexeme = (lexemes 0 a).map Placed.lexeme ++ [x] := by
    rw [hl, List.map_append]
    rfl
  have hrun : Partial.start.run ((lexemes 0 a).map Placed.lexeme ++ [x]) = some q := by
    rw [Partial.run_append, hf.run_eq, Option.bind_some, Partial.run_singleton, hq]
  have hr : Reads (a ++ w) ((lexemes 0 a).map Placed.lexeme ++ [x]) := by
    rw [← hx] at hrun ⊢
    exact reads_lexemes (not_unknown_mem_of_run hrun)
  refine ⟨rfl, a ++ w, r, _, (List.append_assoc a w r).symm, hr, ?_, hf.exceeds_of_full hq hfit⟩
  exact extensible_of_run hr hrun (hf.inOrder_step hn)

theorem explains_of_verdict {cs : List Char} {ys : List Placed} {x : Placed} {zs : List Placed}
    {p : Partial} {s : Scan} {e : CompileError} (hs : lexemes 0 cs = ys ++ x :: zs)
    (hf : Follows (ys.map Placed.lexeme) p s) (hv : Verdict p s.letters x (.error e)) :
    Explains cs e := by
  obtain ⟨a, w, r, rfl, hw, rfl, hpos⟩ := lexemes_split hs
  have hr := hf.reads
  have hex := hf.extensible hr
  rw [Nat.zero_add] at hpos
  cases hv with
  | full hq hn hfit => exact explains_full hf hw hq hn hfit
  | misplaced hm =>
    exact ⟨a, w, r, _, rfl, hw, hpos.symm, hex, not_extensible_of_step hw hf.run_eq hm⟩
  | @unknown c hx =>
    rw [hx] at hw
    obtain rfl := hw.word.of_unknown
    refine ⟨a, r, rfl, hpos.symm, hex, not_extensible_of_step hw hf.run_eq fun y hy => ?_⟩
    rw [hy.eq_of_ne nofun]
    rfl
  | @illiterate ds hx hd =>
    rw [hx] at hw
    obtain ⟨rfl, -, hnum⟩ := hw.word.of_number
    have hlit : ¬((∃ d ∈ w, Decimal.isDigit d = true) ∧ w.count '.' ≤ 1) := by
      rw [← Decimal.literal?_isSome_iff (f := .double) fun d hm => isDigit_or_eq_point (hnum d hm),
        Numeral.ofText?_eq_none_iff.mp hd]
      exact Bool.false_ne_true
    refine ⟨a, r, by simp, by simpa using hw, hex, by simpa using hlit, ?_⟩
    rw [String.toList_ofList]
    rintro t hc ⟨u, hu, -⟩
    exact hlit (WordAt.number_of_reads ⟨hw.word, hw.cut t, hc⟩ hu)
  | early hx hp hi =>
    rw [hx] at hw
    obtain ⟨c, rfl, hc⟩ := hw.word.exists_symbol nofun nofun
    cases hc with
    | letter hc => exact hf.explains_early hr hp hc hi r
  | unopened hx ho hp =>
    rw [hx] at hw
    obtain ⟨c, rfl, hc⟩ := hw.word.exists_symbol nofun nofun
    cases hc
    refine .inl ⟨a, r, rfl, ?_⟩
    simpa [ho] using isFormula_of_operand hr hf.run_eq hf.inOrder (by simp [hp])
  | fullUnopened hx ho hp hfull =>
    exact ⟨rfl, a, w ++ r, _, rfl, hr, hex, hf.exceeds_of_close ho hp hfull⟩

theorem explains_of_ending {cs : List Char} {p : Partial} {s : Scan} {e : CompileError}
    (hf : Follows ((lexemes 0 cs).map Placed.lexeme) p s)
    (he : Ending p s.letters (.error e)) : Explains cs e := by
  have hr := hf.reads
  cases he with
  | unclosed ho hp =>
    refine .inr ⟨?_, p.outer.length, List.length_pos_iff.mpr ho, ?_⟩
    · intro h
      obtain ⟨u, f, hu⟩ := run_of_isFormula hr h
      rw [hf.run_eq] at hu
      cases hu
      exact ho rfl
    · exact isFormula_of_operand hr hf.run_eq hf.inOrder (by simp [hp])
  | unfinished hp => exact ⟨_, isFormula_of_no_operand hr hf.run_eq hf.inOrder hp⟩
  | full hp hfull =>
    exact ⟨rfl, cs, [], _, (List.append_nil cs).symm, hr, hf.extensible hr,
      hf.exceeds_of_release hp hfull⟩

/-- A refused text is refused at the first place where it can no longer become a formula, at its end
or at a limit. -/
theorem explains_of_compile_eq_error {source : String} {e : CompileError}
    (h : compile source = .error e) : Explains source.toList e := by
  obtain ⟨ys, x, zs, p, s, hs, hf, hv⟩ | ⟨p, s, hf, he⟩ := exists_verdict_of_compileChars h
  · exact explains_of_verdict hs hf hv
  · exact explains_of_ending hf he

theorem explains_of_compile_eq_error_juxtaposed :
    compile "(A+B C" = .error (.unexpectedToken 5) ∧
      Explains "(A+B C".toList (.unexpectedToken 5) :=
  have h : compile "(A+B C" = .error (.unexpectedToken 5) := by rfl
  ⟨h, explains_of_compile_eq_error h⟩

end VehiclePid.Formula
