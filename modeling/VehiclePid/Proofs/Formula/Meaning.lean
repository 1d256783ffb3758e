import VehiclePid.Proofs.Formula.Compilation
import VehiclePid.Proofs.Formula.Evaluation

namespace VehiclePid.Formula

/-- A formula with the expression that it was compiled from. -/
structure Compiles (e : Expr) (f : Formula) : Prop where
  tokens_eq : f.tokens = e.postorder
  length_le : f.tokens.length ≤ tokenLimit
  mem_letters : ∀ j, j ∈ e.letters ↔ j < f.operands

namespace Compiles

variable {e : Expr} {f : Formula}

theorem isIdentity_eq (h : Compiles e f) : f.isIdentity = false := by
  have hl := e.length_postorder
  have hp := e.leaves_pos
  rw [isIdentity, h.tokens_eq, List.isEmpty_eq_false_iff]
  rintro hn
  rw [hn, List.length_nil] at hl
  omega

theorem needed_eq (h : Compiles e f) : f.needed = f.operands := by
  rw [needed, h.isIdentity_eq]
  rfl

theorem leaves_le (h : Compiles e f) : e.leaves ≤ 16 := by
  have hl := e.length_postorder
  have hf : e.postorder.length ≤ 32 := h.tokens_eq ▸ h.length_le
  omega

theorem exists_value (h : Compiles e f) {raw : List UInt8} (hr : f.operands ≤ raw.length) :
    ∃ v, e.value? raw = some v :=
  e.exists_value fun i hi => Nat.lt_of_lt_of_le ((h.mem_letters i).mp hi) hr

theorem evaluate_eq (h : Compiles e f) {raw : List UInt8} (hr : f.operands ≤ raw.length)
    {v : Binary .double} (hv : e.value? raw = some v) : f.evaluate raw = .ok v := by
  have hle : e.leaves ≤ tokenLimit := Nat.le_trans h.leaves_le (by decide)
  rw [evaluate, if_neg (by rw [h.needed_eq]; omega), h.isIdentity_eq, if_neg Bool.false_ne_true,
    h.tokens_eq, value_postorder e hv hle]
  rfl

end Compiles

theorem exists_compiles {source : String} {f : Formula}
    (hb : ∃ c ∈ source.toList, Text.isBlank c = false) (h : compile source = .ok f) :
    ∃ t : Tree .expr, Reads source.toList t.yield ∧ InOrder (letters t.yield) ∧
      Compiles t.toExpr f := by
  have hb : source.toList.all Text.isBlank = false := List.all_eq_false.mpr (by simpa using hb)
  obtain ⟨t, ht, ho, htok, hlen, hm⟩ := exists_tree_of_compileChars hb h
  exact ⟨t, ht, ho, htok, hlen, fun j => by rw [← t.letters_yield, hm]⟩

theorem eq_identity_of_compile {source : String} {f : Formula}
    (hb : source.toList.all Text.isBlank = true) (h : compile source = .ok f) : f = identity := by
  rw [compile, compileChars, hb] at h
  exact (Except.ok.inj h).symm

theorem identity_or_compiles {source : String} {f : Formula} (h : compile source = .ok f) :
    (source.toList.all Text.isBlank = true ∧ f = identity) ∨
      source.toList.all Text.isBlank = false ∧
        ∃ t : Tree .expr, Reads source.toList t.yield ∧ Compiles t.toExpr f := by
  cases hb : source.toList.all Text.isBlank with
  | true => exact .inl ⟨rfl, eq_identity_of_compile hb h⟩
  | false =>
    obtain ⟨c, hm, hc⟩ := List.all_eq_false.mp hb
    obtain ⟨t, ht, -, hf⟩ := exists_compiles ⟨c, hm, by simpa using hc⟩ h
    exact .inr ⟨rfl, t, ht, hf⟩

/-- The tokens of a compiled text are the postorder of its only parse tree, and its value is the
value of that tree. -/
theorem tokens_eq_postorder_of_compile {source : String} {f : Formula}
    (hb : ∃ c ∈ source.toList, Text.isBlank c = false) (h : compile source = .ok f) :
    ∃ t : Tree .expr, Reads source.toList t.yield ∧
      (∀ u : Tree .expr, Reads source.toList u.yield → u = t) ∧
      f.tokens = t.toExpr.postorder ∧
      ∀ raw : List UInt8, f.operands ≤ raw.length →
        ∃ v, t.toExpr.value? raw = some v ∧ f.evaluate raw = .ok v := by
  obtain ⟨t, ht, -, hc⟩ := exists_compiles hb h
  refine ⟨t, ht, fun u hu => Tree.yield_injective (hu.unique ht), hc.tokens_eq, ?_⟩
  intro raw hr
  obtain ⟨v, hv⟩ := hc.exists_value hr
  exact ⟨v, hv, hc.evaluate_eq hr hv⟩

theorem tokens_eq_postorder_of_compile_nested :
    (∃ c ∈ "A-(B-2) / .5".toList, Text.isBlank c = false) ∧
      compile "A-(B-2) / .5" = .ok ⟨[.operand 0, .operand 1, .literal (.ofNat 2), .operator .sub,
        .literal (.ofQuotient false 5 10), .operator .div, .operator .sub], 2⟩ ∧
      ∃ t : Tree .expr, Reads "A-(B-2) / .5".toList t.yield ∧
        (∀ u : Tree .expr, Reads "A-(B-2) / .5".toList u.yield → u = t) ∧
        [.operand 0, .operand 1, .literal (.ofNat 2), .operator .sub,
          .literal (.ofQuotient false 5 10), .operator .div, .operator .sub] =
          t.toExpr.postorder ∧
        ∀ raw : List UInt8, 2 ≤ raw.length →
          ∃ v, t.toExpr.value? raw = some v ∧
            evaluate ⟨[.operand 0, .operand 1, .literal (.ofNat 2), .operator .sub,
              .literal (.ofQuotient false 5 10), .operator .div, .operator .sub], 2⟩ raw = .ok v :=
  have hb : ∃ c ∈ "A-(B-2) / .5".toList, Text.isBlank c = false := ⟨'A', by decide, rfl⟩
  have h : compile "A-(B-2) / .5" = .ok ⟨[.operand 0, .operand 1, .literal (.ofNat 2),
    .operator .sub, .literal (.ofQuotient false 5 10), .operator .div, .operator .sub], 2⟩ := by rfl
  ⟨hb, h, tokens_eq_postorder_of_compile hb h⟩

end VehiclePid.Formula
