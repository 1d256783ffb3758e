import VehiclePid.Proofs.Decimal.Reading
import VehiclePid.Proofs.Formula.Meaning
import VehiclePid.Proofs.Formula.Spelling

namespace VehiclePid

namespace Token

/-- The tokens that a text can spell. A number is spelled without a sign. -/
def Spelled : Token → Prop
  | operand index => index < 26
  | literal value => value.negative = false ∧ value ≠ .nan
  | operator _ => True

def ofWord (word : List Char) : Token :=
  match word.head?.map Formula.Lexeme.ofChar with
  | some (.letter index) => operand index
  | some (.operator op) => operator op
  | _ => literal (Decimal.read word)

theorem ofWord_eq_literal {word : List Char}
    (h : ∀ c ∈ word.head?, Formula.Lexeme.ofChar c = .unknown c) :
    ofWord word = literal (Decimal.read word) := by
  cases word with
  | nil => rfl
  | cons c word => simp only [ofWord, List.head?_cons, Option.map_some, h c rfl]

theorem ofWord_render {t : Token} (ht : t.Spelled) : ofWord t.render.toList = t := by
  cases t with
  | operand index =>
    have hl : Formula.Lexeme.ofChar (letter index) = .letter index :=
      (Formula.symbol_letter ht).ofChar_eq
    simp only [ofWord, render, String.toList_ofList, List.head?_cons, Option.map_some, hl]
  | literal value =>
    have hhead : ∀ c ∈ (Decimal.Layout.plain.render value).toList.head?,
        Formula.Lexeme.ofChar c = .unknown c := by
      intro c hc
      obtain h | h := Decimal.render_eq_or ht
      · rw [h] at hc
        cases hc
        rfl
      · apply Formula.ofChar_of_isNumeral
        simpa [Formula.isNumeral] using h c (List.mem_of_mem_head? hc)
    rw [render, ofWord_eq_literal hhead, Decimal.read_render ht]
  | operator op => cases op <;> rfl

theorem not_mem_render {t : Token} (ht : t.Spelled) {c : Char} (hc : c = ' ' ∨ c = '<') :
    c ∉ t.render.toList := by
  intro hm
  cases t with
  | operand index =>
    have hlt : c.toNat < 65 := by obtain rfl | rfl := hc <;> decide
    obtain rfl : c = letter index := by simpa [render] using hm
    rw [Formula.toNat_letter index ht] at hlt
    omega
  | literal value =>
    obtain h | h := Decimal.render_eq_or ht
    · rw [render, h] at hm
      obtain rfl | rfl := hc <;> exact absurd hm (by decide)
    · have hd := h c hm
      obtain rfl | rfl := hc <;> exact absurd hd (by decide)
  | operator op => obtain rfl | rfl := hc <;> cases op <;> exact absurd hm (by decide)

end Token

namespace Formula

def read (cs : List Char) : List Token :=
  if cs = "<identity>".toList then [] else (cs.splitOn ' ').map Token.ofWord

variable {f : Formula}

theorem splitOn_render (hf : f.isIdentity = false) (h : ∀ t ∈ f.tokens, t.Spelled) :
    f.render.toList.splitOn ' ' = f.tokens.map fun t => t.render.toList := by
  have hne : f.tokens.map (fun t => t.render.toList) ≠ [] := by
    simpa [isIdentity] using hf
  have htext : f.render.toList = [' '].intercalate (f.tokens.map fun t => t.render.toList) := by
    rw [render, if_neg (by simp [hf]), String.toList_intercalate, List.map_map]
    rfl
  rw [htext]
  refine List.splitOn_intercalate ' ' ?_ hne
  simp only [List.forall_mem_map]
  exact fun t ht => Token.not_mem_render (h t ht) (.inl rfl)

theorem read_render (h : ∀ t ∈ f.tokens, t.Spelled) : read f.render.toList = f.tokens := by
  cases hf : f.isIdentity with
  | true =>
    rw [render, if_pos hf, read, if_pos rfl]
    exact (List.isEmpty_iff.mp hf).symm
  | false =>
    have hsplit := splitOn_render hf h
    have hne : f.render.toList ≠ "<identity>".toList := by
      intro he
      have hword : "<identity>".toList ∈ f.tokens.map fun t => t.render.toList := by
        rw [← hsplit, he]
        decide
      obtain ⟨t, ht, hr⟩ := List.mem_map.mp hword
      apply Token.not_mem_render (h t ht) (.inr rfl)
      rw [hr]
      decide
    rw [read, if_neg hne, hsplit, List.map_map]
    refine (List.map_congr_left fun t ht => ?_).trans (List.map_id f.tokens)
    exact Token.ofWord_render (h t ht)

theorem Expr.spelled_of_mem_postorder {e : Expr} (h : ∀ i ∈ e.letters, i < 26) :
    ∀ t ∈ e.postorder, t.Spelled := by
  induction e with
  | letter i => simpa [postorder, letters, Token.Spelled] using h
  | literal n => simpa [postorder, Token.Spelled] using Decimal.unsigned_of_literal? n.reads
  | binary op l r ihl ihr =>
    rw [letters, List.forall_mem_append] at h
    simp only [postorder, List.forall_mem_append, List.forall_mem_singleton]
    exact ⟨⟨ihl h.1, ihr h.2⟩, trivial⟩

variable {g : Formula} {s t : String}

theorem spelled_of_compile (h : compile s = .ok f) : ∀ t ∈ f.tokens, t.Spelled := by
  obtain ⟨-, rfl⟩ | ⟨-, u, hu, hf⟩ := identity_or_compiles h
  · exact nofun
  · rw [hf.tokens_eq]
    apply Expr.spelled_of_mem_postorder
    intro i hi
    rw [← u.letters_yield] at hi
    exact hu.lt_of_mem_letters hi

theorem operand_mem_of_compile (h : compile s = .ok f) (i : Nat) :
    .operand i ∈ f.tokens ↔ i < f.operands := by
  obtain ⟨-, rfl⟩ | ⟨-, u, -, hf⟩ := identity_or_compiles h
  · simp [identity]
  · rw [hf.tokens_eq, Expr.operand_mem_postorder, hf.mem_letters]

/-- Compiled formulas that are written alike are the same, whatever texts they come from. Their
literals have no sign and are no NaN. -/
theorem eq_of_render_eq (hf : compile s = .ok f) (hg : compile t = .ok g) :
    (∀ v, .literal v ∈ f.tokens → v.negative = false ∧ v ≠ .nan) ∧
      (f.render = g.render → f = g ∧ ∀ raw, f.evaluate raw = g.evaluate raw) := by
  have hsf := spelled_of_compile hf
  refine ⟨fun v hv => hsf _ hv, ?_⟩
  intro h
  have htok : f.tokens = g.tokens := by
    rw [← read_render hsf, h, read_render (spelled_of_compile hg)]
  have hops : f.operands = g.operands := by
    apply eq_of_forall_lt_iff
    intro i
    rw [← operand_mem_of_compile hf, htok, operand_mem_of_compile hg]
  obtain ⟨tokens, operands⟩ := f
  obtain rfl : tokens = g.tokens := htok
  obtain rfl : operands = g.operands := hops
  exact ⟨rfl, fun raw => rfl⟩

theorem eq_of_render_eq_respaced :
    compile "A*.50" =
        .ok ⟨[.operand 0, .literal (.ofQuotient false 50 100), .operator .mul], 1⟩ ∧
      compile " (A) * 00.5" =
        .ok ⟨[.operand 0, .literal (.ofQuotient false 5 10), .operator .mul], 1⟩ ∧
      render ⟨[.operand 0, .literal (.ofQuotient false 50 100), .operator .mul], 1⟩ =
        render ⟨[.operand 0, .literal (.ofQuotient false 5 10), .operator .mul], 1⟩ ∧
      (⟨[.operand 0, .literal (.ofQuotient false 50 100), .operator .mul], 1⟩ : Formula) =
        ⟨[.operand 0, .literal (.ofQuotient false 5 10), .operator .mul], 1⟩ := by
  have hf : compile "A*.50" =
    .ok ⟨[.operand 0, .literal (.ofQuotient false 50 100), .operator .mul], 1⟩ := by rfl
  have hg : compile " (A) * 00.5" =
    .ok ⟨[.operand 0, .literal (.ofQuotient false 5 10), .operator .mul], 1⟩ := by rfl
  have hr : render ⟨[.operand 0, .literal (.ofQuotient false 50 100), .operator .mul], 1⟩ =
    render ⟨[.operand 0, .literal (.ofQuotient false 5 10), .operator .mul], 1⟩ := by rfl
  exact ⟨hf, hg, hr, ((eq_of_render_eq hf hg).2 hr).1⟩

end Formula

end VehiclePid
