import VehiclePid.Proofs.Formula.Completeness
import VehiclePid.Proofs.Formula.Meaning

namespace VehiclePid.Formula

def capitals (cs : List Char) : List Char := (cs.filter fun c => 'A' ≤ c ∧ c ≤ 'Z').dedup

variable {source : String} {f : Formula}

theorem isIdentity_of_compile (h : compile source = .ok f) :
    f.isIdentity = source.toList.all Text.isBlank := by
  obtain ⟨hb, rfl⟩ | ⟨hb, t, -, hf⟩ := identity_or_compiles h
  · exact hb.symm
  · rw [hb, hf.isIdentity_eq]

theorem mem_capitals {cs : List Char} {c : Char} :
    c ∈ capitals cs ↔ c ∈ cs ∧ 'A' ≤ c ∧ c ≤ 'Z' := by
  simp [capitals]

theorem length_capitals {cs : List Char} {n : Nat}
    (h : ∀ i, (∃ c ∈ cs, ('A' ≤ c ∧ c ≤ 'Z') ∧ i = c.toNat - 65) ↔ i < n) :
    (capitals cs).length = n := by
  have hinj : ∀ c ∈ capitals cs, ∀ d ∈ capitals cs, c.toNat - 65 = d.toNat - 65 → c = d := by
    intro c hc d hd he
    rw [← letter_index (mem_capitals.mp hc).2, ← letter_index (mem_capitals.mp hd).2, he]
  have hnodup : ((capitals cs).map fun c => c.toNat - 65).Nodup :=
    (List.nodup_dedup _).map_on hinj
  have hmem : ∀ i, i ∈ (capitals cs).map (fun c => c.toNat - 65) ↔ i < n := by
    intro i
    rw [← h, List.mem_map]
    constructor
    · rintro ⟨c, hc, rfl⟩
      exact ⟨c, (mem_capitals.mp hc).1, (mem_capitals.mp hc).2, rfl⟩
    · rintro ⟨c, hc, hcap, rfl⟩
      exact ⟨c, mem_capitals.mpr ⟨hc, hcap⟩, rfl⟩
  have hlen := length_dedup_of_mem_iff hmem
  rwa [hnodup.dedup, List.length_map] at hlen

theorem operands_of_compile (hb : source.toList.all Text.isBlank = false)
    (h : compile source = .ok f) : f.operands = (capitals source.toList).length := by
  obtain ⟨ht, -⟩ | ⟨-, t, ht, hf⟩ := identity_or_compiles h
  · exact absurd ht (Bool.eq_false_iff.mp hb)
  refine (length_capitals fun i => ?_).symm
  rw [← ht.mem_letters, t.letters_yield, hf.mem_letters]

example : capitals "(B*A-B) / 2".toList = ['A', 'B'] := by decide

end VehiclePid.Formula
