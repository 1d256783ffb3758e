import Mathlib.Data.List.DropRight
import VehiclePid.Text.Character

namespace VehiclePid.Text

variable {s t : List Char}

/-- `t` is what is left of `s` without the white space at its ends. -/
structure Trims (s t : List Char) : Prop where
  exists_ends : ∃ l r, s = l ++ (t ++ r) ∧ (∀ c ∈ l, isBlank c = true) ∧ ∀ c ∈ r, isBlank c = true
  head_not_blank : ∀ c ∈ t.head?, isBlank c = false
  last_not_blank : ∀ c ∈ t.getLast?, isBlank c = false

theorem Trims.eq_trimChars (h : Trims s t) : t = trimChars s := by
  have drop : ∀ u v w : List Char, (∀ c ∈ u, isBlank c = true) → v ≠ [] →
      (∀ c ∈ v.head?, isBlank c = false) → (u ++ (v ++ w)).dropWhile isBlank = v ++ w := by
    intro u v w hu hv hhead
    obtain ⟨c, v, rfl⟩ := List.exists_cons_of_ne_nil hv
    have hc : ¬isBlank c = true := by simpa using hhead c rfl
    rw [List.dropWhile_append_of_pos hu, List.cons_append, List.dropWhile_cons_of_neg hc]
  obtain ⟨⟨l, r, rfl, hl, hr⟩, hhead, hlast⟩ := h
  by_cases ht : t = []
  · subst ht
    have hall : ∀ c ∈ l ++ ([] ++ r), isBlank c = true := by
      rw [List.nil_append, List.forall_mem_append]
      exact ⟨hl, hr⟩
    exact (trimChars_of_all_blank hall).symm
  · have hback := drop r.reverse t.reverse [] (fun c hc => hr c (List.mem_reverse.mp hc))
      (by simpa using ht) fun c hc => hlast c (by simpa using hc)
    rw [trimChars, drop l t r hl ht hhead, List.reverse_append, ← List.append_nil t.reverse, hback,
      List.append_nil, List.reverse_reverse]

theorem trims_trimChars (s : List Char) : Trims s (trimChars s) := by
  -- what is trimmed is a prefix of what the first scan leaves
  have hsplit : s.dropWhile isBlank = trimChars s ++ (s.dropWhile isBlank).rtakeWhile isBlank :=
    (List.rdropWhile_append_rtakeWhile (p := isBlank) (l := s.dropWhile isBlank)).symm
  refine ⟨⟨s.takeWhile isBlank, (s.dropWhile isBlank).rtakeWhile isBlank, ?_,
    fun c hc => List.mem_takeWhile_imp hc, fun c hc => List.mem_rtakeWhile_imp hc⟩, ?_, ?_⟩
  · rw [← hsplit, List.takeWhile_append_dropWhile]
  · intro c hc
    have hhead : (s.dropWhile isBlank).head? = some c := by
      rw [hsplit, List.head?_append, Option.mem_def.mp hc, Option.some_or]
    have hn := List.head?_dropWhile_not isBlank s
    rwa [hhead] at hn
  · intro c hc
    have hn := List.head?_dropWhile_not isBlank (s.dropWhile isBlank).reverse
    rw [trimChars, List.getLast?_reverse] at hc
    rwa [Option.mem_def.mp hc] at hn

theorem trims_iff : Trims s t ↔ t = trimChars s := by
  constructor
  · exact Trims.eq_trimChars
  · rintro rfl
    exact trims_trimChars s

theorem trims_of_no_blank (h : ∀ c ∈ s, isBlank c = false) : Trims s s where
  exists_ends := ⟨[], [], by simp, nofun, nofun⟩
  head_not_blank c hc := h c (List.mem_of_mem_head? hc)
  last_not_blank c hc := h c (List.mem_of_mem_getLast? hc)

end VehiclePid.Text
