import Mathlib.Data.List.Forall2
import Mathlib.Data.List.Nodup
import Mathlib.Data.List.Perm.Subperm
import VehiclePid.Key

namespace VehiclePid

variable {α β : Type} {key : α → Key} {key' : β → Key} {xs : List α} {ys : List β} {k : Key}

theorem Key.length_le_of_nodup {keys : List Key} (h : keys.Nodup) : keys.length ≤ 65536 := by
  have hn : (keys.map Key.rank).Nodup := h.map fun _ _ => Key.rank_injective
  have hs : keys.map Key.rank ⊆ List.range 65536 := by
    intro n hn
    obtain ⟨k, -, rfl⟩ := List.mem_map.mp hn
    have hm := k.mode.toNat_lt
    have hp := k.pid.toNat_lt
    rw [List.mem_range, rank]
    omega
  have hl := (List.subperm_of_subset hn hs).length_le
  rwa [List.length_map, List.length_range] at hl

theorem find?_key_eq_some_iff (hn : (xs.map key).Nodup) {a : α} :
    xs.find? (key · == k) = some a ↔ a ∈ xs ∧ key a = k := by
  constructor
  · intro h
    exact ⟨List.mem_of_find?_eq_some h, by simpa using List.find?_some h⟩
  · rintro ⟨ha, rfl⟩
    cases hf : xs.find? (key · == key a) with
    | none => exact absurd (List.find?_eq_none.mp hf a ha) (by simp)
    | some b =>
      have hk : key b = key a := by simpa using List.find?_some hf
      exact congrArg some (List.inj_on_of_nodup_map hn (List.mem_of_find?_eq_some hf) ha hk)

def sortBy (key : α → Key) (xs : List α) : List α :=
  xs.mergeSort fun a b => (key a).rank ≤ (key b).rank

theorem sortBy_perm (key : α → Key) (xs : List α) : (sortBy key xs).Perm xs :=
  List.mergeSort_perm xs _

theorem pairwise_sortBy (key : α → Key) (xs : List α) :
    (sortBy key xs).Pairwise fun a b => (key a).rank ≤ (key b).rank := by
  have h : (sortBy key xs).Pairwise fun a b => decide ((key a).rank ≤ (key b).rank) = true := by
    apply List.pairwise_mergeSort
    · intro a b c hab hbc
      exact decide_eq_true (Nat.le_trans (of_decide_eq_true hab) (of_decide_eq_true hbc))
    · intro a b
      simpa using Nat.le_total (key a).rank (key b).rank
  exact h.imp of_decide_eq_true

theorem pairwise_map_sortBy (key : α → Key) (xs : List α) :
    ((sortBy key xs).map key).Pairwise fun k l => k.rank ≤ l.rank :=
  List.pairwise_map.mpr (pairwise_sortBy key xs)

theorem pairwise_lt_sortBy (hn : (xs.map key).Nodup) :
    (sortBy key xs).Pairwise fun a b => (key a).rank < (key b).rank := by
  have hs := ((sortBy_perm key xs).map key).nodup_iff.mpr hn
  refine ((pairwise_sortBy key xs).and (List.pairwise_map.mp hs)).imp fun ⟨hle, hne⟩ => ?_
  exact Nat.lt_of_le_of_ne hle fun he => hne (Key.rank_injective he)

theorem sortBy_eq_of_perm {ys : List α} (hn : (xs.map key).Nodup) (h : xs.Perm ys) :
    sortBy key xs = sortBy key ys := by
  have hs := ((sortBy_perm key xs).trans h).trans (sortBy_perm key ys).symm
  refine List.Perm.eq_of_pairwise ?_ (pairwise_sortBy key xs) (pairwise_sortBy key ys) hs
  intro a b ha hb hab hba
  have ha := (sortBy_perm key xs).mem_iff.mp ha
  have hb := h.mem_iff.mpr ((sortBy_perm key ys).mem_iff.mp hb)
  exact List.inj_on_of_nodup_map hn ha hb (Key.rank_injective (Nat.le_antisymm hab hba))

theorem map_sortBy_eq_of_perm (h : (xs.map key).Perm (ys.map key')) :
    (sortBy key xs).map key = (sortBy key' ys).map key' := by
  have hp := (((sortBy_perm key xs).map key).trans h).trans ((sortBy_perm key' ys).map key').symm
  refine List.Perm.eq_of_pairwise ?_ (pairwise_map_sortBy key xs) (pairwise_map_sortBy key' ys) hp
  intro k l _ _ hkl hlk
  exact Key.rank_injective (Nat.le_antisymm hkl hlk)

theorem exists_right_of_mem {R : α → β → Prop} (h : List.Forall₂ R xs ys) {a : α} (ha : a ∈ xs) :
    ∃ b ∈ ys, R a b := by
  induction h with
  | nil => cases ha
  | @cons x y _ _ hxy _ ih =>
    obtain rfl | ha := List.mem_cons.mp ha
    · exact ⟨y, List.mem_cons_self, hxy⟩
    · obtain ⟨b, hb, hab⟩ := ih ha
      exact ⟨b, List.mem_cons_of_mem y hb, hab⟩

end VehiclePid
