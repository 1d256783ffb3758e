import Mathlib.Data.List.Sort
import VehiclePid.Dictionary

namespace VehiclePid.Dictionary

variable {α : Type} {d e : Dictionary α} {key k : String} {a b : α}

theorem lookup_cons (k : String) (x : String × α) (r : List (String × α)) :
    (x :: r).lookup k = if k = x.1 then some x.2 else r.lookup k := by
  rw [List.lookup_cons]
  by_cases h : k = x.1
  · rw [beq_iff_eq.mpr h, if_pos h]
  · rw [beq_eq_false_iff_ne.mpr h, if_neg h]

theorem lookup_insertEntry (key k : String) (a : α) (es : List (String × α)) :
    (insertEntry key a es).lookup k = if k = key then some a else es.lookup k := by
  induction es with
  | nil => rw [insertEntry, lookup_cons]
  | cons x r ih =>
    unfold insertEntry
    split
    · rw [lookup_cons]
    · rename_i hk
      split
      · rename_i hx
        have hne : x.1 ≠ key := fun he => String.lt_irrefl key (he ▸ hx)
        rw [lookup_cons, lookup_cons, ih]
        by_cases h : k = x.1
        · simp [h, hne]
        · simp [h]
      · rename_i hx
        have he : key = x.1 := String.le_antisymm (String.not_lt.mp hx) (String.not_lt.mp hk)
        rw [lookup_cons, lookup_cons, he]
        by_cases h : k = x.1 <;> simp [h]

theorem get?_insert (d : Dictionary α) (key k : String) (a : α) :
    (d.insert key a).get? k = if k = key then some a else d.get? k :=
  lookup_insertEntry key k a d.entries

theorem mem_of_lookup {es : List (String × α)} (h : es.lookup k = some a) : (k, a) ∈ es := by
  obtain ⟨l, r, rfl, -⟩ := List.lookup_eq_some_iff.mp h
  simp

theorem lookup_of_mem {es : List (String × α)} (hs : es.Pairwise fun x y => x.1 < y.1)
    (h : (k, a) ∈ es) : es.lookup k = some a := by
  obtain ⟨l, r, rfl⟩ := List.append_of_mem h
  refine List.lookup_eq_some_iff.mpr ⟨l, r, rfl, fun p hp => ?_⟩
  have hlt : p.1 < k := (List.pairwise_append.mp hs).2.2 p hp (k, a) List.mem_cons_self
  rw [bne_iff_ne]
  rintro rfl
  exact String.lt_irrefl p.1 hlt

theorem mem_entries_iff : (k, a) ∈ d.entries ↔ d.get? k = some a :=
  ⟨lookup_of_mem d.sorted, mem_of_lookup⟩

theorem ext_get? (h : ∀ k, d.get? k = e.get? k) : d = e := by
  have : Std.Irrefl fun x y : String × α => x.1 < y.1 := ⟨fun x => String.lt_irrefl x.1⟩
  have : Std.Antisymm fun x y : String × α => x.1 < y.1 :=
    ⟨fun x y hxy hyx => absurd (String.lt_trans hxy hyx) (String.lt_irrefl x.1)⟩
  apply eq_of_entries_eq
  apply List.Pairwise.eq_of_mem_iff d.sorted e.sorted
  rintro ⟨k, a⟩
  rw [mem_entries_iff, mem_entries_iff, h]

end VehiclePid.Dictionary
