namespace VehiclePid

structure Dictionary (α : Type) where
  entries : List (String × α)
  sorted : entries.Pairwise fun x y => x.1 < y.1

namespace Dictionary

variable {α : Type}

theorem eq_of_entries_eq {d e : Dictionary α} (h : d.entries = e.entries) : d = e := by
  obtain ⟨entries, sorted⟩ := d
  cases h
  rfl

instance [DecidableEq α] : DecidableEq (Dictionary α) := fun d e =>
  decidable_of_iff (d.entries = e.entries) ⟨eq_of_entries_eq, congrArg entries⟩

def empty : Dictionary α := ⟨[], .nil⟩

/-- Puts an entry in its place, instead of the one with its key. -/
def insertEntry (key : String) (a : α) : List (String × α) → List (String × α)
  | [] => [(key, a)]
  | x :: r =>
    if key < x.1 then (key, a) :: x :: r
    else if x.1 < key then x :: insertEntry key a r
    else (key, a) :: r

theorem mem_insertEntry {key : String} {a : α} {es : List (String × α)} {x : String × α}
    (h : x ∈ insertEntry key a es) : x = (key, a) ∨ x ∈ es := by
  induction es with
  | nil => simpa [insertEntry] using h
  | cons e r ih => grind [insertEntry]

theorem sorted_insertEntry {key : String} {a : α} {es : List (String × α)}
    (h : es.Pairwise fun x y => x.1 < y.1) :
    (insertEntry key a es).Pairwise fun x y => x.1 < y.1 := by
  induction es with
  | nil => simp [insertEntry]
  | cons e r ih =>
    obtain ⟨he, hr⟩ := List.pairwise_cons.1 h
    unfold insertEntry
    split
    · next hk =>
      refine List.pairwise_cons.2 ⟨fun y hy => ?_, h⟩
      rcases List.mem_cons.1 hy with rfl | hy
      · exact hk
      · exact String.lt_trans hk (he y hy)
    · split
      · next hk =>
        refine List.pairwise_cons.2 ⟨fun y hy => ?_, ih hr⟩
        rcases mem_insertEntry hy with rfl | hy
        · exact hk
        · exact he y hy
      · next hk hk' =>
        have heq : key = e.1 := String.le_antisymm (String.not_lt.1 hk') (String.not_lt.1 hk)
        exact List.pairwise_cons.2 ⟨fun y hy => heq ▸ he y hy, hr⟩

def insert (d : Dictionary α) (key : String) (a : α) : Dictionary α :=
  ⟨insertEntry key a d.entries, sorted_insertEntry d.sorted⟩

def get? (d : Dictionary α) (key : String) : Option α := d.entries.lookup key

/-- Of entries with one key the last stays. -/
def ofList (es : List (String × α)) : Dictionary α :=
  es.foldl (fun d x => d.insert x.1 x.2) empty

end Dictionary

end VehiclePid
