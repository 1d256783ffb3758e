namespace VehiclePid

/-- The first element pushed lies in slot 0, so the occupied slots read from the oldest element to the
newest. Slots above the height keep old values. -/
structure Stack (α : Type) (capacity : Nat) where
  slots : Vector α capacity
  height : Nat
  height_le : height ≤ capacity

namespace Stack

variable {α : Type} {capacity : Nat}

/-- What goes wrong when a caller ignores the bounds. The stack is then as it was. -/
inductive Fault
  | overflow (capacity : Nat)
  | underflow
  deriving DecidableEq, Repr

def Fault.message : Fault → String
  | overflow capacity => s!"token stack overflow (capacity {capacity})"
  | underflow => "token stack underflow"

def empty [Inhabited α] : Stack α capacity := ⟨Vector.replicate capacity default, 0, Nat.zero_le _⟩

def toList (s : Stack α capacity) : List α := s.slots.toList.take s.height

def isEmpty (s : Stack α capacity) : Bool := s.height == 0

def isFull (s : Stack α capacity) : Bool := s.height == capacity

def push (s : Stack α capacity) (a : α) : Except Fault (Stack α capacity) :=
  if h : s.height < capacity then .ok ⟨s.slots.set s.height a, s.height + 1, h⟩
  else .error (.overflow capacity)

def pop (s : Stack α capacity) : Except Fault (α × Stack α capacity) :=
  if h : 0 < s.height then
    have := s.height_le
    .ok (s.slots[s.height - 1], ⟨s.slots, s.height - 1, by omega⟩)
  else .error .underflow

def peek? (s : Stack α capacity) : Option α :=
  if h : 0 < s.height then
    have := s.height_le
    some s.slots[s.height - 1]
  else none

def clear (s : Stack α capacity) : Stack α capacity := ⟨s.slots, 0, Nat.zero_le _⟩

@[simp] theorem length_toList (s : Stack α capacity) : s.toList.length = s.height := by
  have := s.height_le
  simp [toList]
  omega

theorem isEmpty_toList (s : Stack α capacity) : s.toList.isEmpty = s.isEmpty := by
  rw [isEmpty, ← length_toList]
  cases s.toList <;> rfl

theorem peek?_eq_getLast? (s : Stack α capacity) : s.peek? = s.toList.getLast? := by
  have := s.height_le
  unfold peek?
  split
  · rename_i h
    rw [List.getLast?_eq_getElem?, length_toList]
    simp [toList, List.getElem?_take]
    omega
  · rename_i h
    have h0 : s.height = 0 := by omega
    simp [toList, h0]

theorem exists_push (s : Stack α capacity) (a : α) (h : s.height < capacity) :
    ∃ t, s.push a = .ok t ∧ t.toList = s.toList ++ [a] := by
  refine ⟨_, dif_pos h, ?_⟩
  apply List.ext_getElem?
  intro i
  simp only [toList, Vector.toList_set, List.getElem?_take, List.getElem?_set,
    List.getElem?_append, List.length_take, Vector.length_toList]
  grind

theorem toList_eq_concat (s : Stack α capacity) (h : 0 < s.height) :
    have := s.height_le
    s.toList = s.slots.toList.take (s.height - 1) ++ [s.slots[s.height - 1]] := by
  intro _
  obtain ⟨n, hn⟩ : ∃ n, s.height = n + 1 := ⟨s.height - 1, by omega⟩
  simp [toList, hn, List.take_add_one]

theorem exists_pop (s : Stack α capacity) {xs : List α} {a : α} (h : s.toList = xs ++ [a]) :
    ∃ t, s.pop = .ok (a, t) ∧ t.toList = xs := by
  have hp : 0 < s.height := by rw [← length_toList, h]; simp
  have hc := (s.toList_eq_concat hp).symm.trans h
  obtain ⟨hx, ha⟩ := List.append_inj' hc rfl
  refine ⟨⟨s.slots, s.height - 1, by have := s.height_le; omega⟩, ?_, hx⟩
  simp only [List.cons.injEq, and_true] at ha
  simp [pop, hp, ha]

end Stack

end VehiclePid
