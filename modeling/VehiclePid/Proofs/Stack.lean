import VehiclePid.Stack

namespace VehiclePid.Stack

variable {α : Type} {capacity : Nat}

inductive Call (α : Type)
  | push (a : α)
  | pop
  | peek
  | clear

inductive Reply (α : Type)
  | done
  | popped (a : α)
  | peeked (a : Option α)
  | refused (fault : Fault)

structure View (α : Type) where
  elements : List α
  length : Nat
  isEmpty : Bool
  isFull : Bool

def view (s : Stack α capacity) : View α := ⟨s.toList, s.height, s.isEmpty, s.isFull⟩

/-- A call that is refused leaves the stack as it was. -/
def call (s : Stack α capacity) : Call α → Reply α × Stack α capacity
  | .push a =>
    match s.push a with
    | .ok t => (.done, t)
    | .error e => (.refused e, s)
  | .pop =>
    match s.pop with
    | .ok (a, t) => (.popped a, t)
    | .error e => (.refused e, s)
  | .peek => (.peeked s.peek?, s)
  | .clear => (.done, s.clear)

/-- The replies to calls made one after the other, each with what shows after it. -/
def shown {σ : Type} (call : σ → Call α → Reply α × σ) (view : σ → View α) (s : σ) :
    List (Call α) → List (Reply α × View α)
  | [] => []
  | c :: cs => ((call s c).1, view (call s c).2) :: shown call view (call s c).2 cs

namespace Bounded

def view (capacity : Nat) (xs : List α) : View α :=
  ⟨xs, xs.length, xs.isEmpty, decide (xs.length = capacity)⟩

/-- A call on a list that may hold `capacity` elements. The newest stands last. -/
def call (capacity : Nat) (xs : List α) : Call α → Reply α × List α
  | .push a =>
    if xs.length = capacity then (.refused (.overflow capacity), xs) else (.done, xs ++ [a])
  | .pop =>
    match xs.getLast? with
    | some a => (.popped a, xs.dropLast)
    | none => (.refused .underflow, xs)
  | .peek => (.peeked xs.getLast?, xs)
  | .clear => (.done, [])

end Bounded

theorem push_eq_error_iff {s : Stack α capacity} {a : α} {e : Fault} :
    s.push a = .error e ↔ s.toList.length = capacity ∧ e = .overflow capacity := by
  have hle := s.height_le
  rw [length_toList]
  by_cases h : s.height < capacity
  · simp [push, h]
    omega
  · have hc : s.height = capacity := by omega
    simp [push, hc, eq_comm]

theorem pop_eq_error_iff {s : Stack α capacity} {e : Fault} :
    s.pop = .error e ↔ s.toList.length = 0 ∧ e = .underflow := by
  rw [length_toList]
  by_cases h : 0 < s.height
  · simp [pop, h]
    omega
  · have h0 : s.height = 0 := by omega
    simp [pop, h0, eq_comm]

theorem toList_of_push {s t : Stack α capacity} {a : α} (h : s.push a = .ok t) :
    t.toList = s.toList ++ [a] := by
  by_cases hlt : s.height < capacity
  · obtain ⟨u, hu, hl⟩ := s.exists_push a hlt
    rw [h] at hu
    cases hu
    exact hl
  · have he : s.push a = .error (.overflow capacity) := dif_neg hlt
    rw [h] at he
    cases he

theorem toList_of_pop {s t : Stack α capacity} {a : α} (h : s.pop = .ok (a, t)) :
    s.toList = t.toList ++ [a] := by
  obtain hn | ⟨xs, b, hl⟩ := List.eq_nil_or_concat s.toList
  · have he := (pop_eq_error_iff (s := s)).mpr ⟨by rw [hn]; rfl, rfl⟩
    rw [h] at he
    cases he
  · rw [List.concat_eq_append] at hl
    obtain ⟨u, hu, hx⟩ := s.exists_pop hl
    rw [h] at hu
    cases hu
    rw [hl, hx]

theorem view_eq (s : Stack α capacity) : s.view = Bounded.view capacity s.toList := by
  rw [view, Bounded.view, isEmpty_toList, length_toList]
  rfl

/-- A call is answered as on the list of the elements, and leaves the elements that it leaves
there. -/
theorem call_eq (s : Stack α capacity) (c : Call α) :
    ((s.call c).1, (s.call c).2.toList) = Bounded.call capacity s.toList c := by
  cases c with
  | push a =>
    cases h : s.push a with
    | ok t =>
      have hn : ¬s.toList.length = capacity := fun hc => by
        have he := (push_eq_error_iff (a := a)).mpr ⟨hc, rfl⟩
        rw [h] at he
        cases he
      simp only [call, Bounded.call, h, if_neg hn, toList_of_push h]
    | error e =>
      obtain ⟨hc, rfl⟩ := push_eq_error_iff.mp h
      simp only [call, Bounded.call, h, if_pos hc]
  | pop =>
    cases h : s.pop with
    | ok r =>
      obtain ⟨a, t⟩ := r
      simp only [call, Bounded.call, h, toList_of_pop h, List.getLast?_concat, List.dropLast_concat]
    | error e =>
      obtain ⟨hc, rfl⟩ := pop_eq_error_iff.mp h
      have hn := List.length_eq_zero_iff.mp hc
      simp only [call, Bounded.call, h, hn, List.getLast?_nil]
  | peek => simp only [call, Bounded.call, peek?_eq_getLast?]
  | clear => rfl

theorem shown_eq (s : Stack α capacity) (cs : List (Call α)) :
    shown call view s cs = shown (Bounded.call capacity) (Bounded.view capacity) s.toList cs := by
  induction cs generalizing s with
  | nil => rfl
  | cons c cs ih => rw [shown, shown, ih, view_eq, ← call_eq]

/-- From an empty stack, all calls show what they show on a list that starts empty. Pushing fails
just when the list is full and popping when it is empty, and stacks with the same elements cannot be
told apart. -/
theorem shows_bounded_list [Inhabited α] (capacity : Nat) :
    (∀ cs : List (Call α), shown call view (empty : Stack α capacity) cs =
      shown (Bounded.call capacity) (Bounded.view capacity) [] cs) ∧
    (∀ (s : Stack α capacity) (a : α) (e : Fault),
      s.push a = .error e ↔ s.toList.length = capacity ∧ e = .overflow capacity) ∧
    (∀ (s : Stack α capacity) (e : Fault),
      s.pop = .error e ↔ s.toList.length = 0 ∧ e = .underflow) ∧
    (∀ (s t : Stack α capacity) (a : α), s.pop = .ok (a, t) → s.toList = t.toList ++ [a]) ∧
    (∀ s : Stack α capacity, s.peek? = s.toList.getLast?) ∧
    ∀ s t : Stack α capacity, s.toList = t.toList →
      ∀ cs, shown call view s cs = shown call view t cs := by
  refine ⟨fun cs => shown_eq empty cs, fun s a e => push_eq_error_iff, fun s e => pop_eq_error_iff,
    fun s t a => toList_of_pop, peek?_eq_getLast?, fun s t h cs => ?_⟩
  rw [shown_eq, shown_eq, h]

theorem shows_bounded_list_stale :
    (⟨#v[7, 9], 2, by decide⟩ : Stack Nat 2).pop = .ok (9, ⟨#v[7, 9], 1, by decide⟩) ∧
      [7, 9] = (⟨#v[7, 9], 1, by decide⟩ : Stack Nat 2).toList ++ [9] ∧
      (⟨#v[7, 9], 1, by decide⟩ : Stack Nat 2).toList =
        (⟨#v[7, 0], 1, by decide⟩ : Stack Nat 2).toList ∧
      ∀ cs, shown call view (⟨#v[7, 9], 1, by decide⟩ : Stack Nat 2) cs =
        shown call view (⟨#v[7, 0], 1, by decide⟩ : Stack Nat 2) cs :=
  have h := shows_bounded_list (α := Nat) 2
  ⟨rfl, h.2.2.2.1 ⟨#v[7, 9], 2, by decide⟩ _ 9 rfl, rfl,
    h.2.2.2.2.2 ⟨#v[7, 9], 1, by decide⟩ ⟨#v[7, 0], 1, by decide⟩ rfl⟩

end VehiclePid.Stack
