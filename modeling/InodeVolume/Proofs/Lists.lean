import Mathlib.Tactic.Common

/-!
# Searching and counting

Facts about lists and vectors that several parts need.
-/

namespace InodeVolume

/-- A place that a search finds passes the test. -/
theorem getElem_of_findFinIdx? {α : Type} {n : Nat} {vector : Vector α n} {test : α → Bool}
    {i : Fin n} (found : vector.findFinIdx? test = some i) : test vector[i] = true := by
  rcases vector with ⟨array, rfl⟩
  rw [Vector.findFinIdx?_mk] at found
  obtain ⟨j, located, rfl⟩ := Option.map_eq_some_iff.mp found
  exact (Array.findFinIdx?_eq_some_iff.mp located).1

/-- No place before the one that a search finds passes the test. -/
theorem not_getElem_of_findFinIdx? {α : Type} {n : Nat} {vector : Vector α n} {test : α → Bool}
    {i j : Fin n} (found : vector.findFinIdx? test = some i) (before : j < i) : ¬test vector[j] = true := by
  rcases vector with ⟨array, rfl⟩
  rw [Vector.findFinIdx?_mk] at found
  obtain ⟨k, located, rfl⟩ := Option.map_eq_some_iff.mp found
  exact (Array.findFinIdx?_eq_some_iff.mp located).2 j before

/-- A test that changes at one number changes the count by one. -/
theorem countP_range_update {n k : Nat} {before after : Nat → Bool} (inside : k < n)
    (was : before k = true) (is : after k = false) (others : ∀ j, j ≠ k → after j = before j) :
    (List.range n).countP before = (List.range n).countP after + 1 := by
  induction n with
  | zero => exact absurd inside (Nat.not_lt_zero k)
  | succ n ih =>
      rw [List.range_succ, List.countP_append, List.countP_append, List.countP_singleton,
        List.countP_singleton]
      by_cases last : k = n
      · subst last
        have same : (List.range k).countP before = (List.range k).countP after := by
          refine List.countP_congr ?_
          intro j listed
          have apart : j ≠ k := Nat.ne_of_lt (List.mem_range.mp listed)
          rw [others j apart]
        rw [same, was, is]
        rfl
      · have earlier := ih (by omega)
        rw [others n (Ne.symm last)]
        omega

/-- What passes a test up to a place is taken up to that place. -/
theorem takeWhile_eq_take {α : Type} {list : List α} {test : α → Bool} {k : Nat}
    (passes : ∀ i (inside : i < list.length), test list[i] = true ↔ i < k) :
    list.takeWhile test = list.take k := by
  induction list generalizing k with
  | nil => rw [List.takeWhile_nil, List.take_nil]
  | cons a rest ih =>
      have first : test a = true ↔ 0 < k := passes 0 (Nat.zero_lt_succ _)
      cases k with
      | zero =>
          have fails : ¬test a = true := fun passed => Nat.lt_irrefl 0 (first.mp passed)
          rw [List.takeWhile_cons_of_neg fails, List.take_zero]
      | succ k =>
          rw [List.takeWhile_cons_of_pos (first.mpr (Nat.zero_lt_succ k)), List.take_succ_cons]
          congr 1
          refine ih ?_
          intro i inside
          have later := passes (i + 1) (Nat.succ_lt_succ inside)
          rw [Nat.succ_lt_succ_iff] at later
          exact later

end InodeVolume
