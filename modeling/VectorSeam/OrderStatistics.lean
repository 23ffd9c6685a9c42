import Mathlib

/-!
Order statistics of a list. The element at a position of the sorted list is below a
value exactly when more elements of the list than that are below it; all comparisons of
order statistics go through these counts.
-/

namespace VectorSeam.OrderStatistics

variable {α : Type} [LinearOrder α]

/-- The elements in ascending order. -/
def ascending (values : List α) : List α := values.insertionSort (· ≤ ·)

/-- How many elements are below a value. -/
def below (value : α) (values : List α) : Nat := values.countP (· < value)

variable {values values' : List α} {value bound : α} {index : Nat}

theorem ascending_perm (values : List α) : (ascending values).Perm values := List.perm_insertionSort (· ≤ ·) values
theorem ascending_length (values : List α) : (ascending values).length = values.length := (ascending_perm values).length_eq
theorem ascending_sorted (values : List α) : (ascending values).Pairwise (· ≤ ·) := List.pairwise_insertionSort _ _

theorem below_perm (perm : values.Perm values') : below bound values = below bound values' := perm.countP_eq _

theorem ascending_congr (perm : values.Perm values') : ascending values = ascending values' :=
  (((ascending_perm values).trans perm).trans (ascending_perm values').symm).eq_of_pairwise'
    (ascending_sorted values) (ascending_sorted values')

/-- In a sorted list, exactly the first elements are below a bound. -/
theorem sorted_lt_iff (sorted : values.Pairwise (· ≤ ·)) (here : values[index]? = some value) :
    value < bound ↔ index < below bound values := by
  induction values generalizing index with
  | nil => simp at here
  | cons first rest ih =>
    obtain ⟨least, rest_sorted⟩ := List.pairwise_cons.mp sorted
    by_cases low : first < bound
    · have counted : below bound (first :: rest) = below bound rest + 1 := List.countP_cons_of_pos (by simpa using low)
      cases index with
      | zero =>
        obtain rfl := Option.some.inj here
        rw [counted]
        exact iff_of_true low (Nat.succ_pos _)
      | succ index =>
        rw [counted, Nat.succ_lt_succ_iff]
        exact ih rest_sorted here
    · -- Nothing behind an element that is not below the bound is below it either.
      have high : ∀ other ∈ first :: rest, ¬other < bound := by
        intro other member
        rcases List.mem_cons.mp member with rfl | later
        · exact low
        · exact not_lt.mpr ((not_lt.mp low).trans (least other later))
      have none : below bound (first :: rest) = 0 := List.countP_eq_zero.mpr fun other member => by simpa using high other member
      rw [none]
      exact iff_of_false (high value (List.mem_of_getElem? here)) (Nat.not_lt_zero _)

theorem ascending_lt_iff (here : (ascending values)[index]? = some value) : value < bound ↔ index < below bound values := by
  rw [sorted_lt_iff (ascending_sorted values) here, below_perm (ascending_perm values)]

theorem ascending_mem (here : (ascending values)[index]? = some value) : value ∈ values :=
  (ascending_perm values).mem_iff.mp (List.mem_of_getElem? here)

/-- Later order statistics are larger. -/
theorem ascending_le {later : Nat} {value' : α} (here : (ascending values)[index]? = some value)
    (there : (ascending values)[later]? = some value') (le : index ≤ later) : value ≤ value' := by
  by_contra smaller
  have counted := (ascending_lt_iff there).mp (not_le.mp smaller)
  exact lt_irrefl value ((ascending_lt_iff here).mpr (le.trans_lt counted))

/-- Larger elements mean that fewer are below a bound. -/
theorem below_anti (larger : List.Forall₂ (· ≤ ·) values values') : below bound values' ≤ below bound values := by
  induction larger with
  | nil => exact le_rfl
  | @cons value value' rest rest' le larger ih =>
    unfold below at ih ⊢
    rw [List.countP_cons, List.countP_cons]
    by_cases low : value' < bound
    · rw [if_pos (by simpa using low), if_pos (by simpa using le.trans_lt low)]
      exact Nat.succ_le_succ ih
    · rw [if_neg (by simpa using low)]
      exact ih.trans (Nat.le_add_right _ _)

/-- Larger elements have larger order statistics. -/
theorem ascending_mono {value' : α} (larger : List.Forall₂ (· ≤ ·) values values')
    (here : (ascending values)[index]? = some value) (there : (ascending values')[index]? = some value') : value ≤ value' := by
  by_contra smaller
  have counted := (ascending_lt_iff there).mp (not_le.mp smaller)
  exact lt_irrefl value ((ascending_lt_iff here).mpr (counted.trans_le (below_anti larger)))

end VectorSeam.OrderStatistics
