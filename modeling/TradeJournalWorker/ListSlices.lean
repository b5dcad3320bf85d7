import Mathlib.Data.List.Basic

namespace ListSlices

variable {α : Type}

/-- The slices of a list at the offsets that are multiples of `size`. -/
def slices (size : Nat) (xs : List α) : List (List α) :=
  (List.range ((xs.length + size - 1) / size)).map fun i => (xs.drop (i * size)).take size

@[simp] theorem slices_nil {size : Nat} (hsize : 0 < size) : slices size ([] : List α) = [] := by
  unfold slices
  have hcount : (([] : List α).length + size - 1) / size = 0 := by
    apply Nat.div_eq_of_lt
    simp only [List.length_nil]
    omega
  rw [hcount]
  rfl

/-- The first slice is a prefix and the others are those of the rest. -/
theorem slices_cons {size : Nat} (hsize : 0 < size) {xs : List α} (hne : xs ≠ []) :
    slices size xs = xs.take size :: slices size (xs.drop size) := by
  have hpositive : 0 < xs.length := List.length_pos_iff.mpr hne
  have hcount : (xs.length + size - 1) / size =
      ((xs.drop size).length + size - 1) / size + 1 := by
    rw [List.length_drop]
    by_cases hlong : size ≤ xs.length
    · have hsplit : xs.length + size - 1 = (xs.length - size + size - 1) + size := by omega
      rw [hsplit, Nat.add_div_right _ hsize]
    · have hshort : (xs.length - size + size - 1) / size = 0 := Nat.div_eq_of_lt (by omega)
      have hone : xs.length + size - 1 = (xs.length - 1) + size := by omega
      rw [hshort, hone, Nat.add_div_right _ hsize, Nat.div_eq_of_lt (by omega)]
  unfold slices
  rw [hcount, List.range_succ_eq_map, List.map_cons, List.map_map]
  have hrest : ∀ i, (xs.drop ((i + 1) * size)).take size =
      ((xs.drop size).drop (i * size)).take size := by
    intro i
    rw [List.drop_drop, Nat.succ_mul, Nat.add_comm]
  simp only [Nat.zero_mul, List.drop_zero, Function.comp_def, hrest]

/-- A property of the slices by induction over what is left of the list. -/
theorem slices_induction {size : Nat} (hsize : 0 < size) {motive : List α → Prop}
    (empty : motive []) (step : ∀ xs, xs ≠ [] → motive (xs.drop size) → motive xs)
    (xs : List α) : motive xs := by
  induction hn : xs.length using Nat.strongRecOn generalizing xs with
  | ind n ih =>
    by_cases hne : xs = []
    · rw [hne]
      exact empty
    · have hpositive : 0 < xs.length := List.length_pos_iff.mpr hne
      have hless : (xs.drop size).length < n := by
        rw [List.length_drop]
        omega
      exact step xs hne (ih _ hless _ rfl)

theorem slices_flatten {size : Nat} (hsize : 0 < size) (xs : List α) :
    (slices size xs).flatten = xs := by
  induction xs using slices_induction hsize with
  | empty => rw [slices_nil hsize, List.flatten_nil]
  | step xs hne ih => rw [slices_cons hsize hne, List.flatten_cons, ih, List.take_append_drop]

theorem slices_ne_nil {size : Nat} (hsize : 0 < size) {xs : List α} (hne : xs ≠ []) :
    slices size xs ≠ [] := by
  rw [slices_cons hsize hne]
  exact List.cons_ne_nil _ _

theorem mem_slices {size : Nat} (hsize : 0 < size) {xs slice : List α}
    (h : slice ∈ slices size xs) : slice ≠ [] ∧ slice.length ≤ size ∧ slice ⊆ xs := by
  induction xs using slices_induction hsize with
  | empty =>
    rw [slices_nil hsize] at h
    exact absurd h List.not_mem_nil
  | step xs hne ih =>
    rw [slices_cons hsize hne] at h
    rcases List.mem_cons.mp h with rfl | hrest
    · have hpositive : 0 < xs.length := List.length_pos_iff.mpr hne
      refine ⟨List.ne_nil_of_length_pos ?_, ?_, List.take_subset size xs⟩
      · rw [List.length_take]
        omega
      · rw [List.length_take]
        omega
    · obtain ⟨hfilled, hbound, hsubset⟩ := ih hrest
      exact ⟨hfilled, hbound, fun x hx => List.mem_of_mem_drop (hsubset hx)⟩

end ListSlices
