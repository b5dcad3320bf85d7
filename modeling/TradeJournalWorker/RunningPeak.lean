import Mathlib.Order.Bounds.Basic

namespace RunningPeak

variable {α : Type} [LinearOrder α] [Zero α]

/-- The largest of zero and the entries. -/
def peak (xs : List α) : α := xs.foldr max 0

@[simp] theorem peak_nil : peak ([] : List α) = 0 := rfl

@[simp] theorem peak_cons (x : α) (xs : List α) : peak (x :: xs) = max x (peak xs) := rfl

theorem zero_le_peak (xs : List α) : 0 ≤ peak xs := by
  induction xs with
  | nil => exact le_refl 0
  | cons x xs ih => exact le_trans ih (le_max_right _ _)

theorem le_peak {xs : List α} {x : α} (h : x ∈ xs) : x ≤ peak xs := by
  induction xs with
  | nil => exact absurd h List.not_mem_nil
  | cons y ys ih =>
    rcases List.mem_cons.mp h with h | h
    · subst h
      exact le_max_left _ _
    · exact le_trans (ih h) (le_max_right _ _)

theorem peak_mem (xs : List α) : peak xs = 0 ∨ peak xs ∈ xs := by
  induction xs with
  | nil => exact Or.inl rfl
  | cons x xs ih =>
    rcases le_total (peak xs) x with h | h
    · right
      rw [peak_cons, max_eq_left h]
      exact List.mem_cons_self
    · rw [peak_cons, max_eq_right h]
      rcases ih with ih | ih
      · exact Or.inl ih
      · exact Or.inr (List.mem_cons_of_mem x ih)

theorem isGreatest_peak (xs : List α) : IsGreatest (insert 0 {x | x ∈ xs}) (peak xs) := by
  constructor
  · exact peak_mem xs
  · intro x hx
    rcases hx with hx | hx
    · rw [hx]
      exact zero_le_peak xs
    · exact le_peak hx

/-- More entries can only raise the peak. -/
theorem peak_le_append (xs ys : List α) : peak ys ≤ peak (xs ++ ys) := by
  induction xs with
  | nil => exact le_refl _
  | cons x xs ih => exact le_trans ih (le_max_right _ _)

/-- The peak depends on nothing but which entries there are. -/
theorem peak_congr {xs ys : List α} (hxy : xs ⊆ ys) (hyx : ys ⊆ xs) : peak xs = peak ys := by
  have hle : ∀ {us vs : List α}, us ⊆ vs → peak us ≤ peak vs := by
    intro us vs h
    rcases peak_mem us with hzero | hmem
    · rw [hzero]
      exact zero_le_peak vs
    · exact le_peak (h hmem)
  exact le_antisymm (hle hxy) (hle hyx)

/-- Keeping the peak with the value zero as a floor gives the peak of one more entry. -/
theorem peak_update (x : α) (xs : List α) :
    (if peak xs ≤ max 0 x then max 0 x else peak xs) = peak (x :: xs) := by
  have hzero := zero_le_peak xs
  rw [peak_cons]
  split
  next h =>
    rcases le_total 0 x with hx | hx
    · rw [max_eq_right hx] at h ⊢
      exact (max_eq_left h).symm
    · rw [max_eq_left hx] at h ⊢
      have hpeak : peak xs = 0 := le_antisymm h hzero
      rw [hpeak, max_eq_right hx]
  next h =>
    have hlt := not_le.mp h
    exact (max_eq_right (le_of_lt (lt_of_le_of_lt (le_max_right _ _) hlt))).symm

end RunningPeak
