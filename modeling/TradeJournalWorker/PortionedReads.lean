import Mathlib.Data.List.Basic

namespace PortionedReads

/-- A stream: what is still to come, and how much of it each further read would deliver. -/
structure Source (α : Type) where
  rest : List α
  portions : Nat → Nat

namespace Source

variable {α : Type}

/-- A read delivers something as long as there is something to come and room for it. -/
def read (size : Nat) (source : Source α) : List α × Source α :=
  let count := min size (max 1 (source.portions 0))
  (source.rest.take count, ⟨source.rest.drop count, fun n => source.portions (n + 1)⟩)

theorem read_append (size : Nat) (source : Source α) :
    (source.read size).1 ++ (source.read size).2.rest = source.rest :=
  List.take_append_drop _ _

theorem read_length_le (size : Nat) (source : Source α) :
    (source.read size).1.length ≤ size := by
  have h : (source.read size).1.length ≤ min size (max 1 (source.portions 0)) :=
    List.length_take_le _ _
  omega

theorem read_eq_nil_iff {size : Nat} (hsize : 0 < size) (source : Source α) :
    (source.read size).1 = [] ↔ source.rest = [] := by
  show source.rest.take (min size (max 1 (source.portions 0))) = [] ↔ source.rest = []
  rw [List.take_eq_nil_iff]
  constructor
  · intro h
    cases h with
    | inl hcount => omega
    | inr hrest => exact hrest
  · intro hrest
    exact Or.inr hrest

end Source

end PortionedReads
