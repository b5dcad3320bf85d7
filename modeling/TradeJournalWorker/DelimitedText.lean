import Mathlib.Data.List.TakeWhile

namespace DelimitedText

section Lists

variable {α : Type} [DecidableEq α]

theorem takeWhile_delimited {delimiter : α} {front back : List α} (h : delimiter ∉ front) :
    (front ++ delimiter :: back).takeWhile (fun a => a ≠ delimiter) = front := by
  have hall : ∀ a ∈ front, decide (a ≠ delimiter) = true := by
    intro a ha
    exact decide_eq_true fun heq => h (heq ▸ ha)
  rw [List.takeWhile_append_of_pos hall, List.takeWhile_cons_of_neg (by simp), List.append_nil]

/-- Two texts that end at the same delimiter are read apart in one way. -/
theorem delimiter_inj {delimiter : α} {front front' back back' : List α}
    (hfront : delimiter ∉ front) (hfront' : delimiter ∉ front')
    (h : front ++ delimiter :: back = front' ++ delimiter :: back') :
    front = front' ∧ back = back' := by
  have hsame : front = front' := by
    have hread := congrArg (List.takeWhile fun a => a ≠ delimiter) h
    rw [takeWhile_delimited hfront, takeWhile_delimited hfront'] at hread
    exact hread
  rw [hsame] at h
  exact ⟨hsame, (List.cons.inj (List.append_cancel_left h)).2⟩

/-- A literal and the delimiter that ends the value behind it. -/
structure Slot (α : Type) where
  literal : List α
  delimiter : α

def render : List (Slot α) → List (List α) → List α
  | slot :: template, value :: values =>
    slot.literal ++ (value ++ slot.delimiter :: render template values)
  | _, _ => []

/-- Every slot has its value, and no value holds the delimiter that ends it. -/
def Clean : List (Slot α) → List (List α) → Prop
  | slot :: template, value :: values => slot.delimiter ∉ value ∧ Clean template values
  | [], [] => True
  | _, _ => False

theorem render_inj {template : List (Slot α)} {values values' : List (List α)}
    (hclean : Clean template values) (hclean' : Clean template values')
    (h : render template values = render template values') : values = values' := by
  induction template generalizing values values' with
  | nil =>
    cases values with
    | nil =>
      cases values' with
      | nil => rfl
      | cons value values => exact hclean'.elim
    | cons value values => exact hclean.elim
  | cons slot template ih =>
    cases values with
    | nil => exact hclean.elim
    | cons value values =>
      cases values' with
      | nil => exact hclean'.elim
      | cons value' values' =>
        obtain ⟨hvalue, hrest⟩ := delimiter_inj hclean.1 hclean'.1 (List.append_cancel_left h)
        rw [hvalue, ih hclean.2 hclean'.2 hrest]

end Lists

end DelimitedText
