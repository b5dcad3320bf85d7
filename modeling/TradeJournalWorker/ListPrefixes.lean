import Mathlib.Data.List.TakeDrop

namespace ListPrefixes

variable {α β : Type}

theorem take_succ_of_getElem? {xs : List α} {index : Nat} {x : α} (h : xs[index]? = some x) :
    xs.take (index + 1) = xs.take index ++ [x] := by
  rw [List.take_add_one, h]
  rfl

/-- Every entry of the list fits what stands before it. -/
def EachAfter (P : List α → α → Prop) (xs : List α) : Prop :=
  ∀ index x, xs[index]? = some x → P (xs.take index) x

theorem eachAfter_nil (P : List α → α → Prop) : EachAfter P [] := by
  intro index x h
  cases h

/-- What an entry at the end of a list is, and what stands before it. -/
theorem getElem?_append_singleton {xs : List α} {x y : α} {index : Nat}
    (h : (xs ++ [x])[index]? = some y) :
    (index < xs.length ∧ xs[index]? = some y ∧ (xs ++ [x]).take index = xs.take index) ∨
      (index = xs.length ∧ y = x ∧ (xs ++ [x]).take index = xs) := by
  rcases Nat.lt_trichotomy index xs.length with hlt | heq | hgt
  · left
    rw [List.getElem?_append_left hlt] at h
    exact ⟨hlt, h, List.take_append_of_le_length (Nat.le_of_lt hlt)⟩
  · right
    subst heq
    rw [List.getElem?_append_right (Nat.le_refl _), Nat.sub_self] at h
    cases h
    exact ⟨rfl, rfl, List.take_left⟩
  · have hlength := (List.getElem?_eq_some_iff.mp h).1
    simp only [List.length_append, List.length_singleton] at hlength
    omega

/-- One entry more at the end. -/
theorem EachAfter.append {P : List α → α → Prop} {xs : List α} {x : α} (hxs : EachAfter P xs)
    (hx : P xs x) : EachAfter P (xs ++ [x]) := by
  intro index y h
  rcases getElem?_append_singleton h with ⟨-, hget, htake⟩ | ⟨-, heq, htake⟩
  · rw [htake]
    exact hxs index y hget
  · rw [htake, heq]
    exact hx

theorem EachAfter.split {P : List α → α → Prop} {xs before after : List α} {x : α}
    (h : EachAfter P xs) (hsplit : xs = before ++ x :: after) : P before x := by
  have hget : xs[before.length]? = some x := by
    rw [hsplit, List.getElem?_append_right (Nat.le_refl _), Nat.sub_self]
    rfl
  have hbefore := h before.length x hget
  rw [hsplit, List.take_left] at hbefore
  exact hbefore

/-- What is recorded of the entry at this place, with what stands before it. -/
def recordedAt (record : List α → α → Option β) (xs : List α) (index : Nat) : Option β :=
  xs[index]?.bind (record (xs.take index))

theorem recordedAt_of_length_le {record : List α → α → Option β} {xs : List α} {index : Nat}
    (h : xs.length ≤ index) : recordedAt record xs index = none := by
  rw [recordedAt, List.getElem?_eq_none h]
  rfl

theorem recordedAt_append (record : List α → α → Option β) (xs : List α) (x : α) (index : Nat) :
    recordedAt record (xs ++ [x]) index =
      if index = xs.length then record xs x else recordedAt record xs index := by
  rcases Nat.lt_trichotomy index xs.length with hlt | heq | hgt
  · rw [if_neg (by omega), recordedAt, recordedAt, List.getElem?_append_left hlt,
      List.take_append_of_le_length (Nat.le_of_lt hlt)]
  · subst heq
    rw [if_pos rfl, recordedAt, List.getElem?_append_right (Nat.le_refl _), Nat.sub_self,
      List.take_left]
    rfl
  · rw [if_neg (by omega), recordedAt_of_length_le (by simp; omega),
      recordedAt_of_length_le (by omega)]

end ListPrefixes
