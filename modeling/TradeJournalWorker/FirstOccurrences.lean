import Mathlib.Data.List.Dedup
import Mathlib.Data.List.Induction
import Mathlib.Data.List.Nodup

namespace FirstOccurrences

variable {α : Type} [DecidableEq α]

/-- The distinct entries of a list in the order in which they first occur. -/
def firsts (xs : List α) : List α :=
  xs.foldl (fun seen x => if x ∈ seen then seen else seen ++ [x]) []

@[simp] theorem firsts_nil : firsts ([] : List α) = [] := rfl

theorem firsts_concat (xs : List α) (x : α) :
    firsts (xs ++ [x]) = if x ∈ firsts xs then firsts xs else firsts xs ++ [x] := by
  unfold firsts
  rw [List.foldl_append]
  rfl

theorem mem_of_mem_firsts {xs : List α} {x : α} (h : x ∈ firsts xs) : x ∈ xs := by
  induction xs using List.reverseRecOn with
  | nil => simp at h
  | append_singleton xs y ih =>
    rw [firsts_concat] at h
    split at h
    next => exact List.mem_append_left _ (ih h)
    next =>
      rcases List.mem_append.mp h with h | h
      · exact List.mem_append_left _ (ih h)
      · exact List.mem_append_right _ h

@[simp] theorem mem_firsts {xs : List α} {x : α} : x ∈ firsts xs ↔ x ∈ xs := by
  refine ⟨mem_of_mem_firsts, ?_⟩
  induction xs using List.reverseRecOn with
  | nil => simp
  | append_singleton xs y ih =>
    intro h
    rw [firsts_concat]
    rcases List.mem_append.mp h with h | h
    · have := ih h
      split <;> simp [this]
    · obtain rfl := List.mem_singleton.mp h
      split
      next hy => exact hy
      next => simp

theorem firsts_concat_of_mem {xs : List α} {x : α} (h : x ∈ xs) : firsts (xs ++ [x]) = firsts xs := by
  rw [firsts_concat, if_pos (mem_firsts.mpr h)]

theorem firsts_concat_of_not_mem {xs : List α} {x : α} (h : x ∉ xs) :
    firsts (xs ++ [x]) = firsts xs ++ [x] := by
  rw [firsts_concat, if_neg (fun hm => h (mem_firsts.mp hm))]

theorem nodup_firsts (xs : List α) : (firsts xs).Nodup := by
  induction xs using List.reverseRecOn with
  | nil => simp
  | append_singleton xs y ih =>
    rw [firsts_concat]
    split
    next => exact ih
    next hy => exact List.nodup_append.mpr ⟨ih, by simp, fun x hx z hz => by
        rw [List.mem_singleton.mp hz]
        exact fun heq => hy (heq ▸ hx)⟩

theorem firsts_prefix (xs ys : List α) : firsts xs <+: firsts (xs ++ ys) := by
  induction ys using List.reverseRecOn with
  | nil => simp
  | append_singleton ys y ih =>
    rw [← List.append_assoc, firsts_concat]
    split
    next => exact ih
    next => exact ih.trans (List.prefix_append _ _)

/-- Appending distinct entries adds exactly those not seen before. -/
theorem firsts_append_of_nodup (xs : List α) {ys : List α} (hys : ys.Nodup) :
    firsts (xs ++ ys) = firsts xs ++ ys.filter (· ∉ xs) := by
  induction ys using List.reverseRecOn with
  | nil => simp
  | append_singleton ys y ih =>
    obtain ⟨hnodup, -, hdisjoint⟩ := List.nodup_append.mp hys
    have hy : y ∉ ys := fun h => hdisjoint y h y (by simp) rfl
    rw [← List.append_assoc, List.filter_append]
    by_cases hx : y ∈ xs
    · rw [firsts_concat_of_mem (List.mem_append_left _ hx), ih hnodup]
      simp [hx]
    · have hfresh : y ∉ xs ++ ys := by
        intro h
        rcases List.mem_append.mp h with h | h
        · exact hx h
        · exact hy h
      rw [firsts_concat_of_not_mem hfresh, ih hnodup]
      simp [hx]

theorem length_firsts_le (xs : List α) : (firsts xs).length ≤ xs.length := by
  induction xs using List.reverseRecOn with
  | nil => simp
  | append_singleton xs y ih =>
    rw [firsts_concat, List.length_append, List.length_singleton]
    split
    · omega
    · rw [List.length_append, List.length_singleton]
      omega

/-- Nothing is left out exactly if nothing occurs twice. -/
theorem length_firsts_eq_iff {xs : List α} : (firsts xs).length = xs.length ↔ xs.Nodup := by
  induction xs using List.reverseRecOn with
  | nil => simp
  | append_singleton xs y ih =>
    have hle := length_firsts_le xs
    have hconcat : (xs ++ [y]).Nodup ↔ y ∉ xs ∧ xs.Nodup := by
      rw [← List.concat_eq_append]
      exact List.nodup_concat xs y
    rw [hconcat, firsts_concat, List.length_append, List.length_singleton, ← ih]
    by_cases hy : y ∈ firsts xs
    · rw [if_pos hy]
      exact iff_of_false (by omega) fun h => h.1 (mem_firsts.mp hy)
    · rw [if_neg hy, List.length_append, List.length_singleton]
      have hfresh : y ∉ xs := fun h => hy (mem_firsts.mpr h)
      constructor
      · intro h
        exact ⟨hfresh, by omega⟩
      · intro h
        omega

theorem dedup_eq_singleton {xs : List α} {x : α} :
    xs.dedup = [x] ↔ x ∈ xs ∧ ∀ y ∈ xs, y = x := by
  constructor
  · intro h
    have hmem : ∀ y, y ∈ xs ↔ y = x := by
      intro y
      rw [← List.mem_dedup, h, List.mem_singleton]
    exact ⟨(hmem x).mpr rfl, fun y hy => (hmem y).mp hy⟩
  · intro h
    obtain ⟨hmem, honly⟩ := h
    have hnodup : xs.dedup.Nodup := List.nodup_dedup xs
    have hall : ∀ y ∈ xs.dedup, y = x := by
      intro y hy
      exact honly y (List.mem_dedup.mp hy)
    have hin : x ∈ xs.dedup := List.mem_dedup.mpr hmem
    have hrep : xs.dedup = List.replicate xs.dedup.length x :=
      List.eq_replicate_of_mem hall
    have hle : xs.dedup.length ≤ 1 := by
      rw [hrep] at hnodup
      exact List.nodup_replicate.mp hnodup
    have hpos : 0 < xs.dedup.length := List.length_pos_of_mem hin
    have hone : xs.dedup.length = 1 := by omega
    rw [hrep, hone]
    simp

end FirstOccurrences
