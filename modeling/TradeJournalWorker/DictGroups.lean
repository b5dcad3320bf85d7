import TradeJournalWorker.FirstOccurrences
import TradeJournalWorker.OrderedDict

namespace OrderedDict

open FirstOccurrences

variable {κ α : Type} [DecidableEq κ]

/-- `setdefault(key, []).append(value)`. -/
def append (d : OrderedDict κ (List α)) (key : κ) (value : α) : OrderedDict κ (List α) :=
  d.set key ((d.get? key).getD [] ++ [value])

def groupBy (key : α → κ) (xs : List α) : OrderedDict κ (List α) :=
  xs.foldl (fun d x => d.append (key x) x) ∅

theorem lookup_map_pair {β : Type} (f : κ → β) {keys : List κ} {key : κ} (h : key ∈ keys) :
    (keys.map fun k => (k, f k)).lookup key = some (f key) := by
  induction keys with
  | nil => cases h
  | cons first rest ih =>
    by_cases hfirst : key = first
    · subst hfirst
      simp
    · have hrest : key ∈ rest := by simpa [hfirst] using h
      have hbeq : (key == first) = false := by simpa using hfirst
      rw [List.map_cons, List.lookup_cons, hbeq]
      exact ih hrest

/-- The groups stand in the order of their first members, each with its members in order. -/
theorem groupBy_entries (key : α → κ) (xs : List α) :
    (groupBy key xs).entries =
      (firsts (xs.map key)).map fun k => (k, xs.filter fun x => key x = k) := by
  induction xs using List.reverseRecOn with
  | nil => rfl
  | append_singleton xs x ih =>
    have hstep : groupBy key (xs ++ [x]) = (groupBy key xs).append (key x) x := by
      unfold groupBy
      rw [List.foldl_append]
      rfl
    have hkeys : (groupBy key xs).entries.map Prod.fst = firsts (xs.map key) := by
      rw [ih, List.map_map]
      exact List.map_id _
    rw [hstep, List.map_append, List.map_singleton, firsts_concat]
    unfold append set
    show (if key x ∈ (groupBy key xs).entries.map Prod.fst then _ else _) = _
    rw [hkeys]
    split
    next hmem =>
      have hfound : (groupBy key xs).get? (key x) = some (xs.filter fun y => key y = key x) := by
        unfold get?
        rw [ih]
        exact lookup_map_pair (fun k => xs.filter fun y => key y = k) hmem
      rw [hfound, ih, List.map_map]
      refine List.map_congr_left fun k hk => ?_
      by_cases hsame : k = key x
      · subst hsame
        simp [List.filter_append]
      · have hother : ¬key x = k := fun heq => hsame heq.symm
        simp [List.filter_append, hsame, hother]
    next hnew =>
      have hmissing : (groupBy key xs).get? (key x) = none := by
        rw [get?_eq_none_iff]
        unfold keys
        rwa [hkeys]
      have hnone : ∀ y ∈ xs, key y ≠ key x := by
        intro y hy heq
        exact hnew (mem_firsts.mpr (heq ▸ List.mem_map_of_mem hy))
      rw [hmissing, ih, List.map_append]
      congr 1
      · refine List.map_congr_left fun k hk => ?_
        have hother : ¬key x = k := fun heq => hnew (heq ▸ hk)
        simp [List.filter_append, hother]
      · have hempty : xs.filter (fun y => key y = key x) = [] :=
          List.filter_eq_nil_iff.mpr fun y hy => by simpa using hnone y hy
        simp [List.filter_append, hempty]

theorem firsts_cons_head (x : κ) (xs : List κ) : ∃ rest, firsts (x :: xs) = x :: rest := by
  obtain ⟨rest, hrest⟩ := firsts_prefix [x] xs
  exact ⟨rest, hrest.symm⟩

end OrderedDict
