import Mathlib.Data.List.Nodup

/-- A dictionary that remembers the order in which its keys were inserted. -/
structure OrderedDict (κ α : Type) where
  entries : List (κ × α)
  nodup : (entries.map Prod.fst).Nodup

namespace OrderedDict

variable {κ α : Type}

instance [DecidableEq κ] [DecidableEq α] : DecidableEq (OrderedDict κ α) := fun a b =>
  decidable_of_iff (a.entries = b.entries)
    ⟨fun h => by cases a; cases b; cases h; rfl, fun h => by rw [h]⟩

def empty : OrderedDict κ α := ⟨[], List.nodup_nil⟩

instance : EmptyCollection (OrderedDict κ α) := ⟨empty⟩

instance : Inhabited (OrderedDict κ α) := ⟨empty⟩

variable [DecidableEq κ]

def keys (d : OrderedDict κ α) : List κ := d.entries.map Prod.fst

def values (d : OrderedDict κ α) : List α := d.entries.map Prod.snd

def get? (d : OrderedDict κ α) (key : κ) : Option α := d.entries.lookup key

/-- Assignment replaces the value in place and appends a new key. -/
def set (d : OrderedDict κ α) (key : κ) (value : α) : OrderedDict κ α where
  entries :=
    if key ∈ d.entries.map Prod.fst then
      d.entries.map fun entry => (entry.1, if entry.1 = key then value else entry.2)
    else d.entries ++ [(key, value)]
  nodup := by
    split
    next => simpa [List.map_map, Function.comp_def] using d.nodup
    next h =>
      rw [List.map_append, List.nodup_append]
      refine ⟨d.nodup, by simp, ?_⟩
      intro a ha b hb heq
      have hkey : b = key := by simpa using hb
      exact h (hkey ▸ heq ▸ ha)

def erase (d : OrderedDict κ α) (key : κ) : OrderedDict κ α where
  entries := d.entries.filter (fun entry => entry.1 ≠ key)
  nodup := d.nodup.sublist (List.filter_sublist.map _)

@[simp] theorem get?_empty (key : κ) : (∅ : OrderedDict κ α).get? key = none := rfl

omit [DecidableEq κ] in
@[simp] theorem keys_empty : (∅ : OrderedDict κ α).keys = [] := rfl

theorem lookup_eq_none_iff_not_mem {entries : List (κ × α)} {key : κ} :
    entries.lookup key = none ↔ key ∉ entries.map Prod.fst := by
  induction entries with
  | nil => simp
  | cons entry rest ih =>
    obtain ⟨k, v⟩ := entry
    by_cases h : key = k
    · subst h
      simp
    · have hbeq : (key == k) = false := by simpa using h
      simp [List.lookup_cons, hbeq, ih, h]

theorem get?_eq_none_iff {d : OrderedDict κ α} {key : κ} : d.get? key = none ↔ key ∉ d.keys :=
  lookup_eq_none_iff_not_mem

theorem isSome_get?_iff {d : OrderedDict κ α} {key : κ} : (d.get? key).isSome ↔ key ∈ d.keys := by
  rw [← not_iff_not, ← get?_eq_none_iff]
  simp

theorem exists_get?_of_mem {d : OrderedDict κ α} {key : κ} (h : key ∈ d.keys) :
    ∃ value, d.get? key = some value :=
  Option.isSome_iff_exists.mp (isSome_get?_iff.mpr h)

theorem lookup_append (xs ys : List (κ × α)) (key : κ) :
    (xs ++ ys).lookup key = (xs.lookup key).or (ys.lookup key) := by
  induction xs with
  | nil => rfl
  | cons entry rest ih =>
    obtain ⟨k, v⟩ := entry
    by_cases h : key = k
    · subst h
      simp
    · have hbeq : (key == k) = false := by simpa using h
      simp [List.lookup_cons, hbeq, ih]

theorem get?_set (d : OrderedDict κ α) (key : κ) (value : α) (other : κ) :
    (d.set key value).get? other = if other = key then some value else d.get? other := by
  unfold get? set
  by_cases hmem : key ∈ d.entries.map Prod.fst
  · simp only [hmem, if_true]
    generalize d.entries = entries at hmem
    induction entries with
    | nil => simp at hmem
    | cons entry rest ih =>
      obtain ⟨k, v⟩ := entry
      by_cases hk : other = k
      · subst hk
        by_cases ho : other = key
        · simp [ho]
        · simp [ho]
      · have hbeq : (other == k) = false := by simpa using hk
        simp only [List.map_cons, List.lookup_cons, hbeq]
        by_cases hrest : key ∈ rest.map Prod.fst
        · exact ih hrest
        · have hkey : key = k := by
            rcases List.mem_cons.mp hmem with h | h
            · exact h
            · exact absurd h hrest
          have hne : other ≠ key := fun h => hk (h.trans hkey)
          have hsame : (rest.map fun entry => (entry.1, if entry.1 = key then value else entry.2)) =
              rest := by
            conv_rhs => rw [← List.map_id rest]
            apply List.map_congr_left
            intro entry he
            have : entry.1 ≠ key := fun h => hrest (h ▸ List.mem_map_of_mem he)
            simp [this]
          rw [hsame, if_neg hne]
  · simp only [hmem, if_false]
    rw [lookup_append]
    by_cases ho : other = key
    · subst ho
      have hnone : d.entries.lookup other = none := lookup_eq_none_iff_not_mem.mpr hmem
      simp [hnone]
    · have hbeq : (other == key) = false := by simpa using ho
      simp [List.lookup_cons, hbeq, ho]

@[simp] theorem get?_set_self (d : OrderedDict κ α) (key : κ) (value : α) :
    (d.set key value).get? key = some value := by
  rw [get?_set, if_pos rfl]

theorem get?_set_of_ne (d : OrderedDict κ α) {key other : κ} (value : α) (h : other ≠ key) :
    (d.set key value).get? other = d.get? other := by
  rw [get?_set, if_neg h]

theorem get?_erase (d : OrderedDict κ α) (key other : κ) :
    (d.erase key).get? other = if other = key then none else d.get? other := by
  change (d.entries.filter fun entry => entry.1 ≠ key).lookup other =
    if other = key then none else d.entries.lookup other
  generalize d.entries = entries
  induction entries with
  | nil => simp
  | cons entry rest ih =>
    obtain ⟨k, v⟩ := entry
    by_cases hk : k = key
    · rw [List.filter_cons_of_neg (by simp [hk]), ih]
      by_cases ho : other = key
      · simp [ho]
      · have hbeq : (other == k) = false := by simpa [hk] using ho
        simp [ho, List.lookup_cons, hbeq]
    · rw [List.filter_cons_of_pos (by simp [hk])]
      by_cases ho : other = k
      · subst ho
        simp [hk]
      · have hbeq : (other == k) = false := by simpa using ho
        simp only [List.lookup_cons, hbeq]
        exact ih

theorem mem_entries_iff {d : OrderedDict κ α} {key : κ} {value : α} :
    (key, value) ∈ d.entries ↔ d.get? key = some value := by
  obtain ⟨entries, nodup⟩ := d
  unfold get?
  induction entries with
  | nil => simp
  | cons entry rest ih =>
    obtain ⟨k, v⟩ := entry
    rw [List.map_cons, List.nodup_cons] at nodup
    by_cases hk : key = k
    · subst hk
      have hnot : (key, value) ∉ rest := fun h => nodup.1 (List.mem_map.mpr ⟨(key, value), h, rfl⟩)
      simp [hnot, eq_comm]
    · have hbeq : (key == k) = false := by simpa using hk
      simp [List.lookup_cons, hbeq, ih nodup.2, hk]

theorem mem_values {d : OrderedDict κ α} {value : α} :
    value ∈ d.values ↔ ∃ key, d.get? key = some value := by
  unfold values
  rw [List.mem_map]
  constructor
  · rintro ⟨⟨key, found⟩, hentry, rfl⟩
    exact ⟨key, mem_entries_iff.mp hentry⟩
  · rintro ⟨key, hget⟩
    exact ⟨(key, value), mem_entries_iff.mpr hget, rfl⟩

/-- Dictionaries with the same lookups have the same values, in some order. -/
theorem values_perm {d e : OrderedDict κ α} (h : ∀ key, d.get? key = e.get? key) :
    d.values.Perm e.values := by
  have hentries : d.entries.Perm e.entries := by
    rw [List.perm_ext_iff_of_nodup (List.Nodup.of_map _ d.nodup) (List.Nodup.of_map _ e.nodup)]
    rintro ⟨key, value⟩
    rw [mem_entries_iff, mem_entries_iff, h key]
  exact hentries.map Prod.snd

/-- Build a dictionary from rows in order, as repeated assignment does. -/
def ofList (rows : List (κ × α)) : OrderedDict κ α :=
  rows.foldl (fun d row => d.set row.1 row.2) ∅

end OrderedDict
