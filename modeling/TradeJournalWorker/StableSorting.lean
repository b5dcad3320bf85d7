import Mathlib.Data.List.Sort

namespace StableSorting

variable {α τ : Type} [LinearOrder τ]

/-- The order of the pairs `(key, index)` of numbered entries. -/
def Before (key : α → τ) (a b : α × Nat) : Prop :=
  key a.1 < key b.1 ∨ key a.1 = key b.1 ∧ a.2 ≤ b.2

instance (key : α → τ) (a b : α × Nat) : Decidable (Before key a b) :=
  inferInstanceAs (Decidable (_ ∨ _))

/-- The entries in the order of their keys, those of one key in the order of their indices. -/
def stableSort (key : α → τ) (xs : List α) : List α :=
  (xs.zipIdx.insertionSort (Before key)).map Prod.fst

/-- The same entries in the order of their keys, those of one key as before. -/
structure StablySorted (key : α → τ) (old new : List α) : Prop where
  perm : new.Perm old
  ordered : new.Pairwise fun a b => key a ≤ key b
  stable : ∀ value, new.filter (fun x => key x = value) = old.filter fun x => key x = value

variable {key : α → τ}

theorem Before.total (a b : α × Nat) : Before key a b ∨ Before key b a := by
  unfold Before
  rcases lt_trichotomy (key a.1) (key b.1) with hless | hsame | hmore
  · exact Or.inl (Or.inl hless)
  · rcases le_total a.2 b.2 with hle | hge
    · exact Or.inl (Or.inr ⟨hsame, hle⟩)
    · exact Or.inr (Or.inr ⟨hsame.symm, hge⟩)
  · exact Or.inr (Or.inl hmore)

theorem Before.trans {a b c : α × Nat} (h : Before key a b) (hnext : Before key b c) :
    Before key a c := by
  unfold Before at h hnext ⊢
  rcases h with hless | ⟨hsame, hle⟩
  · rcases hnext with hmore | ⟨hother, -⟩
    · exact Or.inl (hless.trans hmore)
    · exact Or.inl (hother ▸ hless)
  · rcases hnext with hmore | ⟨hother, hlater⟩
    · exact Or.inl (hsame ▸ hmore)
    · exact Or.inr ⟨hsame.trans hother, hle.trans hlater⟩

theorem Before.key_le {a b : α × Nat} (h : Before key a b) : key a.1 ≤ key b.1 := by
  rcases h with hless | ⟨hsame, -⟩
  · exact hless.le
  · exact hsame.le

theorem pairwise_sorted (entries : List (α × Nat)) :
    (entries.insertionSort (Before key)).Pairwise (Before key) := by
  have htotal : Std.Total (Before key) := ⟨Before.total⟩
  have htrans : IsTrans (α × Nat) (Before key) := ⟨fun _ _ _ => Before.trans⟩
  exact List.pairwise_insertionSort _ _

theorem pairwise_zipIdx (xs : List α) (n : Nat) :
    (xs.zipIdx n).Pairwise fun a b => a.2 ≤ b.2 := by
  induction xs generalizing n with
  | nil => exact List.Pairwise.nil
  | cons x rest ih =>
    rw [List.zipIdx_cons]
    refine List.pairwise_cons.mpr ⟨fun entry hentry => ?_, ih (n + 1)⟩
    have hlow := List.le_snd_of_mem_zipIdx hentry
    show n ≤ entry.2
    omega

theorem eq_of_index {xs : List α} {a b : α × Nat} (ha : a ∈ xs.zipIdx) (hb : b ∈ xs.zipIdx)
    (h : a.2 = b.2) : a = b := by
  have hleft := List.mk_mem_zipIdx_iff_getElem?.mp ha
  have hright := List.mk_mem_zipIdx_iff_getElem?.mp hb
  rw [h, hright] at hleft
  exact Prod.ext (Option.some.inj hleft).symm h

theorem stableSort_spec (key : α → τ) (xs : List α) : StablySorted key xs (stableSort key xs) := by
  have hperm : (xs.zipIdx.insertionSort (Before key)).Perm xs.zipIdx := List.perm_insertionSort _ _
  have hsorted := @pairwise_sorted α τ _ key xs.zipIdx
  unfold stableSort
  refine ⟨?_, ?_, fun value => ?_⟩
  · have hentries := hperm.map Prod.fst
    rw [List.zipIdx_map_fst] at hentries
    exact hentries
  · exact List.pairwise_map.mpr (hsorted.imp Before.key_le)
  · have hfiltered : (xs.zipIdx.insertionSort (Before key)).filter (fun entry => key entry.1 = value)
        = xs.zipIdx.filter fun entry => key entry.1 = value := by
      refine List.Perm.eq_of_pairwise ?_ ?_ ((pairwise_zipIdx xs 0).filter _) (hperm.filter _)
      · intro a b ha hb hle hge
        have hleft := hperm.mem_iff.mp (List.mem_of_mem_filter ha)
        exact eq_of_index hleft (List.mem_of_mem_filter hb) (le_antisymm hle hge)
      · have hkeys := hsorted.filter fun entry => key entry.1 = value
        refine hkeys.imp_of_mem fun ha hb hbefore => ?_
        have hleft := (List.mem_filter.mp ha).2
        have hright := (List.mem_filter.mp hb).2
        simp only [decide_eq_true_eq] at hleft hright
        rcases hbefore with hless | ⟨-, hle⟩
        · rw [hleft, hright] at hless
          exact absurd hless (lt_irrefl _)
        · exact hle
    have hback : ∀ entries : List (α × Nat), (entries.map Prod.fst).filter (fun x => key x = value) =
        (entries.filter fun entry => key entry.1 = value).map Prod.fst := by
      intro entries
      rw [List.filter_map]
      rfl
    rw [hback, hfiltered, ← hback, List.zipIdx_map_fst]

/-- Entries that were sorted together with something computed from them. -/
theorem StablySorted.comap {β : Type} {g : β → α} {xs : List β} {sorted : List α}
    (h : StablySorted key (xs.map g) sorted) (back : α → β) (hback : ∀ x, back (g x) = x) :
    StablySorted (fun x => key (g x)) xs (sorted.map back) := by
  have hkey : ∀ y ∈ sorted, key (g (back y)) = key y := by
    intro y hy
    obtain ⟨x, -, rfl⟩ := List.mem_map.mp (h.perm.mem_iff.mp hy)
    rw [hback]
  have hmap : (xs.map g).map back = xs := by
    rw [List.map_map]
    exact (List.map_congr_left fun x _ => hback x).trans (List.map_id xs)
  refine ⟨?_, ?_, fun value => ?_⟩
  · have hperm := h.perm.map back
    rw [hmap] at hperm
    exact hperm
  · refine List.pairwise_map.mpr (h.ordered.imp_of_mem fun ha hb hle => ?_)
    rw [hkey _ ha, hkey _ hb]
    exact hle
  · have hsame : sorted.filter (fun y => key (g (back y)) = value) =
        sorted.filter fun y => key y = value :=
      List.filter_congr fun y hy => by rw [hkey y hy]
    rw [List.filter_map]
    show (sorted.filter fun y => key (g (back y)) = value).map back = _
    rw [hsame, h.stable value, List.filter_map, List.map_map]
    exact (List.map_congr_left fun x _ => hback x).trans (List.map_id _)

/-- The order of the entries does not matter when no two of them tie. -/
theorem stableSort_eq_of_perm {xs ys : List α} (h : xs.Perm ys)
    (hkeys : ∀ a ∈ xs, ∀ b ∈ xs, key a = key b → a = b) : stableSort key xs = stableSort key ys := by
  have hleft := stableSort_spec key xs
  have hright := stableSort_spec key ys
  have hperm := hleft.perm.trans (h.trans hright.perm.symm)
  refine List.Perm.eq_of_pairwise ?_ hleft.ordered hright.ordered hperm
  intro a b ha hb hle hge
  have hmem := hleft.perm.mem_iff.mp ha
  have hother := h.mem_iff.mpr (hright.perm.mem_iff.mp hb)
  exact hkeys a hmem b hother (le_antisymm hle hge)

end StableSorting
