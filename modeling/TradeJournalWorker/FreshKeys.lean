import Mathlib.Data.List.Nodup

namespace FreshKeys

variable {α κ : Type} (key : α → Option κ)

theorem eq_of_key_eq {entries : List α} (h : (entries.filterMap key).Nodup) {a b : α} {k : κ}
    (ha : a ∈ entries) (hb : b ∈ entries) (hka : key a = some k) (hkb : key b = some k) : a = b := by
  induction entries with
  | nil => exact absurd ha List.not_mem_nil
  | cons c rest ih =>
    have htail : (rest.filterMap key).Nodup := by
      cases hc : key c with
      | none =>
        rw [List.filterMap_cons_none hc] at h
        exact h
      | some j =>
        rw [List.filterMap_cons_some hc] at h
        exact (List.nodup_cons.mp h).2
    have hfirst : ∀ d ∈ rest, key c = some k → key d = some k → False := by
      intro d hd hc hkd
      rw [List.filterMap_cons_some hc] at h
      exact (List.nodup_cons.mp h).1 (List.mem_filterMap.mpr ⟨d, hd, hkd⟩)
    cases List.mem_cons.mp ha with
    | inl hac =>
      cases List.mem_cons.mp hb with
      | inl hbc => rw [hac, hbc]
      | inr hbrest => exact (hfirst b hbrest (hac ▸ hka) hkb).elim
    | inr harest =>
      cases List.mem_cons.mp hb with
      | inl hbc => exact (hfirst a harest (hbc ▸ hkb) hka).elim
      | inr hbrest => exact ih htail harest hbrest

section Fresh

variable [DecidableEq κ]

/-- The entries whose key was not seen before, and the keys seen afterwards. An entry without a
key is always kept. -/
def fresh : List κ → List α → List α × List κ
  | seen, [] => ([], seen)
  | seen, a :: rest =>
    match key a with
    | none => (a :: (fresh seen rest).1, (fresh seen rest).2)
    | some k =>
      if k ∈ seen then fresh seen rest
      else (a :: (fresh (seen ++ [k]) rest).1, (fresh (seen ++ [k]) rest).2)

theorem fresh_sublist (seen : List κ) (entries : List α) :
    (fresh key seen entries).1.Sublist entries := by
  induction entries generalizing seen with
  | nil => exact List.Sublist.slnil
  | cons a rest ih =>
    cases hkey : key a with
    | none =>
      simp only [fresh, hkey]
      exact (ih seen).cons_cons a
    | some k =>
      by_cases hseen : k ∈ seen
      · simp only [fresh, hkey, if_pos hseen]
        exact (ih seen).cons a
      · simp only [fresh, hkey, if_neg hseen]
        exact (ih (seen ++ [k])).cons_cons a

/-- The keys seen afterwards are those of before and those of the kept entries. -/
theorem fresh_seen (seen : List κ) (entries : List α) :
    (fresh key seen entries).2 = seen ++ (fresh key seen entries).1.filterMap key := by
  induction entries generalizing seen with
  | nil => exact (List.append_nil _).symm
  | cons a rest ih =>
    cases hkey : key a with
    | none =>
      simp only [fresh, hkey]
      rw [List.filterMap_cons_none hkey]
      exact ih seen
    | some k =>
      by_cases hseen : k ∈ seen
      · simp only [fresh, hkey, if_pos hseen]
        exact ih seen
      · simp only [fresh, hkey, if_neg hseen]
        rw [List.filterMap_cons_some hkey, ih, List.append_assoc]
        rfl

theorem fresh_nodup {seen : List κ} (h : seen.Nodup) (entries : List α) :
    (fresh key seen entries).2.Nodup := by
  induction entries generalizing seen with
  | nil => exact h
  | cons a rest ih =>
    cases hkey : key a with
    | none =>
      simp only [fresh, hkey]
      exact ih h
    | some k =>
      by_cases hseen : k ∈ seen
      · simp only [fresh, hkey, if_pos hseen]
        exact ih h
      · simp only [fresh, hkey, if_neg hseen]
        apply ih
        apply List.Nodup.append h (List.nodup_singleton k)
        intro other hmem hlast
        exact hseen (List.mem_singleton.mp hlast ▸ hmem)

theorem mem_fresh_of_none (seen : List κ) {entries : List α} {a : α} (h : a ∈ entries)
    (hkey : key a = none) : a ∈ (fresh key seen entries).1 := by
  induction entries generalizing seen with
  | nil => exact absurd h List.not_mem_nil
  | cons b rest ih =>
    cases hb : key b with
    | none =>
      simp only [fresh, hb]
      cases List.mem_cons.mp h with
      | inl heq => exact heq ▸ List.mem_cons_self
      | inr hrest => exact List.mem_cons_of_mem _ (ih seen hrest)
    | some k =>
      have hrest : a ∈ rest := by
        cases List.mem_cons.mp h with
        | inl heq =>
          rw [heq, hb] at hkey
          cases hkey
        | inr hrest => exact hrest
      by_cases hseen : k ∈ seen
      · simp only [fresh, hb, if_pos hseen]
        exact ih seen hrest
      · simp only [fresh, hb, if_neg hseen]
        exact List.mem_cons_of_mem _ (ih (seen ++ [k]) hrest)

/-- Every key among the entries has been seen afterwards. -/
theorem mem_fresh_seen (seen : List κ) {entries : List α} {a : α} {k : κ} (h : a ∈ entries)
    (hkey : key a = some k) : k ∈ (fresh key seen entries).2 := by
  have hkept : ∀ (seen : List κ) (others : List α), k ∈ seen → k ∈ (fresh key seen others).2 := by
    intro seen others hmem
    rw [fresh_seen]
    exact List.mem_append_left _ hmem
  induction entries generalizing seen with
  | nil => exact absurd h List.not_mem_nil
  | cons b rest ih =>
    cases hb : key b with
    | none =>
      have hrest : a ∈ rest := by
        cases List.mem_cons.mp h with
        | inl heq =>
          rw [heq, hb] at hkey
          cases hkey
        | inr hrest => exact hrest
      simp only [fresh, hb]
      exact ih seen hrest
    | some j =>
      by_cases hseen : j ∈ seen
      · simp only [fresh, hb, if_pos hseen]
        cases List.mem_cons.mp h with
        | inl heq =>
          rw [heq, hb] at hkey
          cases hkey
          exact hkept seen rest hseen
        | inr hrest => exact ih seen hrest
      · simp only [fresh, hb, if_neg hseen]
        cases List.mem_cons.mp h with
        | inl heq =>
          rw [heq, hb] at hkey
          cases hkey
          exact hkept (seen ++ [k]) rest (List.mem_append_right _ List.mem_cons_self)
        | inr hrest => exact ih (seen ++ [j]) hrest

end Fresh

end FreshKeys
