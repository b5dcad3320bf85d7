import TradeJournalWorker.ExceptRules

namespace TradeJournalWorker

section Folds

variable {α β γ ε : Type}

theorem foldlM_cons_eq_ok {f : α → β → Except ε α} {item : β} {items : List β} {start result : α} :
    (item :: items).foldlM f start = .ok result ↔
      ∃ next, f start item = .ok next ∧ items.foldlM f next = .ok result := by
  rw [List.foldlM_cons]
  constructor
  · intro h
    exact except_bind_eq_ok h
  · intro h
    obtain ⟨next, hnext, hrest⟩ := h
    rw [hnext, except_ok_bind, hrest]

/-- What one round carries from the items done to one more, a fold that returns has carried to
all. -/
theorem foldlM_ok_induction {f : α → β → Except ε α} (motive : List β → α → Prop)
    (step : ∀ done item acc next, motive done acc → f acc item = .ok next →
      motive (done ++ [item]) next)
    {items : List β} {start result : α} (hstart : motive [] start)
    (h : items.foldlM f start = .ok result) : motive items result := by
  suffices hall : ∀ (items done : List β) (acc : α), motive done acc →
      items.foldlM f acc = .ok result → motive (done ++ items) result from
    hall items [] start hstart h
  intro items
  induction items with
  | nil =>
    intro done acc hacc h
    cases h
    rw [List.append_nil]
    exact hacc
  | cons item items ih =>
    intro done acc hacc h
    obtain ⟨next, hnext, hrest⟩ := foldlM_cons_eq_ok.mp h
    have hmore := ih (done ++ [item]) next (step done item acc next hacc hnext) hrest
    rw [List.append_assoc] at hmore
    exact hmore

/-- Each round of a fold that returns has returned. -/
theorem foldlM_ok_forall {f : α → β → Except ε α} {items : List β} {start result : α}
    (h : items.foldlM f start = .ok result) : ∀ item ∈ items, ∃ acc next, f acc item = .ok next := by
  apply foldlM_ok_induction (fun done _ => ∀ item ∈ done, ∃ acc next, f acc item = .ok next) ?_ ?_ h
  · intro done item acc next hdone hstep other hother
    rcases List.mem_append.mp hother with hother | hother
    · exact hdone other hother
    · rw [List.mem_singleton.mp hother]
      exact ⟨acc, next, hstep⟩
  · intro item hitem
    cases hitem

/-- A fold whose rounds test an item and append what it gives. -/
theorem foldlM_collects {f : List γ → β → Except ε (List γ)} {fits : β → Prop} {g : β → List γ}
    (hstep : ∀ acc item next, f acc item = .ok next ↔ fits item ∧ next = acc ++ g item)
    {items : List β} {start result : List γ} :
    items.foldlM f start = .ok result ↔
      (∀ item ∈ items, fits item) ∧ result = start ++ items.flatMap g := by
  induction items generalizing start with
  | nil =>
    rw [List.flatMap_nil, List.append_nil]
    constructor
    · intro h
      cases h
      exact ⟨fun item hitem => absurd hitem List.not_mem_nil, rfl⟩
    · intro h
      rw [h.2]
      rfl
  | cons item items ih =>
    rw [foldlM_cons_eq_ok, List.forall_mem_cons, List.flatMap_cons]
    constructor
    · intro h
      obtain ⟨next, hnext, hrest⟩ := h
      obtain ⟨hfits, rfl⟩ := (hstep start item next).mp hnext
      obtain ⟨hall, hresult⟩ := ih.mp hrest
      rw [List.append_assoc] at hresult
      exact ⟨⟨hfits, hall⟩, hresult⟩
    · intro h
      obtain ⟨⟨hfits, hall⟩, hresult⟩ := h
      refine ⟨start ++ g item, (hstep start item _).mpr ⟨hfits, rfl⟩, ih.mpr ⟨hall, ?_⟩⟩
      rw [hresult, List.append_assoc]

end Folds

end TradeJournalWorker
