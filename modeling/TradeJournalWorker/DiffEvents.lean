import TradeJournalWorker.EventDetector

namespace TradeJournalWorker

/-- Everything a snapshot diff can report, with the rows it reports on. -/
inductive DiffEvent (previous current : Snapshot) : RawEvent → Prop
  | opened {ticket : String} {pos : PositionRow}
      (hnew : current.positions.get? ticket = some pos)
      (hold : previous.positions.get? ticket = none) :
      DiffEvent previous current (openedEvent ticket pos)
  | modified {ticket : String} {pos old : PositionRow}
      (hnew : current.positions.get? ticket = some pos)
      (hold : previous.positions.get? ticket = some old)
      (hchanged : pos.stopLoss ≠ old.stopLoss ∨ pos.takeProfit ≠ old.takeProfit) :
      DiffEvent previous current (modifiedEvent ticket pos old)
  | closed {ticket : String} {old : PositionRow}
      (hold : previous.positions.get? ticket = some old)
      (hnew : current.positions.get? ticket = none) :
      DiffEvent previous current (closedEvent ticket old (findClosingDeal current.deals ticket))
  | orderCreated {ticket : String} {order : OrderRow}
      (hnew : current.orders.get? ticket = some order)
      (hold : previous.orders.get? ticket = none) :
      DiffEvent previous current (orderEvent .pendingOrderCreated ticket order)
  | orderModified {ticket : String} {order old : OrderRow}
      (hnew : current.orders.get? ticket = some order)
      (hold : previous.orders.get? ticket = some old)
      (hchanged : order.price ≠ old.price ∨ order.stopLoss ≠ old.stopLoss ∨
        order.takeProfit ≠ old.takeProfit) :
      DiffEvent previous current (orderModifiedEvent ticket order old)
  | orderCancelled {ticket : String} {old : OrderRow}
      (hold : previous.orders.get? ticket = some old)
      (hnew : current.orders.get? ticket = none)
      (hposition : current.positions.get? ticket = none) :
      DiffEvent previous current (orderEvent .pendingOrderCancelled ticket old)
  | volumeChanged {ticket : String} {new old : PositionRow}
      (hnew : current.positions.get? ticket = some new)
      (hold : previous.positions.get? ticket = some old)
      (hchanged : old.volume ≠ new.volume) :
      DiffEvent previous current (volumeChangedEvent ticket new old)
  | dealRecorded {ticket : String} {deal : DealRow}
      (hnew : current.deals.get? ticket = some deal)
      (hold : previous.deals.get? ticket = none) :
      DiffEvent previous current (dealRecordedEvent ticket deal)

section Membership

variable {previous current : Snapshot} {event : RawEvent}

theorem get?_of_mem_keys {ρ : Type} {rows : OrderedDict String ρ} {key : String} :
    key ∈ rows.keys ↔ ∃ row, rows.get? key = some row := by
  rw [← OrderedDict.isSome_get?_iff, Option.isSome_iff_exists]

theorem mem_rows_flatMap {ρ : Type} {rows : OrderedDict String ρ} {f : String → ρ → List RawEvent} :
    (event ∈ (sortedKeys rows.keys).flatMap fun key => ((rows.get? key).map (f key)).getD []) ↔
      ∃ key row, rows.get? key = some row ∧ event ∈ f key row := by
  rw [List.mem_flatMap]
  constructor
  · rintro ⟨key, -, hevent⟩
    cases hrow : rows.get? key with
    | none =>
      rw [hrow] at hevent
      exact absurd hevent List.not_mem_nil
    | some row =>
      rw [hrow] at hevent
      exact ⟨key, row, hrow, hevent⟩
  · rintro ⟨key, row, hrow, hevent⟩
    refine ⟨key, mem_sortedKeys.mpr (get?_of_mem_keys.mpr ⟨row, hrow⟩), ?_⟩
    rw [hrow]
    exact hevent

theorem mem_openedOrModified {ticket : String} {pos : PositionRow} :
    event ∈ openedOrModified previous ticket pos ↔
      (previous.positions.get? ticket = none ∧ event = openedEvent ticket pos) ∨
        ∃ old, previous.positions.get? ticket = some old ∧
          (pos.stopLoss ≠ old.stopLoss ∨ pos.takeProfit ≠ old.takeProfit) ∧
          event = modifiedEvent ticket pos old := by
  unfold openedOrModified
  cases previous.positions.get? ticket with
  | none => simp
  | some old =>
    by_cases hstop : pos.stopLoss = old.stopLoss
    · by_cases htake : pos.takeProfit = old.takeProfit
      · simp [hstop, htake]
      · simp [hstop, htake]
    · by_cases htake : pos.takeProfit = old.takeProfit
      · simp [hstop, htake]
      · simp [hstop, htake]

theorem mem_createdOrModified {ticket : String} {order : OrderRow} :
    event ∈ createdOrModified previous ticket order ↔
      (previous.orders.get? ticket = none ∧
          event = orderEvent .pendingOrderCreated ticket order) ∨
        ∃ old, previous.orders.get? ticket = some old ∧
          (order.price ≠ old.price ∨ order.stopLoss ≠ old.stopLoss ∨
            order.takeProfit ≠ old.takeProfit) ∧
          event = orderModifiedEvent ticket order old := by
  unfold createdOrModified
  cases previous.orders.get? ticket with
  | none => simp
  | some old =>
    simp only [reduceCtorEq, false_and, Option.some.injEq, false_or, exists_eq_left']
    split
    next h => simp [h]
    next h => simp [h]

theorem mem_detectTradeClosed :
    event ∈ detectTradeClosed previous current ↔
      ∃ ticket old, previous.positions.get? ticket = some old ∧
        current.positions.get? ticket = none ∧
        event = closedEvent ticket old (findClosingDeal current.deals ticket) := by
  unfold detectTradeClosed
  rw [List.mem_flatMap]
  constructor
  · rintro ⟨ticket, hkey, hevent⟩
    obtain ⟨old, hold⟩ := get?_of_mem_keys.mp (mem_sortedKeys.mp hkey)
    split at hevent
    · exact absurd hevent List.not_mem_nil
    next hnew =>
      rw [hold] at hevent
      exact ⟨ticket, old, hold, OrderedDict.get?_eq_none_iff.mpr hnew, List.mem_singleton.mp hevent⟩
  · rintro ⟨ticket, old, hold, hnew, rfl⟩
    refine ⟨ticket, mem_sortedKeys.mpr (get?_of_mem_keys.mpr ⟨old, hold⟩), ?_⟩
    rw [if_neg (OrderedDict.get?_eq_none_iff.mp hnew), hold]
    exact List.mem_singleton_self _

theorem mem_detectPendingOrderEvents :
    event ∈ detectPendingOrderEvents previous current ↔
      (∃ ticket order, current.orders.get? ticket = some order ∧
        event ∈ createdOrModified previous ticket order) ∨
      ∃ ticket old, previous.orders.get? ticket = some old ∧
        current.orders.get? ticket = none ∧ current.positions.get? ticket = none ∧
        event = orderEvent .pendingOrderCancelled ticket old := by
  unfold detectPendingOrderEvents
  rw [List.mem_append, mem_rows_flatMap, List.mem_flatMap]
  apply or_congr Iff.rfl
  constructor
  · rintro ⟨ticket, hkey, hevent⟩
    obtain ⟨old, hold⟩ := get?_of_mem_keys.mp (mem_sortedKeys.mp hkey)
    split at hevent
    · exact absurd hevent List.not_mem_nil
    next hnew =>
      rw [not_or] at hnew
      rw [hold] at hevent
      exact ⟨ticket, old, hold, OrderedDict.get?_eq_none_iff.mpr hnew.1,
        OrderedDict.get?_eq_none_iff.mpr hnew.2, List.mem_singleton.mp hevent⟩
  · rintro ⟨ticket, old, hold, hnew, hposition, rfl⟩
    refine ⟨ticket, mem_sortedKeys.mpr (get?_of_mem_keys.mpr ⟨old, hold⟩), ?_⟩
    have hgone : ¬ (ticket ∈ current.orders.keys ∨ ticket ∈ current.positions.keys) := by
      rw [not_or]
      exact ⟨OrderedDict.get?_eq_none_iff.mp hnew, OrderedDict.get?_eq_none_iff.mp hposition⟩
    rw [if_neg hgone, hold]
    exact List.mem_singleton_self _

theorem mem_detectVolumeChanges :
    event ∈ detectVolumeChanges previous current ↔
      ∃ ticket old new, previous.positions.get? ticket = some old ∧
        current.positions.get? ticket = some new ∧ old.volume ≠ new.volume ∧
        event = volumeChangedEvent ticket new old := by
  unfold detectVolumeChanges
  rw [List.mem_flatMap]
  constructor
  · rintro ⟨ticket, hkey, hevent⟩
    have hboth := List.mem_filter.mp (mem_sortedKeys.mp hkey)
    obtain ⟨old, hold⟩ := get?_of_mem_keys.mp hboth.1
    obtain ⟨new, hnew⟩ := get?_of_mem_keys.mp (of_decide_eq_true hboth.2)
    rw [hold, hnew] at hevent
    simp only at hevent
    split at hevent
    next hchanged =>
      exact ⟨ticket, old, new, hold, hnew, hchanged, List.mem_singleton.mp hevent⟩
    next => exact absurd hevent List.not_mem_nil
  · rintro ⟨ticket, old, new, hold, hnew, hchanged, rfl⟩
    refine ⟨ticket, mem_sortedKeys.mpr (List.mem_filter.mpr ⟨?_, ?_⟩), ?_⟩
    · exact get?_of_mem_keys.mpr ⟨old, hold⟩
    · exact decide_eq_true (get?_of_mem_keys.mpr ⟨new, hnew⟩)
    · rw [hold, hnew]
      simp [hchanged]

theorem mem_detectNewDeals :
    event ∈ detectNewDeals previous current ↔
      ∃ ticket deal, current.deals.get? ticket = some deal ∧
        previous.deals.get? ticket = none ∧ event = dealRecordedEvent ticket deal := by
  unfold detectNewDeals
  rw [List.mem_flatMap]
  constructor
  · rintro ⟨ticket, hkey, hevent⟩
    have hboth := List.mem_filter.mp (mem_sortedKeys.mp hkey)
    obtain ⟨deal, hdeal⟩ := get?_of_mem_keys.mp hboth.1
    have hold := OrderedDict.get?_eq_none_iff.mpr (of_decide_eq_true hboth.2)
    rw [hdeal] at hevent
    exact ⟨ticket, deal, hdeal, hold, List.mem_singleton.mp hevent⟩
  · rintro ⟨ticket, deal, hdeal, hold, rfl⟩
    refine ⟨ticket, mem_sortedKeys.mpr (List.mem_filter.mpr ⟨?_, ?_⟩), ?_⟩
    · exact get?_of_mem_keys.mpr ⟨deal, hdeal⟩
    · exact decide_eq_true (OrderedDict.get?_eq_none_iff.mp hold)
    · rw [hdeal]
      exact List.mem_singleton_self _

/-- The diff reports exactly what `DiffEvent` lists. -/
theorem mem_detectWindowsEvents :
    event ∈ detectWindowsEvents previous current ↔ DiffEvent previous current event := by
  unfold detectWindowsEvents detectEvents detectTradeOpenedAndModified
  simp only [List.mem_append, mem_rows_flatMap, mem_openedOrModified, mem_detectTradeClosed,
    mem_detectPendingOrderEvents, mem_createdOrModified, mem_detectVolumeChanges,
    mem_detectNewDeals]
  constructor
  · intro h
    rcases h with (((⟨ticket, pos, hnew, ⟨hold, rfl⟩ | ⟨old, hold, hchanged, rfl⟩⟩ |
      ⟨ticket, old, hold, hnew, rfl⟩) |
      (⟨ticket, order, hnew, ⟨hold, rfl⟩ | ⟨old, hold, hchanged, rfl⟩⟩ |
        ⟨ticket, old, hold, hnew, hposition, rfl⟩)) |
      ⟨ticket, old, new, hold, hnew, hchanged, rfl⟩) | ⟨ticket, deal, hnew, hold, rfl⟩
    · exact .opened hnew hold
    · exact .modified hnew hold hchanged
    · exact .closed hold hnew
    · exact .orderCreated hnew hold
    · exact .orderModified hnew hold hchanged
    · exact .orderCancelled hold hnew hposition
    · exact .volumeChanged hnew hold hchanged
    · exact .dealRecorded hnew hold
  · intro h
    cases h with
    | opened hnew hold =>
      exact .inl (.inl (.inl (.inl ⟨_, _, hnew, .inl ⟨hold, rfl⟩⟩)))
    | modified hnew hold hchanged =>
      exact .inl (.inl (.inl (.inl ⟨_, _, hnew, .inr ⟨_, hold, hchanged, rfl⟩⟩)))
    | closed hold hnew => exact .inl (.inl (.inl (.inr ⟨_, _, hold, hnew, rfl⟩)))
    | orderCreated hnew hold =>
      exact .inl (.inl (.inr (.inl ⟨_, _, hnew, .inl ⟨hold, rfl⟩⟩)))
    | orderModified hnew hold hchanged =>
      exact .inl (.inl (.inr (.inl ⟨_, _, hnew, .inr ⟨_, hold, hchanged, rfl⟩⟩)))
    | orderCancelled hold hnew hposition =>
      exact .inl (.inl (.inr (.inr ⟨_, _, hold, hnew, hposition, rfl⟩)))
    | volumeChanged hnew hold hchanged =>
      exact .inl (.inr ⟨_, _, _, hold, hnew, hchanged, rfl⟩)
    | dealRecorded hnew hold => exact .inr ⟨_, _, hnew, hold, rfl⟩

/-- Nothing changes between a snapshot and itself. -/
theorem detectWindowsEvents_self (snapshot : Snapshot) :
    detectWindowsEvents snapshot snapshot = [] := by
  apply List.eq_nil_iff_forall_not_mem.mpr
  intro event hmem
  have hdiff := mem_detectWindowsEvents.mp hmem
  cases hdiff with
  | opened hnew hold => exact absurd (hnew.symm.trans hold) (by simp)
  | modified hnew hold hchanged =>
    cases hnew.symm.trans hold
    simp at hchanged
  | closed hold hnew => exact absurd (hold.symm.trans hnew) (by simp)
  | orderCreated hnew hold => exact absurd (hnew.symm.trans hold) (by simp)
  | orderModified hnew hold hchanged =>
    cases hnew.symm.trans hold
    simp at hchanged
  | orderCancelled hold hnew hposition => exact absurd (hold.symm.trans hnew) (by simp)
  | volumeChanged hnew hold hchanged =>
    cases hnew.symm.trans hold
    exact hchanged rfl
  | dealRecorded hnew hold => exact absurd (hnew.symm.trans hold) (by simp)

end Membership

end TradeJournalWorker
