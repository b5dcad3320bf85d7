import TradeJournalWorker.LivePolls

namespace TradeJournalWorker

/-- What one opening makes of the state of its position. -/
def ExcursionState.opened (state : ExcursionState) (event : RawEvent) : ExcursionState :=
  { state.fromOpen event with samples := some ((state.fromOpen event).samples.getD 0) }

/-- The state of one position after the openings of a batch. -/
def openedState (ticket : String) (events : List RawEvent) (state : ExcursionState) :
    ExcursionState :=
  events.foldl (fun state event =>
    if event.eventType = .tradeOpened ∧ event.ticket ≠ "" ∧ event.ticket = ticket then
      state.opened event
    else state) state

theorem stateOf_set (positions : Excursions) (key ticket : String) (state : ExcursionState) :
    stateOf (positions.set key state) ticket =
      if ticket = key then state else stateOf positions ticket := by
  unfold stateOf
  rw [OrderedDict.get?_set]
  split
  · rfl
  · rfl

theorem stateOf_observeOpenEvents (positions : Excursions) (events : List RawEvent)
    (ticket : String) :
    stateOf (observeOpenEvents positions events).positions ticket =
      openedState ticket events (stateOf positions ticket) := by
  have hfold : ∀ observed : Observed,
      stateOf (events.foldl observeOpenEvent observed).positions ticket =
        openedState ticket events (stateOf observed.positions ticket) := by
    induction events with
    | nil => exact fun observed => rfl
    | cons event rest ih =>
      intro observed
      have hstep : stateOf (observeOpenEvent observed event).positions ticket =
          openedState ticket [event] (stateOf observed.positions ticket) := by
        unfold observeOpenEvent openedState
        simp only [List.foldl_cons, List.foldl_nil]
        by_cases hopened : event.eventType = .tradeOpened ∧ event.ticket ≠ ""
        · rw [if_pos hopened]
          by_cases hticket : event.ticket = ticket
          · subst hticket
            rw [if_pos ⟨hopened.1, hopened.2, rfl⟩]
            simp only [stateOf_set, if_true]
            rfl
          · rw [if_neg fun h => hticket h.2.2]
            simp only [stateOf_set]
            rw [if_neg fun h => hticket h.symm]
        · rw [if_neg hopened, if_neg fun h => hopened ⟨h.1, h.2.1⟩]
      rw [List.foldl_cons, ih, hstep]
      rfl
  exact hfold _

section Idempotence

variable {state : ExcursionState} {event other : RawEvent}

theorem or_absorbs {α : Type} {a b c : Option α} (h : a.or c = a) : (a.or b).or c = a.or b := by
  cases a with
  | none =>
    cases c with
    | none => exact Option.or_none
    | some value => cases h
  | some value => rfl

/-- An opening that a state has taken in changes it no more. -/
theorem opened_self : (state.opened event).opened event = state.opened event := by
  unfold ExcursionState.opened ExcursionState.fromOpen
  simp [Option.or_assoc]

theorem opened_of_absorbed (h : state.opened event = state) :
    (state.opened other).opened event = state.opened other := by
  unfold ExcursionState.opened ExcursionState.fromOpen at h ⊢
  have hsymbol := or_absorbs (b := other.symbol) (congrArg ExcursionState.symbol h)
  have hdirection := or_absorbs (b := other.direction) (congrArg ExcursionState.direction h)
  have hprice := or_absorbs (b := other.openPrice) (congrArg ExcursionState.openPrice h)
  have hbalance :=
    or_absorbs (b := other.balanceBeforeOpen) (congrArg ExcursionState.balanceBeforeOpen h)
  simp only [hsymbol, hdirection, hprice, hbalance, Option.getD_some]

theorem openedState_absorbs {ticket : String} {events : List RawEvent} :
    ∀ {state : ExcursionState}, state.opened event = state →
      (openedState ticket events state).opened event = openedState ticket events state := by
  induction events with
  | nil => exact fun h => h
  | cons head rest ih =>
    intro state h
    unfold openedState
    rw [List.foldl_cons]
    apply ih
    split
    · exact opened_of_absorbed h
    · exact h

/-- Observing the openings of a batch once more changes nothing. -/
theorem openedState_idem (ticket : String) (events : List RawEvent) (state : ExcursionState) :
    openedState ticket events (openedState ticket events state) =
      openedState ticket events state := by
  have habsorbed : ∀ (events : List RawEvent) (state : ExcursionState), ∀ event ∈ events,
      event.eventType = .tradeOpened ∧ event.ticket ≠ "" ∧ event.ticket = ticket →
      (openedState ticket events state).opened event = openedState ticket events state := by
    intro events
    induction events with
    | nil => exact fun state event hmem => absurd hmem List.not_mem_nil
    | cons head rest ih =>
      intro state event hmem hcond
      unfold openedState
      rw [List.foldl_cons]
      rcases List.mem_cons.mp hmem with rfl | hmem
      · rw [if_pos hcond]
        exact openedState_absorbs opened_self
      · exact ih _ event hmem hcond
  have hfixed : ∀ (others : List RawEvent) (state : ExcursionState),
      (∀ event ∈ others, event.eventType = .tradeOpened ∧ event.ticket ≠ "" ∧
        event.ticket = ticket → state.opened event = state) →
      openedState ticket others state = state := by
    intro others
    induction others with
    | nil => exact fun state h => rfl
    | cons head rest ih =>
      intro state h
      unfold openedState
      rw [List.foldl_cons]
      have hhead : (if head.eventType = .tradeOpened ∧ head.ticket ≠ "" ∧ head.ticket = ticket then
          state.opened head else state) = state := by
        split
        next hcond => exact h head List.mem_cons_self hcond
        next => rfl
      rw [hhead]
      exact ih state fun event hmem => h event (List.mem_cons_of_mem _ hmem)
  exact hfixed events _ (habsorbed events state)

end Idempotence

section Snapshot

theorem stateOf_observePosition (now : String) (observed : Observed)
    (entry : String × PositionRow) {ticket : String} (h : observedTicket entry.1 entry.2 ≠ ticket) :
    stateOf (observePosition now observed entry).positions ticket =
      stateOf observed.positions ticket := by
  unfold observePosition
  simp only
  split
  · rw [stateOf_set, if_neg fun heq => h heq.symm]
  · simp only [stateOf_set]
    rw [if_neg fun heq => h heq.symm]

/-- A snapshot leaves the positions alone that it does not show. -/
theorem stateOf_observeSnapshot (positions : Excursions) (snapshot : Snapshot) (now : String)
    {ticket : String}
    (h : ∀ entry ∈ snapshot.positions.entries, observedTicket entry.1 entry.2 ≠ ticket) :
    stateOf (observeSnapshot positions snapshot now).positions ticket =
      stateOf positions ticket := by
  have hfold : ∀ (entries : List (String × PositionRow)) (observed : Observed),
      (∀ entry ∈ entries, observedTicket entry.1 entry.2 ≠ ticket) →
      stateOf (entries.foldl (observePosition now) observed).positions ticket =
        stateOf observed.positions ticket := by
    intro entries
    induction entries with
    | nil => exact fun observed _ => rfl
    | cons entry rest ih =>
      intro observed hall
      rw [List.foldl_cons, ih _ fun e he => hall e (List.mem_cons_of_mem _ he)]
      exact stateOf_observePosition now observed entry (hall entry List.mem_cons_self)
  exact hfold _ _ h

theorem mem_positionsByStableId {rows : List PositionRow} {key : String} {row : PositionRow}
    (h : (positionsByStableId rows).get? key = some row) :
    pyOr row.positionId row.ticket = some key := by
  have hresult : ∀ key row, (∅ : OrderedDict String PositionRow).get? key = some row →
      pyOr row.positionId row.ticket = some key := by
    intro key row h
    cases h
  unfold positionsByStableId at h
  generalize (∅ : OrderedDict String PositionRow) = result at h hresult
  induction rows generalizing result with
  | nil => exact hresult key row h
  | cons head rest ih =>
    rw [List.foldl_cons] at h
    refine ih _ h ?_
    intro key row hrow
    split at hrow
    next found hfound =>
      rw [OrderedDict.get?_set] at hrow
      split at hrow
      next heq =>
        cases hrow
        rw [hfound, heq]
      next => exact hresult key row hrow
    next => exact hresult key row hrow

/-- The rows of a poll are observed under the keys of its snapshot. -/
theorem observedTicket_mem_keys {reading : BridgeReading} :
    ∀ entry ∈ reading.snapshot.positions.entries,
      observedTicket entry.1 entry.2 ∈ reading.snapshot.positions.keys := by
  rintro ⟨key, row⟩ hentry
  have hrow := OrderedDict.mem_entries_iff.mp hentry
  have hkey : key ∈ reading.snapshot.positions.keys := List.mem_map_of_mem hentry
  have hstable := mem_positionsByStableId hrow
  have hsame : observedTicket key row = key := by
    unfold observedTicket
    cases hid : row.positionId with
    | none => rfl
    | some text =>
      rw [hid] at hstable
      unfold pyOr at hstable ⊢
      simp only at hstable ⊢
      split
      next => rfl
      next hne =>
        rw [if_neg hne] at hstable
        exact Option.some.inj hstable
  rw [hsame]
  exact hkey

theorem stateOf_observed (positions : Excursions) (reading : BridgeReading) {ticket : String}
    (h : ticket ∉ reading.snapshot.positions.keys) :
    stateOf (observeSnapshot positions reading.snapshot reading.now).positions ticket =
      stateOf positions ticket := by
  apply stateOf_observeSnapshot
  intro entry hentry heq
  exact h (heq ▸ observedTicket_mem_keys entry hentry)

end Snapshot

end TradeJournalWorker
