import TradeJournalWorker.PollPayloads

namespace TradeJournalWorker

/-- The order was pending, is gone, and its ticket identifies an open position. -/
def ExecutedPending (previous current : Snapshot) (ticket : String) : Prop :=
  ticket ∈ previous.orders.keys ∧ ticket ∉ current.orders.keys ∧ ticket ∈ current.positions.keys

instance (previous current : Snapshot) (ticket : String) :
    Decidable (ExecutedPending previous current ticket) :=
  inferInstanceAs (Decidable (_ ∧ _ ∧ _))

/-- No payload of the poll says that an executed order was cancelled. -/
def NeverCancelled (digest : Fingerprint → String) (sampleMs : Nat) (excursions : Excursions)
    (records : List EventRecord) (previous : Snapshot) (reading : BridgeReading) : Prop :=
  ∀ plan, planPoll sampleMs excursions previous records reading = .ok plan →
    ∀ ticket, ExecutedPending previous reading.snapshot ticket →
      ∀ payload ∈ plan.payloads digest reading,
        ¬ (payload.eventType = .pendingOrderCancelled ∧ payload.externalTradeId = ticket)

/-- An opening of the batch has no symbol yet, so that the poll stops before it emits. -/
def HeldBack (records : List EventRecord) (previous current : Snapshot) : Prop :=
  ∃ event ∈ detectBatch records previous current,
    ∃ error, withAuthoritativeSymbol previous current event = .error error

/-- The record takes an order out of the terminal. -/
def DeletesOrder (record : EventRecord) : Prop :=
  record.historyArchived = false ∧
    (record.eventType = .orderDelete ∨ record.eventType = .historyAdd)

section Cancellations

variable {records : List EventRecord} {previous current : Snapshot} {event : RawEvent}

theorem dealAddEvent_type (record : EventRecord) (old new : Option PositionRow) :
    (dealAddEvent record old new).eventType ≠ .pendingOrderCancelled := by
  unfold dealAddEvent
  split
  · split
    · simp [dealEvent, baseEvent]
    · simp [dealEvent, baseEvent]
  · split <;> simp [closingDealEvent, dealEvent, baseEvent]
  · split <;> simp [closingDealEvent, dealEvent, baseEvent]
  · simp [closingDealEvent, dealEvent, baseEvent]

theorem positionEvent_type (record : EventRecord) (old : Option PositionRow) (new : PositionRow) :
    (positionEvent record old new).eventType ≠ .pendingOrderCancelled := by
  unfold positionEvent
  dsimp only
  split
  · simp [baseEvent]
  · split <;> simp [baseEvent]

/-- The stream cancels exactly what it is told to delete. -/
theorem mql5FileEvent_cancelled_iff (record : EventRecord)
    (before after : OrderedDict String PositionRow) :
    (mql5FileEvent record before after).eventType = .pendingOrderCancelled ↔
      record.eventType = .orderDelete ∨ record.eventType = .historyAdd := by
  unfold mql5FileEvent
  dsimp only
  cases htype : record.eventType with
  | dealAdd => simp [dealAddEvent_type]
  | position =>
    cases after.get? record.eventTicket with
    | none => simp [recordedEvent, baseEvent]
    | some new => simp [positionEvent_type]
  | orderAdd => simp [baseEvent]
  | orderUpdate => simp [baseEvent]
  | orderDelete => simp [baseEvent]
  | historyAdd => simp [baseEvent]
  | other => simp [recordedEvent, baseEvent]

/-- The diff cancels no order whose ticket is that of an open position. -/
theorem diff_cancelled (hdiff : DiffEvent previous current event)
    (htype : event.eventType = .pendingOrderCancelled) :
    ¬ ExecutedPending previous current event.ticket := by
  intro hexecuted
  cases hdiff with
  | @orderCancelled ticket old hold hnew hposition =>
    have hmem : (current.positions.get? ticket).isSome = true :=
      OrderedDict.isSome_get?_iff.mpr hexecuted.2.2
    rw [hposition] at hmem
    cases hmem
  | opened => cases htype
  | modified => cases htype
  | closed => cases htype
  | orderCreated => cases htype
  | orderModified => cases htype
  | volumeChanged => cases htype
  | dealRecorded => cases htype

theorem mem_kept_of_cancelled (hevent : event ∈ replayedStream records previous current)
    (htype : event.eventType = .pendingOrderCancelled) :
    event ∈ keptStream records previous current := by
  refine mem_keptStream.mpr ⟨hevent, echoesClose_of_ne ?_⟩
  rw [htype]
  simp

/-- The batch cancels an executed order exactly if one of its records deletes the order. -/
theorem detectBatch_cancelled_iff {ticket : String}
    (hexecuted : ExecutedPending previous current ticket) :
    (∃ event ∈ detectBatch records previous current,
        event.eventType = .pendingOrderCancelled ∧ event.ticket = ticket) ↔
      ∃ record ∈ records, DeletesOrder record ∧ record.eventTicket = ticket := by
  rw [detectBatch_eq_merge]
  constructor
  · rintro ⟨event, hevent, htype, hticket⟩
    rcases mem_merge.mp hevent with hstream | hdiff
    · obtain ⟨record, hrecord, harchived, symbol, before, heq⟩ :=
        mem_streamEvents (mem_keptStream.mp hstream).1
      rw [heq] at htype
      rw [heq, mql5FileEvent_ticket] at hticket
      have hdeletes := (mql5FileEvent_cancelled_iff { record with symbol := symbol } _ _).mp htype
      exact ⟨record, hrecord, ⟨harchived, hdeletes⟩, hticket⟩
    · exact absurd (hticket ▸ hexecuted) (diff_cancelled hdiff.1 htype)
  · rintro ⟨record, hrecord, hdeletes, hticket⟩
    obtain ⟨symbol, before, hevent⟩ :=
      exists_streamEvent previous current (trackedFrom previous) hrecord hdeletes.1
    have htype := (mql5FileEvent_cancelled_iff { record with symbol := symbol }
      (replayRecord previous current before { record with symbol := symbol }).previous
      (replayRecord previous current before { record with symbol := symbol }).current).mpr
      hdeletes.2
    have hkept := mem_merge.mpr (Or.inl (mem_kept_of_cancelled hevent htype))
    have hnamed := mql5FileEvent_ticket { record with symbol := symbol }
      (replayRecord previous current before { record with symbol := symbol }).previous
      (replayRecord previous current before { record with symbol := symbol }).current
    exact ⟨_, hkept, htype, hnamed.trans hticket⟩

end Cancellations

section Polls

variable {digest : Fingerprint → String} {sampleMs : Nat} {excursions : Excursions}
  {records : List EventRecord} {previous : Snapshot} {reading : BridgeReading} {plan : Plan}

theorem planPoll_ok (h : planPoll sampleMs excursions previous records reading = .ok plan) :
    ∃ events, prepareEvents previous reading.snapshot
        (detectBatch records previous reading.snapshot) = .ok events ∧
      plan = Plan.of sampleMs excursions reading events := by
  unfold planPoll at h
  obtain ⟨events, hprepared, h⟩ := except_bind_eq_ok h
  cases h
  exact ⟨events, hprepared, rfl⟩

/-- A batch without an opening that is held back goes through. -/
theorem exists_plan (h : ¬ HeldBack records previous reading.snapshot) :
    ∃ plan, planPoll sampleMs excursions previous records reading = .ok plan := by
  have hall : ∀ event ∈ detectBatch records previous reading.snapshot,
      withAuthoritativeSymbol previous reading.snapshot event =
        .ok ((withAuthoritativeSymbol previous reading.snapshot event).toOption.getD event) := by
    intro event hevent
    cases hresult : withAuthoritativeSymbol previous reading.snapshot event with
    | ok prepared => rfl
    | error error => exact absurd ⟨event, hevent, error, hresult⟩ h
  have hprepared := mapM_eq_ok hall
  unfold planPoll prepareEvents
  rw [hprepared]
  exact ⟨_, rfl⟩

theorem not_heldBack_of_plan
    (hplan : planPoll sampleMs excursions previous records reading = .ok plan) :
    ¬ HeldBack records previous reading.snapshot := by
  rintro ⟨event, hevent, error, herror⟩
  obtain ⟨events, hprepared, -⟩ := planPoll_ok hplan
  obtain ⟨prepared, -, hok⟩ := exists_of_mem_left (forall₂_of_mapM hprepared) hevent
  rw [herror] at hok
  cases hok

/-- The payloads have the types and tickets of the batch. -/
theorem payload_cancelled_iff
    (hplan : planPoll sampleMs excursions previous records reading = .ok plan) {ticket : String} :
    (∃ payload ∈ plan.payloads digest reading,
        payload.eventType = .pendingOrderCancelled ∧ payload.externalTradeId = ticket) ↔
      ∃ event ∈ detectBatch records previous reading.snapshot,
        event.eventType = .pendingOrderCancelled ∧ event.ticket = ticket := by
  obtain ⟨events, hprepared, rfl⟩ := planPoll_ok hplan
  have hpairs := forall₂_of_mapM hprepared
  constructor
  · rintro ⟨payload, hpayload, htype, hticket⟩
    obtain ⟨prepared, hmem, excursion, rfl⟩ := mem_payloads hpayload
    obtain ⟨event, hevent, hok⟩ := exists_of_mem_right hpairs hmem
    obtain ⟨symbol, rfl⟩ := (withAuthoritativeSymbol_ok hok).2.1
    exact ⟨event, hevent, htype, hticket⟩
  · rintro ⟨event, hevent, htype, hticket⟩
    obtain ⟨prepared, hmem, hok⟩ := exists_of_mem_left hpairs hevent
    have hsame : prepared = event := (withAuthoritativeSymbol_ok hok).2.2 (by simp [htype])
    rw [hsame] at hmem
    obtain ⟨excursion, hpayload⟩ := exists_payload hmem
    exact ⟨_, hpayload, htype, hticket⟩

end Polls

/-- An executed order stays without a cancellation exactly if no record that the poll takes
deletes it, or the poll is held back before it emits. -/
theorem never_cancelled_iff (digest : Fingerprint → String) (sampleMs : Nat)
    (excursions : Excursions) (records : List EventRecord) (previous : Snapshot)
    (reading : BridgeReading) :
    NeverCancelled digest sampleMs excursions records previous reading ↔
      HeldBack records previous reading.snapshot ∨ ∀ record ∈ records, DeletesOrder record →
        ¬ ExecutedPending previous reading.snapshot record.eventTicket := by
  constructor
  · intro h
    by_cases hheld : HeldBack records previous reading.snapshot
    · exact Or.inl hheld
    · right
      intro record hrecord hdeletes hexecuted
      have hplans : ∃ plan,
          planPoll sampleMs excursions previous records reading = .ok plan := exists_plan hheld
      obtain ⟨plan, hplan⟩ := hplans
      have hbatch := (detectBatch_cancelled_iff hexecuted).mpr ⟨record, hrecord, hdeletes, rfl⟩
      obtain ⟨payload, hpayload, hcancelled⟩ := (payload_cancelled_iff hplan).mpr hbatch
      exact h plan hplan _ hexecuted payload hpayload hcancelled
  · intro h plan hplan ticket hexecuted payload hpayload hcancelled
    rcases h with hheld | hnone
    · exact not_heldBack_of_plan hplan hheld
    · obtain ⟨record, hrecord, hdeletes, hticket⟩ := (detectBatch_cancelled_iff hexecuted).mp
        ((payload_cancelled_iff hplan).mp ⟨payload, hpayload, hcancelled⟩)
      exact hnone record hrecord hdeletes (hticket ▸ hexecuted)

/-- A pending order. -/
def pendingOrder : Snapshot where
  orders := OrderedDict.empty.set "7" { ticket := some "7", price := some 2, volume := some 1 }

/-- The bridge after the order became a position. -/
def filledOrder : BridgeReading where
  account := { login := some "1", server := some "demo" }
  positions := [
    { ticket := some "7", symbol := some "EURUSD", direction := some "buy", volume := some 1 }]

/-- The terminal takes every executed order out of its list of pending ones. -/
def deletedOrder : EventRecord where
  sequence := 1
  eventType := .orderDelete
  ticket := "7"
  orderId := some "7"

theorem filledOrder_cancelled :
    ¬ NeverCancelled (fun _ => "0") 250 ∅ [deletedOrder] pendingOrder filledOrder := by
  intro h
  have hexecuted : ExecutedPending pendingOrder filledOrder.snapshot "7" := by decide
  have hopened : ∀ event ∈ detectBatch [deletedOrder] pendingOrder filledOrder.snapshot,
      (withAuthoritativeSymbol pendingOrder filledOrder.snapshot event).isOk = true := by
    decide +kernel
  have hheld : ¬ HeldBack [deletedOrder] pendingOrder filledOrder.snapshot := by
    rintro ⟨event, hevent, error, herror⟩
    have hok := hopened event hevent
    rw [herror] at hok
    cases hok
  obtain ⟨plan, hplan⟩ := @exists_plan 250 ∅ _ _ _ hheld
  have hbatch : ∃ event ∈ detectBatch [deletedOrder] pendingOrder filledOrder.snapshot,
      event.eventType = .pendingOrderCancelled ∧ event.ticket = "7" := by decide +kernel
  obtain ⟨payload, hpayload, hcancelled⟩ := (payload_cancelled_iff hplan).mpr hbatch
  exact h plan hplan "7" hexecuted payload hpayload hcancelled

end TradeJournalWorker
