import TradeJournalWorker.MergedEvents

namespace TradeJournalWorker

/-- A ticket is that of a position or that of a pending order. -/
inductive TicketKind where
  | position
  | order
  deriving DecidableEq, Repr

/-- What a modification event reports; positions have no price to modify. -/
structure Levels where
  price : Option Rat
  stopLoss : Option Rat
  takeProfit : Option Rat
  deriving DecidableEq, Repr

namespace TicketKind

def modification : TicketKind → EventType
  | position => .tradeModified
  | order => .pendingOrderModified

def levels (kind : TicketKind) (snapshot : Snapshot) (ticket : String) : Option Levels :=
  match kind with
  | position => (snapshot.positions.get? ticket).map fun row =>
      ⟨none, row.stopLoss, row.takeProfit⟩
  | order => (snapshot.orders.get? ticket).map fun row =>
      ⟨row.price, row.stopLoss, row.takeProfit⟩

/-- The price of an event counts for orders only. -/
def price (kind : TicketKind) (price : Option Rat) : Option Rat :=
  match kind with
  | position => none
  | order => price

end TicketKind

def RawEvent.levels (kind : TicketKind) (event : RawEvent) : Levels :=
  ⟨kind.price event.price, event.stopLoss, event.takeProfit⟩

def Payload.levels (kind : TicketKind) (payload : Payload) : Levels :=
  ⟨kind.price payload.price, payload.stopLoss, payload.takeProfit⟩

def EventRecord.levels (record : EventRecord) : Levels :=
  ⟨record.price, record.stopLoss, record.takeProfit⟩

def isModification (kind : TicketKind) (ticket : String) (event : RawEvent) : Prop :=
  event.eventType = kind.modification ∧ event.ticket = ticket

/-- An `ORDER_UPDATE` of the ticket in the batch; it stands for the diff's own event. -/
def announced (records : List EventRecord) (ticket : String) : Bool :=
  records.any fun record =>
    record.eventType = .orderUpdate ∧ record.eventTicket = ticket ∧ record.historyArchived = false

/-- The modification event of a ticket in a batch, as far as its id depends on it. -/
def levelTransition (kind : TicketKind) (byRecord : Bool) (ticket : String) (old new : Levels) :
    RawEvent :=
  { eventType := kind.modification, ticket := ticket
    price := new.price, stopLoss := new.stopLoss, takeProfit := new.takeProfit
    previousStopLoss := if kind = .order ∧ byRecord then none else old.stopLoss
    previousTakeProfit := if kind = .order ∧ byRecord then none else old.takeProfit }

/-- Records of order updates show what the snapshot of the same poll shows. -/
def RecordsAgree (records : List EventRecord) (ticket : String) (new : Levels) : Prop :=
  ∀ record ∈ records, record.eventType = .orderUpdate → record.eventTicket = ticket →
    record.levels = new

section Stream

variable {record : EventRecord} {previous current : OrderedDict String PositionRow}

theorem mql5FileEvent_tradeModified
    (h : (mql5FileEvent record previous current).eventType = .tradeModified) :
    record.eventType = .position ∧ ∃ new, current.get? record.eventTicket = some new ∧
      (mql5FileEvent record previous current).stopLoss = new.stopLoss ∧
      (mql5FileEvent record previous current).takeProfit = new.takeProfit ∧
      (mql5FileEvent record previous current).previousStopLoss =
        (previous.get? record.eventTicket).bind PositionRow.stopLoss ∧
      (mql5FileEvent record previous current).previousTakeProfit =
        (previous.get? record.eventTicket).bind PositionRow.takeProfit := by
  unfold mql5FileEvent at h ⊢
  simp only at h ⊢
  cases htype : record.eventType <;> rw [htype] at h <;> simp only at h ⊢
  case position =>
    refine ⟨trivial, ?_⟩
    cases hnew : current.get? record.eventTicket with
    | none =>
      rw [hnew] at h
      cases h
    | some new =>
      rw [hnew] at h
      simp only at h ⊢
      refine ⟨new, rfl, ?_⟩
      unfold positionEvent at h ⊢
      simp only at h ⊢
      cases hold : previous.get? record.eventTicket with
      | none => exact ⟨rfl, rfl, rfl, rfl⟩
      | some old =>
        rw [hold] at h
        simp only at h ⊢
        split at h
        next => cases h
        next hsame =>
          rw [if_neg hsame]
          exact ⟨rfl, rfl, rfl, rfl⟩
  case dealAdd =>
    unfold dealAddEvent at h
    repeat' split at h
    all_goals cases h
  all_goals cases h

theorem mql5FileEvent_pendingOrderModified
    (h : (mql5FileEvent record previous current).eventType = .pendingOrderModified) :
    record.eventType = .orderUpdate ∧ (mql5FileEvent record previous current) =
      { baseEvent record .pendingOrderModified with
        price := record.price, stopLoss := record.stopLoss, takeProfit := record.takeProfit } := by
  unfold mql5FileEvent at h ⊢
  simp only at h ⊢
  cases htype : record.eventType <;> rw [htype] at h <;> simp only at h ⊢
  case orderUpdate => exact ⟨trivial, trivial⟩
  case position =>
    split at h
    · unfold positionEvent at h
      simp only at h
      repeat' split at h
      all_goals cases h
    · cases h
  case dealAdd =>
    unfold dealAddEvent at h
    repeat' split at h
    all_goals cases h
  all_goals cases h

end Stream

section Merge

variable {records : List EventRecord} {previous current : Snapshot} {event : RawEvent}
  {ticket : String} {old new : Levels}

/-- The parts of an event that the id of a modification depends on. -/
theorem fingerprint_modification {kind : TicketKind} {a b : RawEvent}
    (ha : a.eventType = kind.modification) (hb : b.eventType = kind.modification)
    (hlevels : a.levels kind = b.levels kind)
    (hstop : a.previousStopLoss = b.previousStopLoss)
    (htake : a.previousTakeProfit = b.previousTakeProfit) : fingerprint a = fingerprint b := by
  have hnative : kind.modification ∉ nativeDealEvents := by
    cases kind <;> decide
  unfold fingerprint
  rw [ha, hb, if_neg (fun hand => hnative hand.1), if_neg (fun hand => hnative hand.1)]
  obtain ⟨hprice, hstopLoss, htakeProfit⟩ := Levels.mk.inj hlevels
  cases kind with
  | position =>
    simp [TicketKind.modification, fingerprintFields, RawEvent.get, hstopLoss, htakeProfit, hstop,
      htake]
  | order =>
    have hprice' : a.price = b.price := hprice
    simp [TicketKind.modification, fingerprintFields, RawEvent.get, hprice', hstopLoss,
      htakeProfit, hstop, htake]

theorem merged_position_modification {oldRow newRow : PositionRow}
    (hold : previous.positions.get? ticket = some oldRow)
    (hnew : current.positions.get? ticket = some newRow)
    (hmem : event ∈ mergeEventStreamWithSnapshot records previous current)
    (htype : event.eventType = .tradeModified) (hticket : event.ticket = ticket) :
    event.stopLoss = newRow.stopLoss ∧ event.takeProfit = newRow.takeProfit ∧
      event.previousStopLoss = oldRow.stopLoss ∧
      event.previousTakeProfit = oldRow.takeProfit := by
  rcases mem_merge.mp hmem with hstream | ⟨hdiff, -⟩
  · obtain ⟨record, -, -, symbol, before, rfl⟩ := mem_streamEvents (mem_keptStream.mp hstream).1
    obtain ⟨hposition, row, hrow, hstop, htake, hprevStop, hprevTake⟩ :=
      mql5FileEvent_tradeModified htype
    have hother : ({ record with symbol := symbol } : EventRecord).eventType ≠ .dealAdd := by
      rw [hposition]
      exact RecordType.noConfusion
    rw [mql5FileEvent_ticket] at hticket
    rw [hticket, replayRecord_of_ne hother] at hrow hprevStop hprevTake
    rw [replayRecord_of_ne hother] at hstop htake ⊢
    rw [hnew] at hrow
    cases hrow
    rw [hold] at hprevStop hprevTake
    exact ⟨hstop, htake, hprevStop, hprevTake⟩
  · cases hdiff with
    | @modified key pos row hcur hprev hchanged =>
      obtain rfl : key = ticket := hticket
      rw [hcur] at hnew
      rw [hprev] at hold
      cases hnew
      cases hold
      exact ⟨rfl, rfl, rfl, rfl⟩
    | _ => cases htype

theorem not_announced {records : List EventRecord} {ticket : String}
    (h : announced records ticket ≠ true) {record : EventRecord} (hmem : record ∈ records)
    (hlive : record.historyArchived = false) (hupdate : record.eventType = .orderUpdate) :
    record.eventTicket ≠ ticket := by
  intro hticket
  apply h
  exact List.any_eq_true.mpr ⟨record, hmem, by simp [hlive, hupdate, hticket]⟩

/-- An announced ticket is covered, so that the diff keeps quiet about it. -/
theorem announced_covered (h : announced records ticket = true) :
    (EventType.pendingOrderModified, ticket) ∈
      (keptStream records previous current).map eventKey := by
  obtain ⟨record, hmem, hrecord⟩ := List.any_eq_true.mp h
  simp only [decide_eq_true_eq] at hrecord
  obtain ⟨hupdate, hticket, hlive⟩ := hrecord
  obtain ⟨symbol, before, hevent⟩ :=
    exists_streamEvent previous current (trackedFrom previous) hmem hlive
  have htype : ∀ p c : OrderedDict String PositionRow,
      (mql5FileEvent { record with symbol := symbol } p c).eventType = .pendingOrderModified := by
    intro p c
    unfold mql5FileEvent
    simp only [hupdate]
    rfl
  refine List.mem_map.mpr ⟨_, mem_keptStream.mpr ⟨hevent, echoesClose_of_ne ?_⟩, ?_⟩
  · rw [htype]
    exact EventType.noConfusion
  · unfold eventKey
    rw [htype, mql5FileEvent_ticket]
    exact congrArg _ hticket

theorem merged_order_modification {oldRow newRow : OrderRow}
    (hold : previous.orders.get? ticket = some oldRow)
    (hnew : current.orders.get? ticket = some newRow)
    (hagree : RecordsAgree records ticket ⟨newRow.price, newRow.stopLoss, newRow.takeProfit⟩)
    (hmem : event ∈ mergeEventStreamWithSnapshot records previous current)
    (htype : event.eventType = .pendingOrderModified) (hticket : event.ticket = ticket) :
    event.levels .order = ⟨newRow.price, newRow.stopLoss, newRow.takeProfit⟩ ∧
      event.previousStopLoss =
        (if announced records ticket = true then none else oldRow.stopLoss) ∧
      event.previousTakeProfit =
        (if announced records ticket = true then none else oldRow.takeProfit) := by
  rcases mem_merge.mp hmem with hstream | ⟨hdiff, hfresh, -⟩
  · obtain ⟨record, hrecord, hlive, symbol, before, rfl⟩ :=
      mem_streamEvents (mem_keptStream.mp hstream).1
    obtain ⟨hupdate, hevent⟩ := mql5FileEvent_pendingOrderModified htype
    rw [mql5FileEvent_ticket] at hticket
    have hannounced : announced records ticket = true := by
      by_contra hnot
      exact not_announced hnot hrecord hlive hupdate hticket
    rw [hevent, if_pos hannounced, if_pos hannounced]
    exact ⟨hagree record hrecord hupdate hticket, rfl, rfl⟩
  · cases hdiff with
    | @orderModified key order row hcur hprev hchanged =>
      obtain rfl : key = ticket := hticket
      rw [hcur] at hnew
      rw [hprev] at hold
      cases hnew
      cases hold
      have hquiet : announced records key ≠ true :=
        fun hannounced => hfresh (announced_covered hannounced)
      rw [if_neg hquiet, if_neg hquiet]
      exact ⟨rfl, rfl, rfl⟩
    | _ => cases htype

/-- Every modification of the ticket in a batch brings it to the new levels, all of them
under one id. -/
theorem merged_modification {kind : TicketKind} (hold : kind.levels previous ticket = some old)
    (hnew : kind.levels current ticket = some new)
    (hagree : kind = .order → RecordsAgree records ticket new)
    (hmem : event ∈ mergeEventStreamWithSnapshot records previous current)
    (hmod : isModification kind ticket event) :
    event.levels kind = new ∧
      fingerprint event = fingerprint (levelTransition kind (announced records ticket) ticket old new) := by
  obtain ⟨htype, hticket⟩ := hmod
  cases kind with
  | position =>
    obtain ⟨oldRow, hrow, rfl⟩ := Option.map_eq_some_iff.mp hold
    obtain ⟨newRow, hrow', rfl⟩ := Option.map_eq_some_iff.mp hnew
    obtain ⟨hstop, htake, hprevStop, hprevTake⟩ :=
      merged_position_modification hrow hrow' hmem htype hticket
    have hlevels : event.levels .position = ⟨none, newRow.stopLoss, newRow.takeProfit⟩ := by
      rw [← hstop, ← htake]
      rfl
    exact ⟨hlevels, fingerprint_modification htype rfl hlevels hprevStop hprevTake⟩
  | order =>
    obtain ⟨oldRow, hrow, rfl⟩ := Option.map_eq_some_iff.mp hold
    obtain ⟨newRow, hrow', rfl⟩ := Option.map_eq_some_iff.mp hnew
    obtain ⟨hlevels, hprevStop, hprevTake⟩ :=
      merged_order_modification hrow hrow' (hagree rfl) hmem htype hticket
    refine ⟨hlevels, fingerprint_modification htype rfl hlevels ?_ ?_⟩
    · rw [hprevStop]
      simp [levelTransition]
    · rw [hprevTake]
      simp [levelTransition]

/-- A change of the levels is in the batch. -/
theorem exists_merged_modification (records : List EventRecord) {kind : TicketKind}
    (hold : kind.levels previous ticket = some old)
    (hnew : kind.levels current ticket = some new) (hchanged : old ≠ new) :
    ∃ event ∈ mergeEventStreamWithSnapshot records previous current,
      isModification kind ticket event := by
  cases kind with
  | position =>
    obtain ⟨oldRow, hrow, rfl⟩ := Option.map_eq_some_iff.mp hold
    obtain ⟨newRow, hrow', rfl⟩ := Option.map_eq_some_iff.mp hnew
    have hdiffer : newRow.stopLoss ≠ oldRow.stopLoss ∨ newRow.takeProfit ≠ oldRow.takeProfit := by
      by_contra hsame
      rw [not_or, not_not, not_not] at hsame
      exact hchanged (by rw [hsame.1, hsame.2])
    obtain ⟨event, hmem, hkey⟩ := exists_merged_of_diff records
      (DiffEvent.modified hrow' hrow hdiffer) EventType.noConfusion EventType.noConfusion
    exact ⟨event, hmem, (Prod.mk.inj hkey).1, (Prod.mk.inj hkey).2⟩
  | order =>
    obtain ⟨oldRow, hrow, rfl⟩ := Option.map_eq_some_iff.mp hold
    obtain ⟨newRow, hrow', rfl⟩ := Option.map_eq_some_iff.mp hnew
    have hdiffer : newRow.price ≠ oldRow.price ∨ newRow.stopLoss ≠ oldRow.stopLoss ∨
        newRow.takeProfit ≠ oldRow.takeProfit := by
      by_contra hsame
      rw [not_or, not_or, not_not, not_not, not_not] at hsame
      exact hchanged (by rw [hsame.1, hsame.2.1, hsame.2.2])
    obtain ⟨event, hmem, hkey⟩ := exists_merged_of_diff records
      (DiffEvent.orderModified hrow' hrow hdiffer) EventType.noConfusion EventType.noConfusion
    exact ⟨event, hmem, (Prod.mk.inj hkey).1, (Prod.mk.inj hkey).2⟩

end Merge

end TradeJournalWorker
