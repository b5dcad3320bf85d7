import Mathlib.Algebra.BigOperators.Group.List.Basic
import TradeJournalWorker.ExceptRules
import TradeJournalWorker.FirstOccurrences
import TradeJournalWorker.HistoryDeals

namespace TradeJournalWorker

/-- `_history_time`. -/
def historyTime (now : String) (value : Option String) : String := (pyOr value (some now)).getD ""

/-- The direction of a record, taken from its type if it has none. -/
def recordDirection (deal : ExportedDeal) : Option String :=
  match deal.directionText, deal.typeNumber with
  | some direction, _ => some direction
  | none, some number => some (if number ∈ [0, 2, 4, 6] then "buy" else "sell")
  | none, none => none

/-- The type that `_history_event` gives to a deal. -/
def importedType (item : ProjectedDeal) : EventType :=
  match item.historyEventType with
  | some .tradeOpened => .tradeOpened
  | some .tradeVolumeChanged => .tradeVolumeChanged
  | some .tradeClosed => .tradeClosed
  | some .tradePartialClosed => .tradePartialClosed
  | some _ => .dealRecorded
  | none =>
    if item.row.entry ∈ openEntries then .tradeOpened
    else if item.row.entry ∈ exitEntries then .tradeClosed
    else .dealRecorded

/-- The raw event that `_history_event` builds of a deal. -/
def historyRawEvent (now : String) (row : ExportedDeal × ProjectedDeal) : RawEvent :=
  let deal := row.1
  let item := row.2
  let eventTime := historyTime now deal.time
  let base : RawEvent :=
    { eventType := importedType item
      ticket := pyStr (pyOr (some deal.positionText) deal.ticket)
      symbol := deal.symbol
      direction := recordDirection deal
      volume := item.volume
      stopLoss := deal.stopLoss
      takeProfit := deal.takeProfit
      nativeDealTicket := deal.ticket
      timeMsc := deal.timeMsc
      timeBasis := some "broker_server_unresolved"
      eventTime := some eventTime
      profit := deal.profit
      commission := item.commission
      fee := deal.fee
      swap := deal.swap }
  match importedType item with
  | .tradeOpened =>
    { base with
      openPrice := deal.price.or item.openPrice
      balanceBeforeOpen := item.balanceBeforeOpen
      openTime := some eventTime }
  | .tradeVolumeChanged =>
    { base with
      previousVolume := item.previousVolume
      partialClose := some false
      openPrice := item.openPrice }
  | .tradeClosed | .tradePartialClosed =>
    { base with
      closePrice := deal.price
      totalCommission := item.totalCommission
      commissionComplete := item.commissionComplete
      closeTime := some eventTime }
  | _ => { base with closePrice := deal.price, closeTime := some eventTime }

/-- `_history_event`. -/
def historyEvent (digest : Fingerprint → String) (account : Account) (now : String)
    (row : ExportedDeal × ProjectedDeal) : Except PreflightError Payload :=
  normalizeEvent digest account now (historyRawEvent now row)

inductive HistoryFailure where
  | eventRejected (error : PreflightError)
  | externalIdMissing
  | eventLimitExceeded
  | countersInvalid
  deriving DecidableEq, Repr

/-- `persist`: a marked deal becomes an event unless one of its id is there. -/
def persistDeal (digest : Fingerprint → String) (account : Account) (now : String)
    (events : List Payload) (row : ExportedDeal × ProjectedDeal) :
    Except HistoryFailure (List Payload) :=
  if row.2.projectAsTrade then
    match historyEvent digest account now row with
    | .error error => .error (.eventRejected error)
    | .ok event =>
      .ok (if event.eventId ∈ events.map Payload.eventId then events else events ++ [event])
  else .ok events

def maxEvents : Nat := 50000

def maxEventsPerGroup : Nat := 4

/-- `external_trade_id` of one group and its events. -/
structure TradeGroup where
  externalTradeId : String
  events : List Payload
  deriving DecidableEq, Repr

/-- `grouped` and `count` of `_groups`. -/
structure Grouping where
  grouped : OrderedDict String (List Payload) := ∅
  count : Nat := 0

def Grouping.add (grouping : Grouping) (event : Payload) : Except HistoryFailure Grouping :=
  let externalId := String.ofList (pyStrip event.externalTradeId)
  if externalId = "" then .error .externalIdMissing
  else if maxEvents < grouping.count + 1 then .error .eventLimitExceeded
  else .ok
    { grouped := grouping.grouped.set externalId
        ((grouping.grouped.get? externalId).getD [] ++ [event])
      count := grouping.count + 1 }

/-- The slices of at most four events. -/
def groupSlices (events : List Payload) : List (List Payload) :=
  (List.range ((events.length + 3) / maxEventsPerGroup)).map fun slice =>
    (events.drop (maxEventsPerGroup * slice)).take maxEventsPerGroup

/-- `_groups`: the trades of the history document. -/
def historyGroups (events : List Payload) : Except HistoryFailure (List TradeGroup) :=
  match events.foldlM Grouping.add {} with
  | .error error => .error error
  | .ok grouping => .ok (grouping.grouped.entries.flatMap fun entry =>
      (groupSlices entry.2).map fun slice => ⟨entry.1, slice⟩)

/-- `_history_document_event_count`. -/
def historyDocumentEventCount (trades : List TradeGroup) : Nat :=
  (trades.map fun group => group.events.length).sum

/-- `_validated_history_counts` of the number of deals. -/
def validatedHistoryCounts (deals : Nat) (trades : List TradeGroup) : Except HistoryFailure Nat :=
  if deals = historyDocumentEventCount trades then .ok deals else .error .countersInvalid

/-- The import of an anchored ledger in the mode `all_available`, up to its counters. -/
def historyImport (digest : Fingerprint → String) (account : Account) (now : String)
    (rows : List (ExportedDeal × ProjectedDeal)) : Except HistoryFailure Nat := do
  let events ← rows.foldlM (persistDeal digest account now) []
  let trades ← historyGroups events
  validatedHistoryCounts rows.length trades

section Documents

theorem range_slices_sum (total slices : Nat) :
    ((List.range slices).map fun slice => min 4 (total - 4 * slice)).sum =
      min total (4 * slices) := by
  induction slices with
  | zero => simp
  | succ slices ih =>
    rw [List.range_succ, List.map_append, List.sum_append, ih]
    simp only [List.map_cons, List.map_nil, List.sum_cons, List.sum_nil]
    omega

theorem groupSlices_length (events : List Payload) :
    ((groupSlices events).map List.length).sum = events.length := by
  have hsum := range_slices_sum events.length ((events.length + 3) / 4)
  have hlengths : (groupSlices events).map List.length =
      (List.range ((events.length + 3) / 4)).map fun slice =>
        min 4 (events.length - 4 * slice) := by
    unfold groupSlices maxEventsPerGroup
    rw [List.map_map]
    apply List.map_congr_left
    intro slice _
    simp
  rw [hlengths, hsum]
  omega

/-- The number of events in all groups. -/
def groupedEvents (grouped : OrderedDict String (List Payload)) : Nat :=
  (grouped.entries.map fun entry => entry.2.length).sum

theorem sum_replaced {entries : List (String × List Payload)} {key : String} {event : Payload}
    (hnodup : (entries.map Prod.fst).Nodup) (hmem : key ∈ entries.map Prod.fst) :
    ((entries.map fun entry => (entry.1,
      if entry.1 = key then (entries.lookup key).getD [] ++ [event] else entry.2)).map
        fun entry => entry.2.length).sum = (entries.map fun entry => entry.2.length).sum + 1 := by
  induction entries with
  | nil => simp at hmem
  | cons entry rest ih =>
    obtain ⟨k, v⟩ := entry
    simp only [List.map_cons, List.nodup_cons] at hnodup
    by_cases hk : k = key
    · subst hk
      have hrest : (rest.map fun entry => (entry.1,
          if entry.1 = k then v ++ [event] else entry.2)) = rest := by
        conv_rhs => rw [← List.map_id rest]
        apply List.map_congr_left
        intro entry hentry
        have hne : entry.1 ≠ k := fun h => hnodup.1 (h ▸ List.mem_map_of_mem hentry)
        simp [hne]
      simp only [List.map_cons, List.sum_cons, List.lookup_cons, beq_self_eq_true, if_true,
        Option.getD_some, hrest, List.length_append, List.length_singleton]
      omega
    · have hrest : key ∈ rest.map Prod.fst := by
        rcases List.mem_cons.mp hmem with h | h
        · exact absurd h.symm hk
        · exact h
      have hbeq : (key == k) = false := by simpa using fun h : key = k => hk h.symm
      have hsum := ih hnodup.2 hrest
      simp only [List.map_cons, List.sum_cons, List.lookup_cons, hbeq, if_neg hk]
      omega

theorem groupedEvents_set (grouped : OrderedDict String (List Payload)) (key : String)
    (event : Payload) :
    groupedEvents (grouped.set key ((grouped.get? key).getD [] ++ [event])) =
      groupedEvents grouped + 1 := by
  unfold groupedEvents OrderedDict.set OrderedDict.get?
  by_cases hmem : key ∈ grouped.entries.map Prod.fst
  · simp only [if_pos hmem]
    exact sum_replaced grouped.nodup hmem
  · have hnone : grouped.entries.lookup key = none :=
      OrderedDict.lookup_eq_none_iff_not_mem.mpr hmem
    simp only [if_neg hmem, hnone, List.map_append, List.sum_append]
    simp

/-- The trade id of the event is not blank. -/
def NamesTrade (event : Payload) : Prop := String.ofList (pyStrip event.externalTradeId) ≠ ""

/-- The grouping with one event more. -/
def Grouping.with (grouping : Grouping) (event : Payload) : Grouping :=
  let externalId := String.ofList (pyStrip event.externalTradeId)
  { grouped := grouping.grouped.set externalId
      ((grouping.grouped.get? externalId).getD [] ++ [event])
    count := grouping.count + 1 }

theorem add_eq_ok {grouping next : Grouping} {event : Payload} :
    grouping.add event = .ok next ↔
      NamesTrade event ∧ grouping.count + 1 ≤ maxEvents ∧ next = grouping.with event := by
  unfold Grouping.add NamesTrade
  dsimp only
  split
  next hblank =>
    constructor
    · intro h
      cases h
    · intro h
      exact absurd hblank h.1
  next hid =>
    split
    next hmany =>
      constructor
      · intro h
        cases h
      · intro h
        exact absurd hmany (not_lt.mpr h.2.1)
    next hfew =>
      constructor
      · intro h
        cases h
        exact ⟨hid, not_lt.mp hfew, rfl⟩
      · intro h
        rw [h.2.2]
        rfl

/-- The loop goes through exactly if every event names its trade and there are not too many. -/
theorem adds_iff (events : List Payload) (grouping : Grouping) (hfew : grouping.count ≤ maxEvents) :
    (∃ next, events.foldlM Grouping.add grouping = .ok next) ↔
      (∀ event ∈ events, NamesTrade event) ∧ grouping.count + events.length ≤ maxEvents := by
  induction events generalizing grouping with
  | nil => exact iff_of_true ⟨grouping, rfl⟩ ⟨by simp, hfew⟩
  | cons event rest ih =>
    rw [List.foldlM_cons, List.length_cons, List.forall_mem_cons]
    constructor
    · intro h
      obtain ⟨next, h⟩ := h
      obtain ⟨middle, hmiddle, hrest⟩ := except_bind_eq_ok h
      obtain ⟨hnames, hone, heq⟩ := add_eq_ok.mp hmiddle
      subst heq
      have hcount : (grouping.with event).count = grouping.count + 1 := rfl
      obtain ⟨hothers, hall⟩ := (ih (grouping.with event) (hcount ▸ hone)).mp ⟨next, hrest⟩
      exact ⟨⟨hnames, hothers⟩, by omega⟩
    · intro h
      obtain ⟨⟨hnames, hothers⟩, hall⟩ := h
      have hadd : grouping.add event = .ok (grouping.with event) :=
        add_eq_ok.mpr ⟨hnames, by omega, rfl⟩
      have hcount : (grouping.with event).count = grouping.count + 1 := rfl
      rw [hadd]
      exact (ih (grouping.with event) (by omega)).mpr ⟨hothers, by omega⟩

theorem adds_total {events : List Payload} {grouping next : Grouping}
    (h : events.foldlM Grouping.add grouping = .ok next) :
    groupedEvents next.grouped = groupedEvents grouping.grouped + events.length := by
  induction events generalizing grouping with
  | nil =>
    cases h
    rfl
  | cons event rest ih =>
    rw [List.foldlM_cons] at h
    obtain ⟨middle, hmiddle, hrest⟩ := except_bind_eq_ok h
    obtain ⟨-, -, heq⟩ := add_eq_ok.mp hmiddle
    have htotal : groupedEvents middle.grouped = groupedEvents grouping.grouped + 1 := by
      rw [heq]
      exact groupedEvents_set _ _ _
    rw [ih hrest, htotal, List.length_cons]
    omega

theorem historyDocumentEventCount_append (xs ys : List TradeGroup) :
    historyDocumentEventCount (xs ++ ys) =
      historyDocumentEventCount xs + historyDocumentEventCount ys := by
  simp [historyDocumentEventCount]

theorem eventCount_slices (entries : List (String × List Payload)) :
    historyDocumentEventCount (entries.flatMap fun entry =>
      (groupSlices entry.2).map fun slice => ⟨entry.1, slice⟩) =
        (entries.map fun entry => entry.2.length).sum := by
  induction entries with
  | nil => rfl
  | cons entry rest ih =>
    have hslices : historyDocumentEventCount
        ((groupSlices entry.2).map fun slice => ⟨entry.1, slice⟩) = entry.2.length := by
      unfold historyDocumentEventCount
      rw [List.map_map]
      exact groupSlices_length entry.2
    rw [List.flatMap_cons, historyDocumentEventCount_append, hslices, ih, List.map_cons,
      List.sum_cons]

/-- Every event comes into the document, or there is no document. -/
theorem historyGroups_iff (events : List Payload) (deals : Nat) :
    (∃ count, (historyGroups events >>= validatedHistoryCounts deals) = .ok count) ↔
      (∀ event ∈ events, NamesTrade event) ∧ events.length ≤ maxEvents ∧
        deals = events.length := by
  have hadds := adds_iff events {} (Nat.zero_le _)
  have hstart : ({} : Grouping).count + events.length = events.length := Nat.zero_add _
  rw [hstart] at hadds
  unfold historyGroups
  cases hcase : events.foldlM Grouping.add {} with
  | error error =>
    constructor
    · intro h
      obtain ⟨count, h⟩ := h
      cases h
    · intro h
      obtain ⟨next, hnext⟩ := hadds.mpr ⟨h.1, h.2.1⟩
      rw [hcase] at hnext
      cases hnext
  | ok grouping =>
    have hloop := hadds.mp ⟨grouping, hcase⟩
    have htotal := adds_total hcase
    have hcount : historyDocumentEventCount (grouping.grouped.entries.flatMap fun entry =>
        (groupSlices entry.2).map fun slice => ⟨entry.1, slice⟩) = events.length := by
      rw [eventCount_slices]
      exact htotal.trans (Nat.zero_add _)
    show (∃ count, validatedHistoryCounts deals _ = .ok count) ↔ _
    unfold validatedHistoryCounts
    rw [hcount, and_iff_right hloop.1, and_iff_right hloop.2]
    split
    next heq => exact iff_of_true ⟨deals, rfl⟩ heq
    next hne =>
      refine iff_of_false ?_ hne
      intro h
      obtain ⟨count, h⟩ := h
      cases h

end Documents

section Events

variable {digest : Fingerprint → String} {account : Account} {now : String}

/-- The normaliser takes the row. -/
def Accepted (now : String) (row : ExportedDeal × ProjectedDeal) : Prop :=
  validateEventPreflight (historyRawEvent now row) = .ok ()

/-- The event of a row that the normaliser takes. -/
def rowEvent (digest : Fingerprint → String) (account : Account) (now : String)
    (row : ExportedDeal × ProjectedDeal) : Payload :=
  normalizedPayload digest account now (historyRawEvent now row)

theorem historyEvent_eq_ok {row : ExportedDeal × ProjectedDeal} {event : Payload} :
    historyEvent digest account now row = .ok event ↔
      Accepted now row ∧ event = rowEvent digest account now row := by
  unfold historyEvent normalizeEvent Accepted rowEvent
  cases validateEventPreflight (historyRawEvent now row) with
  | error error =>
    constructor
    · intro h
      cases h
    · intro h
      cases h.1
  | ok u =>
    constructor
    · intro h
      cases h
      exact ⟨rfl, rfl⟩
    · intro h
      rw [h.2]
      rfl

/-- The events of rows that the normaliser all takes. -/
def rowEvents (digest : Fingerprint → String) (account : Account) (now : String)
    (events : List Payload) (rows : List (ExportedDeal × ProjectedDeal)) : List Payload :=
  rows.foldl (fun events row =>
    if (rowEvent digest account now row).eventId ∈ events.map Payload.eventId then events
    else events ++ [rowEvent digest account now row]) events

theorem persistDeals_iff {rows : List (ExportedDeal × ProjectedDeal)} {start events : List Payload}
    (hmarked : ∀ row ∈ rows, row.2.projectAsTrade = true) :
    rows.foldlM (persistDeal digest account now) start = .ok events ↔
      (∀ row ∈ rows, Accepted now row) ∧ events = rowEvents digest account now start rows := by
  induction rows generalizing start with
  | nil =>
    constructor
    · intro h
      cases h
      exact ⟨by simp, rfl⟩
    · intro h
      rw [h.2]
      rfl
  | cons row rest ih =>
    have hrow := hmarked row List.mem_cons_self
    have hrest := fun other hother => hmarked other (List.mem_cons_of_mem _ hother)
    rw [List.foldlM_cons, List.forall_mem_cons]
    unfold persistDeal
    rw [if_pos hrow]
    cases hcase : historyEvent digest account now row with
    | error error =>
      have hrefused : ¬ Accepted now row := by
        intro haccepted
        have hok := (@historyEvent_eq_ok digest account now row _).mpr ⟨haccepted, rfl⟩
        rw [hcase] at hok
        cases hok
      refine iff_of_false (fun h => ?_) fun h => hrefused h.1.1
      cases h
    | ok event =>
      obtain ⟨haccepted, heq⟩ := historyEvent_eq_ok.mp hcase
      subst heq
      have htail := @ih (if (rowEvent digest account now row).eventId ∈
        start.map Payload.eventId then start else start ++ [rowEvent digest account now row]) hrest
      rw [and_iff_right haccepted]
      exact htail

theorem rowEvents_ids (rows : List (ExportedDeal × ProjectedDeal)) :
    (rowEvents digest account now [] rows).map Payload.eventId =
      FirstOccurrences.firsts (rows.map fun row => (rowEvent digest account now row).eventId) := by
  induction rows using List.reverseRecOn with
  | nil => rfl
  | append_singleton rows row ih =>
    rw [List.map_append, List.map_cons, List.map_nil, FirstOccurrences.firsts_concat, ← ih]
    unfold rowEvents
    rw [List.foldl_append, List.foldl_cons, List.foldl_nil]
    split
    · rfl
    · rw [List.map_append, List.map_cons, List.map_nil]

theorem mem_rowEvents {rows : List (ExportedDeal × ProjectedDeal)} {event : Payload}
    (h : event ∈ rowEvents digest account now [] rows) :
    ∃ row ∈ rows, event = rowEvent digest account now row := by
  induction rows using List.reverseRecOn with
  | nil => cases h
  | append_singleton rows row ih =>
    unfold rowEvents at h
    rw [List.foldl_append, List.foldl_cons, List.foldl_nil] at h
    split at h
    · obtain ⟨other, hother, heq⟩ := ih h
      exact ⟨other, List.mem_append_left _ hother, heq⟩
    · rcases List.mem_append.mp h with h | h
      · obtain ⟨other, hother, heq⟩ := ih h
        exact ⟨other, List.mem_append_left _ hother, heq⟩
      · exact ⟨row, by simp, List.mem_singleton.mp h⟩

/-- The import of marked rows goes through exactly if the normaliser takes them all, no two have
one id and there are not too many. -/
theorem historyImport_iff {rows : List (ExportedDeal × ProjectedDeal)}
    (hmarked : ∀ row ∈ rows, row.2.projectAsTrade = true)
    (hnames : ∀ row ∈ rows, NamesTrade (rowEvent digest account now row)) :
    historyImport digest account now rows = .ok rows.length ↔
      (∀ row ∈ rows, Accepted now row) ∧
        (rows.map fun row => (rowEvent digest account now row).eventId).Nodup ∧
        rows.length ≤ maxEvents := by
  have hlength : (rowEvents digest account now [] rows).length = (FirstOccurrences.firsts
      (rows.map fun row => (rowEvent digest account now row).eventId)).length := by
    rw [← rowEvents_ids, List.length_map]
  have hall : rows.length = (rowEvents digest account now [] rows).length ↔
      (rows.map fun row => (rowEvent digest account now row).eventId).Nodup := by
    rw [hlength, ← FirstOccurrences.length_firsts_eq_iff, List.length_map, eq_comm]
  have hevents : ∀ event ∈ rowEvents digest account now [] rows, NamesTrade event := by
    intro event hevent
    obtain ⟨row, hrow, heq⟩ := mem_rowEvents hevent
    exact heq ▸ hnames row hrow
  have hdocument := historyGroups_iff (rowEvents digest account now [] rows) rows.length
  have hcounted : ∀ events count, (historyGroups events >>=
      validatedHistoryCounts rows.length) = .ok count → count = rows.length := by
    intro events count h
    obtain ⟨trades, -, hvalid⟩ := except_bind_eq_ok h
    unfold validatedHistoryCounts at hvalid
    split at hvalid
    · cases hvalid
      rfl
    · cases hvalid
  unfold historyImport
  constructor
  · intro h
    obtain ⟨events, hfold, hrest⟩ := except_bind_eq_ok h
    obtain ⟨haccepted, heq⟩ := (persistDeals_iff hmarked).mp hfold
    subst heq
    obtain ⟨-, hfew, hsame⟩ := hdocument.mp ⟨_, hrest⟩
    exact ⟨haccepted, hall.mp hsame, hsame ▸ hfew⟩
  · intro h
    obtain ⟨haccepted, hnodup, hfew⟩ := h
    have hsame := hall.mpr hnodup
    obtain ⟨count, hcount⟩ := hdocument.mpr ⟨hevents, hsame ▸ hfew, hsame⟩
    rw [(persistDeals_iff hmarked).mpr ⟨haccepted, rfl⟩]
    rw [hcounted _ _ hcount] at hcount
    exact hcount

end Events

/-- What a fill is to its position: its first entry, a later one, its last exit or another. -/
def fillType (rows : List LedgerRow) (index : Nat) (row : LedgerRow) : EventType :=
  if EntryOf row.positionId row then
    if ∃ other ∈ rows.take index, EntryOf row.positionId other then .tradeVolumeChanged
    else .tradeOpened
  else if |runningVolume row.positionId (rows.take (index + 1))| ≤ volumeTolerance then .tradeClosed
  else .tradePartialClosed

theorem fillType_native (rows : List LedgerRow) (index : Nat) (row : LedgerRow) :
    fillType rows index row ∈ nativeDealEvents := by
  unfold fillType
  split
  · split <;> simp [nativeDealEvents]
  · split <;> simp [nativeDealEvents]

section Agreement

variable {rows : List LedgerRow} {anchor : LedgerAnchor} {row : LedgerRow} {index : Nat}
  {item : ProjectedDeal}

theorem firstEntry_iff_take (hget : rows[index]? = some row) (hentry : EntryOf row.positionId row) :
    FirstEntry rows index row ↔ ¬ ∃ other ∈ rows.take index, EntryOf row.positionId other := by
  constructor
  · intro hfirst h
    obtain ⟨other, hmem, hother⟩ := h
    obtain ⟨j, hj⟩ := List.mem_iff_getElem?.mp hmem
    rw [List.getElem?_take] at hj
    split at hj
    next hlt => exact hfirst.first j other hlt hj hother
    next => cases hj
  · intro h
    refine ⟨hget, hentry, fun j other hlt hj hother => h ⟨other, ?_, hother⟩⟩
    apply List.mem_of_getElem?
    rw [List.getElem?_take_of_lt hlt]
    exact hj

/-- The type that the reconstruction gives to a fill of a coherent position. -/
theorem historyEventType_eq (hget : rows[index]? = some row)
    (hproject : projectDeal rows anchor row index = some item)
    (hcoherent : CoherentPosition rows row.positionId) :
    item.historyEventType = some (fillType rows index row) := by
  have hrow : item.row = row := projectDeal_row hproject
  have hitem : projectedAt rows anchor index = some item := by
    rw [projectedAt_iff, hrow]
    exact ⟨hget, hproject⟩
  have hsafe := safePosition_iff_coherent.mpr hcoherent
  have hkind := projectedAt_kind hitem
  rw [hrow] at hkind
  unfold fillType
  rcases hkind with hentry | hexit
  · rw [if_pos hentry]
    have hfirst := firstEntry_iff_take hget hentry
    rcases (entry_exact hsafe hitem (hrow ▸ hentry)).2.2 with ⟨hone, htype, -⟩ | ⟨hlater, htype, -⟩
    · rw [hrow] at hone
      rw [if_neg (hfirst.mp hone), htype]
    · rw [hrow] at hlater
      rw [if_pos (not_not.mp fun h => hlater (hfirst.mpr h)), htype]
  · rw [if_neg fun h => not_exit_of_entry h hexit]
    exact exit_exact hsafe hitem (hrow ▸ hexit)

theorem importedType_eq (hget : rows[index]? = some row)
    (hproject : projectDeal rows anchor row index = some item)
    (hcoherent : CoherentPosition rows row.positionId) :
    importedType item = fillType rows index row := by
  have htype := historyEventType_eq hget hproject hcoherent
  have hnative := fillType_native rows index row
  unfold importedType
  rw [htype]
  generalize fillType rows index row = kind at hnative
  cases kind <;> first | rfl | exact absurd hnative (by decide)

/-- The volume of an opening is that of its fill. -/
theorem opening_volume_pos (hproject : projectDeal rows anchor row index = some item)
    (hcoherent : CoherentPosition rows row.positionId) (hfirst : FirstEntry rows index row) :
    ∃ volume, item.volume = some volume ∧ 0 < volume := by
  have hrow : item.row = row := projectDeal_row hproject
  have hget := hfirst.here
  have hitem : projectedAt rows anchor index = some item := by
    rw [projectedAt_iff, hrow]
    exact ⟨hget, hproject⟩
  have hsafe := safePosition_iff_coherent.mpr hcoherent
  have hbefore := runningVolume_before_first hcoherent hfirst.first
  refine ⟨_, (entry_exact hsafe hitem (hrow ▸ hfirst.entry)).1, ?_⟩
  rw [ListPrefixes.take_succ_of_getElem? hget, runningVolume_append, hbefore, zero_add]
  unfold signedVolume
  rw [if_pos hfirst.entry]
  exact hcoherent.volumes row (List.mem_of_getElem? hget) (Or.inl hfirst.entry)

end Agreement

section RawFields

variable {now : String} {row : ExportedDeal × ProjectedDeal}

theorem historyRawEvent_frame : (historyRawEvent now row).eventType = importedType row.2 ∧
    (historyRawEvent now row).ticket = pyStr (pyOr (some row.1.positionText) row.1.ticket) ∧
    (historyRawEvent now row).symbol = row.1.symbol ∧
    (historyRawEvent now row).direction = recordDirection row.1 ∧
    (historyRawEvent now row).volume = row.2.volume ∧
    (historyRawEvent now row).nativeDealTicket = row.1.ticket := by
  unfold historyRawEvent
  dsimp only
  split <;> simp

/-- What the normaliser asks of an opening. -/
def OpeningUsable (deal : ExportedDeal) : Prop :=
  usableSymbol deal.symbol ≠ none ∧
    (recordDirection deal = some "buy" ∨ recordDirection deal = some "sell")

theorem accepted_of_not_opened (h : importedType row.2 ≠ .tradeOpened) : Accepted now row := by
  unfold Accepted validateEventPreflight
  rw [historyRawEvent_frame.1, if_pos h]

theorem accepted_opened_iff (h : importedType row.2 = .tradeOpened)
    (hvolume : ∃ volume, row.2.volume = some volume ∧ 0 < volume) :
    Accepted now row ↔ OpeningUsable row.1 := by
  obtain ⟨volume, hsome, hpos⟩ := hvolume
  obtain ⟨htype, -, hsymbol, hdirection, hvol, -⟩ := @historyRawEvent_frame now row
  unfold Accepted validateEventPreflight OpeningUsable
  rw [htype, hsymbol, hdirection, hvol, hsome, if_neg (not_not.mpr h)]
  by_cases husable : usableSymbol row.1.symbol = none
  · rw [if_pos husable]
    refine iff_of_false (fun h => ?_) fun h => h.1 husable
    cases h
  · rw [if_neg husable, and_iff_right husable]
    by_cases hbad : recordDirection row.1 ≠ some "buy" ∧ recordDirection row.1 ≠ some "sell"
    · rw [if_pos hbad]
      refine iff_of_false (fun h => ?_) fun h => h.elim hbad.1 hbad.2
      cases h
    · rw [if_neg hbad]
      dsimp only
      rw [if_neg (not_le.mpr hpos)]
      refine iff_of_true rfl ?_
      by_contra hnone
      exact hbad (not_or.mp hnone)

end RawFields

section Ledger

variable {deals : List ExportedDeal} {anchor : LedgerAnchor} {stop : Int}
  {digest : Fingerprint → String} {account : Account} {now : String}

/-- The fill is shown to the importer: its position is coherent, it is readable itself, and so is
the opening of the position, under the same spelling of its id. -/
structure ShownFill (deals : List ExportedDeal) (deal : ExportedDeal) : Prop where
  fill : deal.ofPosition = true
  symbol : UsableSymbol deal.toLedgerRow
  entry : deal.entry ∈ validEntries
  coherent : CoherentPosition (ledgerRows deals) deal.positionId
  readable : deal.moment.isSome = true
  opening : ∃ opening, ShownOpening deals deal.positionId opening ∧
    deal.positionText = opening.positionText

/-- The native identity of a deal in an event id. -/
def dealDigest (digest : Fingerprint → String) (deal : ExportedDeal) : String :=
  digest [(.nativeDealTicket, .ofText deal.ticket)]

/-- The importer takes whatever the reconstruction marks, and counts what it is shown. -/
structure ImporterAgrees (digest : Fingerprint → String) (account : Account) (now : String)
    (deals : List ExportedDeal) (anchor : LedgerAnchor) (stop : Int) : Prop where
  accepted : ∀ row ∈ historicalDealSnapshot deals (some anchor), row.2.projectAsTrade = true →
    ∃ event, historyEvent digest account now row = .ok event
  counted : historyImport digest account now
      (historyDeals (historicalDealSnapshot deals (some anchor)) allAvailableStart stop) =
    .ok (historyDeals (historicalDealSnapshot deals (some anchor)) allAvailableStart stop).length

/-- The ledger keeps to what the normaliser and the document can take. -/
structure ImportableLedger (digest : Fingerprint → String) (deals : List ExportedDeal)
    (anchor : LedgerAnchor) (stop : Int) : Prop where
  openings : ∀ index deal, deals[index]? = some deal → UsableSymbol deal.toLedgerRow →
    CoherentPosition (ledgerRows deals) deal.positionId →
    FirstEntry (ledgerRows deals) index deal.toLedgerRow → OpeningUsable deal
  distinct : ∀ i j one other, i < j → deals[i]? = some one → deals[j]? = some other →
    ShownFill deals one → ShownFill deals other → one.positionId = other.positionId →
    fillType (ledgerRows deals) i one.toLedgerRow = fillType (ledgerRows deals) j other.toLedgerRow →
    dealDigest digest one ≠ dealDigest digest other
  few : (shownDeals deals anchor stop).length ≤ maxEvents

theorem shownAt_shownFill {deal : ExportedDeal} {index : Nat} (hget : deals[index]? = some deal) :
    shownAt deals anchor stop (deal, index) = true ↔ ShownFill deals deal := by
  by_cases hposition : deal.ofPosition = true
  · rw [shownAt_iff hget ⟨hposition, rfl⟩]
    constructor
    · intro h
      obtain ⟨⟨hsymbol, hentry⟩, hcoherent, hmoment, hopening⟩ := h
      exact ⟨hposition, hsymbol, hentry, hcoherent, hmoment, hopening⟩
    · intro h
      exact ⟨⟨h.symbol, h.entry⟩, h.coherent, h.readable, h.opening⟩
  · refine iff_of_false ?_ fun h => hposition h.fill
    intro h
    unfold shownAt at h
    cases hcase : projectDeal (ledgerRows deals) anchor deal.toLedgerRow index with
    | none =>
      rw [hcase] at h
      cases h
    | some item => exact hposition (projectable_of_projectDeal hcase).1

/-- What is known of a row that the importer is shown. -/
theorem shownRow {row : ExportedDeal × ProjectedDeal}
    (h : row ∈ historyDeals (projectedRows deals anchor) allAvailableStart stop) :
    row.2.projectAsTrade = true ∧ row.1.ofPosition = true ∧
      CoherentPosition (ledgerRows deals) row.1.positionId := by
  obtain ⟨hrow, hcoherent, -, -⟩ := mem_historyDeals.mp h
  obtain ⟨index, hget, hproject⟩ := mem_projectedRows.mp hrow
  exact ⟨(projectAsTrade_iff (getElem?_ledgerRows hget) hproject).mpr hcoherent,
    (projectable_of_projectDeal hproject).1, hcoherent⟩

theorem positionText_ne {deal : ExportedDeal} (hposition : deal.ofPosition = true) :
    deal.positionText ≠ "" := by
  intro hblank
  have hid := deal.positionStripped
  rw [hblank] at hid
  exact (of_decide_eq_true hposition).1 hid

theorem rawTicket_eq {row : ExportedDeal × ProjectedDeal} (hposition : row.1.ofPosition = true) :
    (historyRawEvent now row).ticket = row.1.positionText := by
  rw [historyRawEvent_frame.2.1, pyOr_of_ne (positionText_ne hposition)]
  rfl

theorem namesTrade_of_position {row : ExportedDeal × ProjectedDeal}
    (hposition : row.1.ofPosition = true) : NamesTrade (rowEvent digest account now row) := by
  have hid : (rowEvent digest account now row).externalTradeId = row.1.positionText :=
    rawTicket_eq hposition
  unfold NamesTrade
  rw [hid, ← row.1.positionStripped]
  exact (of_decide_eq_true hposition).1

/-- The id of a shown deal tells its kind, its position and its ticket. -/
theorem eventId_eq_iff (hdigest : HexDigits digest) {one other : ExportedDeal × ProjectedDeal}
    (hone : one.1.ofPosition = true) (hother : other.1.ofPosition = true)
    (hnative : importedType one.2 ∈ nativeDealEvents ∧ importedType other.2 ∈ nativeDealEvents)
    (hticket : one.1.ticket ≠ none ∧ other.1.ticket ≠ none) :
    (rowEvent digest account now one).eventId = (rowEvent digest account now other).eventId ↔
      importedType one.2 = importedType other.2 ∧ one.1.positionText = other.1.positionText ∧
        dealDigest digest one.1 = dealDigest digest other.1 := by
  have hfingerprint : ∀ row : ExportedDeal × ProjectedDeal,
      importedType row.2 ∈ nativeDealEvents → row.1.ticket ≠ none →
      fingerprint (historyRawEvent now row) = [(.nativeDealTicket, .ofText row.1.ticket)] := by
    intro row hkind hsome
    obtain ⟨htype, -, -, -, -, hdeal⟩ := @historyRawEvent_frame now row
    unfold fingerprint
    rw [htype, hdeal, if_pos ⟨hkind, hsome⟩]
    simp [RawEvent.get, hdeal]
  have hfirst := hfingerprint one hnative.1 hticket.1
  have hsecond := hfingerprint other hnative.2 hticket.2
  have htypeOne := (@historyRawEvent_frame now one).1
  have htypeOther := (@historyRawEvent_frame now other).1
  have hticketOne := @rawTicket_eq now one hone
  have hticketOther := @rawTicket_eq now other hother
  constructor
  · intro h
    obtain ⟨htype, hid, hsame⟩ := buildEventId_inj hdigest h
    rw [htypeOne, htypeOther] at htype
    rw [hticketOne, hticketOther] at hid
    rw [hfirst, hsecond] at hsame
    exact ⟨htype, hid, hsame⟩
  · intro h
    obtain ⟨htype, hid, hsame⟩ := h
    show buildEventId digest account.login (historyRawEvent now one) =
      buildEventId digest account.login (historyRawEvent now other)
    unfold buildEventId
    rw [htypeOne, htypeOther, hticketOne, hticketOther, hfirst, hsecond, htype, hid]
    unfold dealDigest at hsame
    rw [hsame]

theorem pairwise_zipIdx {α : Type} {xs : List α} {R : α × Nat → α × Nat → Prop} :
    xs.zipIdx.Pairwise R ↔ ∀ i j one other, i < j → xs[i]? = some one → xs[j]? = some other →
      R (one, i) (other, j) := by
  rw [List.pairwise_iff_getElem]
  constructor
  · intro h i j one other hlt hone hother
    obtain ⟨hi, hone⟩ := List.getElem?_eq_some_iff.mp hone
    obtain ⟨hj, hother⟩ := List.getElem?_eq_some_iff.mp hother
    have hpair := h i j (by simpa using hi) (by simpa using hj) hlt
    simp only [List.getElem_zipIdx, Nat.zero_add, hone, hother] at hpair
    exact hpair
  · intro h i j hi hj hlt
    simp only [List.getElem_zipIdx, Nat.zero_add]
    exact h i j _ _ hlt (List.getElem?_eq_getElem _) (List.getElem?_eq_getElem _)

theorem coherent_ticket {deal : ExportedDeal} (hmem : deal ∈ deals)
    (hposition : deal.ofPosition = true)
    (hcoherent : CoherentPosition (ledgerRows deals) deal.positionId) : deal.ticket ≠ none := by
  intro hnone
  have hsome := hcoherent.identified deal.toLedgerRow (List.mem_map_of_mem hmem) hposition rfl
  unfold ledgerTicket at hsome
  rw [hnone] at hsome
  cases hsome

/-- The row of a shown fill. -/
theorem exists_shownRow {deal : ExportedDeal} {index : Nat} (hget : deals[index]? = some deal)
    (hshown : ShownFill deals deal) :
    ∃ item, projectDeal (ledgerRows deals) anchor deal.toLedgerRow index = some item ∧
      keptInWindow (projectedRows deals anchor) allAvailableStart stop (deal, item) = true ∧
      importedType item = fillType (ledgerRows deals) index deal.toLedgerRow := by
  have hat := (@shownAt_shownFill deals anchor stop deal index hget).mpr hshown
  unfold shownAt at hat
  cases hcase : projectDeal (ledgerRows deals) anchor deal.toLedgerRow index with
  | none =>
    rw [hcase] at hat
    cases hat
  | some item =>
    rw [hcase] at hat
    exact ⟨item, rfl, hat, importedType_eq (getElem?_ledgerRows hget) hcase hshown.coherent⟩

/-- The ids of the shown deals are distinct exactly if no two fills of one kind and position
share a ticket. -/
theorem distinct_iff (hdigest : HexDigits digest) :
    ((historyDeals (projectedRows deals anchor) allAvailableStart stop).map fun row =>
      (rowEvent digest account now row).eventId).Nodup ↔
    ∀ i j one other, i < j → deals[i]? = some one → deals[j]? = some other →
      ShownFill deals one → ShownFill deals other → one.positionId = other.positionId →
      fillType (ledgerRows deals) i one.toLedgerRow =
        fillType (ledgerRows deals) j other.toLedgerRow →
      dealDigest digest one ≠ dealDigest digest other := by
  unfold List.Nodup historyDeals
  rw [List.pairwise_map, List.pairwise_filter]
  conv_lhs => unfold projectedRows
  rw [List.pairwise_filterMap, pairwise_zipIdx]
  have hids : ∀ i j one other item item', deals[i]? = some one → deals[j]? = some other →
      ShownFill deals one → ShownFill deals other →
      importedType item = fillType (ledgerRows deals) i one.toLedgerRow →
      importedType item' = fillType (ledgerRows deals) j other.toLedgerRow →
      ((rowEvent digest account now (one, item)).eventId =
          (rowEvent digest account now (other, item')).eventId ↔
        fillType (ledgerRows deals) i one.toLedgerRow =
            fillType (ledgerRows deals) j other.toLedgerRow ∧
          one.positionText = other.positionText ∧ dealDigest digest one = dealDigest digest other) := by
    intro i j one other item item' hone hother hshown hshown' htype htype'
    rw [eventId_eq_iff hdigest hshown.fill hshown'.fill, htype, htype']
    · exact ⟨by rw [htype]; exact fillType_native _ _ _, by rw [htype']; exact fillType_native _ _ _⟩
    · exact ⟨coherent_ticket (List.mem_of_getElem? hone) hshown.fill hshown.coherent,
        coherent_ticket (List.mem_of_getElem? hother) hshown'.fill hshown'.coherent⟩
  constructor
  · intro h i j one other hlt hone hother hshown hshown' hid hkind hsame
    obtain ⟨item, hitem, hkept, htype⟩ :=
      @exists_shownRow deals anchor stop one i hone hshown
    obtain ⟨item', hitem', hkept', htype'⟩ :=
      @exists_shownRow deals anchor stop other j hother hshown'
    have htext : one.positionText = other.positionText := by
      obtain ⟨opening, hopening, heq⟩ := hshown.opening
      obtain ⟨opening', hopening', heq'⟩ := hshown'.opening
      rw [heq, heq', hopening.unique (hid ▸ hopening')]
    have hne := h i j one other hlt hone hother (one, item) (by rw [hitem]; rfl) (other, item')
      (by rw [hitem']; rfl) hkept hkept'
    exact hne ((hids i j one other item item' hone hother hshown hshown' htype htype').mpr
      ⟨hkind, htext, hsame⟩)
  · intro h i j one other hlt hone hother row hrow row' hrow' hkept hkept' heq
    obtain ⟨item, hitem, hpair⟩ := Option.map_eq_some_iff.mp hrow
    obtain ⟨item', hitem', hpair'⟩ := Option.map_eq_some_iff.mp hrow'
    subst hpair hpair'
    have hshown : ShownFill deals one := by
      refine (@shownAt_shownFill deals anchor stop one i hone).mp ?_
      unfold shownAt
      rw [hitem]
      exact hkept
    have hshown' : ShownFill deals other := by
      refine (@shownAt_shownFill deals anchor stop other j hother).mp ?_
      unfold shownAt
      rw [hitem']
      exact hkept'
    have htype := importedType_eq (getElem?_ledgerRows hone) hitem hshown.coherent
    have htype' := importedType_eq (getElem?_ledgerRows hother) hitem' hshown'.coherent
    obtain ⟨hkind, htext, hsame⟩ :=
      (hids i j one other item item' hone hother hshown hshown' htype htype').mp heq
    have hid : one.positionId = other.positionId := by
      rw [one.positionStripped, other.positionStripped, htext]
    exact h i j one other hlt hone hother hshown hshown' hid hkind hsame

/-- The normaliser takes all marked rows exactly if it can use all openings. -/
theorem accepted_iff : (∀ row ∈ projectedRows deals anchor, row.2.projectAsTrade = true →
      Accepted now row) ↔
    ∀ index deal, deals[index]? = some deal → UsableSymbol deal.toLedgerRow →
      CoherentPosition (ledgerRows deals) deal.positionId →
      FirstEntry (ledgerRows deals) index deal.toLedgerRow → OpeningUsable deal := by
  constructor
  · intro h index deal hget hsymbol hcoherent hfirst
    obtain ⟨item, hproject⟩ := @projectDeal_isSome (ledgerRows deals) anchor deal.toLedgerRow index
      (projectable_of_entry hfirst.entry hsymbol)
    have hledger := getElem?_ledgerRows hget
    have htype : importedType item = .tradeOpened := by
      unfold importedType
      rw [(tradeOpened_iff hledger hproject hcoherent).mpr hfirst]
    exact (accepted_opened_iff htype (opening_volume_pos hproject hcoherent hfirst)).mp
      (h (deal, item) (mem_projectedRows.mpr ⟨index, hget, hproject⟩)
        ((projectAsTrade_iff hledger hproject).mpr hcoherent))
  · intro h row hrow hmarked
    obtain ⟨index, hget, hproject⟩ := mem_projectedRows.mp hrow
    have hledger := getElem?_ledgerRows hget
    have hcoherent := (projectAsTrade_iff hledger hproject).mp hmarked
    by_cases hopened : row.2.historyEventType = some .tradeOpened
    · have hfirst := (tradeOpened_iff hledger hproject hcoherent).mp hopened
      have htype : importedType row.2 = .tradeOpened := by
        unfold importedType
        rw [hopened]
      have hsymbol : UsableSymbol row.1.toLedgerRow := by
        unfold projectDeal at hproject
        split at hproject
        next hcase => exact (of_decide_eq_true hcase).2.1
        next => cases hproject
      exact (accepted_opened_iff htype (opening_volume_pos hproject hcoherent hfirst)).mpr
        (h index row.1 hget hsymbol hcoherent hfirst)
    · apply accepted_of_not_opened
      have htype := historyEventType_eq hledger hproject hcoherent
      rw [importedType_eq hledger hproject hcoherent]
      intro heq
      rw [heq] at htype
      exact hopened htype

end Ledger

/-- A position whose symbol ends in a blank. -/
def paddedSymbol : List ExportedDeal :=
  let opening : LedgerRow :=
    { ticket := some "11", dealType := some 0, positionId := "7", symbol := some "EURUSD "
      direction := "buy", entry := "IN", volume := some 2, price := some 1, profit := some 0
      commission := some 0, swap := some 0, fee := some 0 }
  [{ opening with positionText := "7", directionText := some "buy", moment := some 1
                  positionStripped := by decide }]

end TradeJournalWorker
