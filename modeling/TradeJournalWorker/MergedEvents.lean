import TradeJournalWorker.DiffEvents
import TradeJournalWorker.LiveSync

namespace TradeJournalWorker

section Stream

variable {previous current : Snapshot} {records : List EventRecord} {event : RawEvent}

theorem resolveSymbol_eq (previous current : Snapshot) (record : EventRecord) :
    ∃ symbol, resolveSymbol previous current record = { record with symbol := symbol } := by
  unfold resolveSymbol
  split
  next symbol _ =>
    split
    · exact ⟨some symbol, rfl⟩
    · exact ⟨record.symbol, rfl⟩
  next => exact ⟨record.symbol, rfl⟩

theorem mql5FileEvent_ticket (record : EventRecord)
    (previous current : OrderedDict String PositionRow) :
    (mql5FileEvent record previous current).ticket = record.eventTicket := by
  unfold mql5FileEvent dealAddEvent positionEvent
  simp only
  repeat' split
  all_goals rfl

theorem replayRecord_of_ne {tracked : Tracked} {record : EventRecord}
    (h : record.eventType ≠ .dealAdd) :
    replayRecord previous current tracked record =
      ⟨tracked, previous.positions, current.positions⟩ := by
  unfold replayRecord
  simp only
  rw [if_neg (fun hand => h hand.1)]

/-- Every event of the stream is that of one record at some state of the replay. -/
theorem mem_streamEvents {tracked : Tracked}
    (h : event ∈ streamEvents previous current tracked records) :
    ∃ record ∈ records, record.historyArchived = false ∧ ∃ symbol before,
      event = mql5FileEvent { record with symbol := symbol }
        (replayRecord previous current before { record with symbol := symbol }).previous
        (replayRecord previous current before { record with symbol := symbol }).current := by
  induction records generalizing tracked with
  | nil => exact absurd h List.not_mem_nil
  | cons record rest ih =>
    unfold streamEvents at h
    split at h
    next =>
      obtain ⟨found, hfound, hrest⟩ := ih h
      exact ⟨found, List.mem_cons_of_mem _ hfound, hrest⟩
    next harchived =>
      obtain ⟨symbol, hsymbol⟩ := resolveSymbol_eq previous current record
      simp only [hsymbol] at h
      rcases List.mem_cons.mp h with rfl | h
      · exact ⟨record, List.mem_cons_self, by simpa using harchived, symbol, tracked, rfl⟩
      · obtain ⟨found, hfound, hrest⟩ := ih h
        exact ⟨found, List.mem_cons_of_mem _ hfound, hrest⟩

theorem exists_streamEvent (previous current : Snapshot) (tracked : Tracked)
    {record : EventRecord} (hmem : record ∈ records)
    (harchived : record.historyArchived = false) :
    ∃ symbol before, mql5FileEvent { record with symbol := symbol }
        (replayRecord previous current before { record with symbol := symbol }).previous
        (replayRecord previous current before { record with symbol := symbol }).current ∈
      streamEvents previous current tracked records := by
  induction records generalizing tracked with
  | nil => exact absurd hmem List.not_mem_nil
  | cons head rest ih =>
    unfold streamEvents
    obtain ⟨symbol, hsymbol⟩ := resolveSymbol_eq previous current head
    rcases List.mem_cons.mp hmem with rfl | hmem
    · rw [harchived]
      simp only [Bool.false_eq_true, if_false, hsymbol]
      exact ⟨symbol, tracked, List.mem_cons_self⟩
    · split
      next => exact ih _ hmem
      next =>
        simp only [hsymbol]
        obtain ⟨symbol', before, hfound⟩ := ih _ hmem
        exact ⟨symbol', before, List.mem_cons_of_mem _ hfound⟩

end Stream

section Merge

variable {records : List EventRecord} {previous current : Snapshot} {event : RawEvent}

/-- The stream of a batch before the echoes of its closes are dropped. -/
def replayedStream (records : List EventRecord) (previous current : Snapshot) : List RawEvent :=
  streamEvents previous current (trackedFrom previous) records

def closedTickets (records : List EventRecord) (previous current : Snapshot) : List String :=
  ((replayedStream records previous current).filter isEconomicClose).map RawEvent.ticket

def keptStream (records : List EventRecord) (previous current : Snapshot) : List RawEvent :=
  (replayedStream records previous current).filter fun event =>
    ¬ echoesClose (closedTickets records previous current) event

theorem mem_keptStream :
    event ∈ keptStream records previous current ↔
      event ∈ replayedStream records previous current ∧
        ¬ echoesClose (closedTickets records previous current) event = true := by
  unfold keptStream
  rw [List.mem_filter]
  simp

theorem mem_merge :
    event ∈ mergeEventStreamWithSnapshot records previous current ↔
      event ∈ keptStream records previous current ∨
        (DiffEvent previous current event ∧
          eventKey event ∉ (keptStream records previous current).map eventKey ∧
          ¬ echoesClose (closedTickets records previous current) event = true ∧
          ¬ (event.eventType = .dealRecorded ∧ event.ticket ∈ streamDealIds records)) := by
  have hmerge : mergeEventStreamWithSnapshot records previous current =
      keptStream records previous current ++ reconciliationEvents records
        (keptStream records previous current) (closedTickets records previous current)
        previous current := rfl
  rw [hmerge, List.mem_append]
  unfold reconciliationEvents
  rw [List.mem_filter, mem_detectWindowsEvents]
  simp only [not_or, decide_eq_true_eq]

/-- Without records the merge is the diff, so a poll merges in any case. -/
theorem detectBatch_eq_merge (records : List EventRecord) (previous current : Snapshot) :
    detectBatch records previous current =
      mergeEventStreamWithSnapshot records previous current := by
  unfold detectBatch
  split
  next => rfl
  next hempty =>
    obtain rfl : records = [] := by simpa using hempty
    have hall : ∀ event ∈ detectWindowsEvents previous current,
        (decide ¬ (eventKey event ∈ ([] : List RawEvent).map eventKey ∨
          echoesClose [] event = true ∨
          (event.eventType = .dealRecorded ∧ event.ticket ∈ streamDealIds []))) = true := by
      intro event _
      simp [echoesClose, streamDealIds]
    exact (List.filter_eq_self.mpr hall).symm

theorem echoesClose_of_ne {closed : List String} (h : event.eventType ≠ .tradeVolumeChanged) :
    ¬ echoesClose closed event = true := by
  simp [echoesClose, h]

/-- An event of the diff that is no echo is in the batch, or one of its kind is. -/
theorem exists_merged_of_diff (records : List EventRecord) (hdiff : DiffEvent previous current event)
    (hvolume : event.eventType ≠ .tradeVolumeChanged) (hdeal : event.eventType ≠ .dealRecorded) :
    ∃ merged ∈ mergeEventStreamWithSnapshot records previous current,
      eventKey merged = eventKey event := by
  by_cases hcovered : eventKey event ∈ (keptStream records previous current).map eventKey
  · obtain ⟨found, hfound, hkey⟩ := List.mem_map.mp hcovered
    exact ⟨found, mem_merge.mpr (Or.inl hfound), hkey⟩
  · refine ⟨event, mem_merge.mpr (Or.inr ⟨hdiff, hcovered, echoesClose_of_ne hvolume, ?_⟩), rfl⟩
    exact fun hand => hdeal hand.1

end Merge

end TradeJournalWorker
