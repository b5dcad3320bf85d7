import TradeJournalWorker.ExceptRules
import TradeJournalWorker.VolumeReplay

namespace TradeJournalWorker

section Merge

variable {records : List EventRecord} {previous current : Snapshot} {key : String}
  {event : RawEvent}

theorem isFillEvent_iff : isFillEvent key event = true ↔
    (event.ticket = key ∧ isVolumeEvent event = true) ∧ event.nativeDealTicket.isSome = true := by
  simp [isFillEvent]

/-- What the stream has of a deal is kept. -/
theorem not_echo_of_native (hmem : event ∈ replayedStream records previous current)
    (hnative : event.nativeDealTicket.isSome = true) (closed : List String) :
    ¬ echoesClose closed event = true := by
  obtain ⟨record, -, -, symbol, before, heq⟩ := mem_streamEvents hmem
  intro hecho
  have hpartial : event.partialClose = some true := by
    unfold echoesClose at hecho
    exact (of_decide_eq_true hecho).2.1
  by_cases htype : record.eventType = .dealAdd
  · have hdeal : ∃ old new, event = dealAddEvent { record with symbol := symbol } old new := by
      rw [heq]
      unfold mql5FileEvent
      simp only [htype]
      exact ⟨_, _, rfl⟩
    obtain ⟨old, new, hevent⟩ := hdeal
    rw [hevent] at hpartial
    exact dealAddEvent_partialClose _ _ _ hpartial
  · have hnone : event.nativeDealTicket = none := by
      rw [heq]
      exact native_of_ne _ _ htype
    rw [hnone] at hnative
    cases hnative

/-- The snapshot diff knows no native deal. -/
theorem native_of_diff (h : DiffEvent previous current event) : event.nativeDealTicket = none := by
  cases h <;> rfl

/-- The events of fills that come out of the merge are those of the stream. -/
theorem fillEvents_merge (key : String) (records : List EventRecord) (previous current : Snapshot) :
    (volumeEventsOf key (mergeEventStreamWithSnapshot records previous current)).filter
        (fun event => event.nativeDealTicket.isSome) =
      fillEvents key (replayedStream records previous current) := by
  have hmerge : mergeEventStreamWithSnapshot records previous current =
      keptStream records previous current ++ reconciliationEvents records
        (keptStream records previous current) (closedTickets records previous current)
        previous current := rfl
  unfold volumeEventsOf
  rw [List.filter_filter, hmerge, List.filter_append]
  have hdiff : (reconciliationEvents records (keptStream records previous current)
      (closedTickets records previous current) previous current).filter (fun event =>
        event.nativeDealTicket.isSome && (event.ticket = key && isVolumeEvent event)) = [] := by
    apply List.filter_eq_nil_iff.mpr
    intro event hmem
    have hevent := native_of_diff (mem_detectWindowsEvents.mp (List.mem_filter.mp hmem).1)
    simp [hevent]
  rw [hdiff, List.append_nil]
  unfold keptStream fillEvents
  rw [List.filter_filter]
  apply List.filter_congr
  intro event hmem
  cases hnative : event.nativeDealTicket.isSome with
  | false => simp [isFillEvent, hnative]
  | true =>
    have hnot := not_echo_of_native hmem hnative (closedTickets records previous current)
    simp [isFillEvent, hnative, hnot]

/-- A volume event without a native deal is the state echo of a position that both snapshots
hold. -/
theorem echo_of_stream {record : EventRecord} {positions rows : OrderedDict String PositionRow}
    (hvolume : isVolumeEvent (mql5FileEvent record positions rows) = true)
    (hnative : record.eventType ≠ .dealAdd) :
    record.eventType = .position ∧ ∃ old new, positions.get? record.eventTicket = some old ∧
      rows.get? record.eventTicket = some new ∧ old.volume ≠ new.volume ∧
      (mql5FileEvent record positions rows).eventType = .tradeVolumeChanged ∧
      (mql5FileEvent record positions rows).partialClose =
        some (decide (orZero new.volume < orZero old.volume)) := by
  unfold mql5FileEvent at hvolume ⊢
  cases htype : record.eventType with
  | dealAdd => exact absurd htype hnative
  | position =>
    simp only [htype] at hvolume ⊢
    cases hnew : rows.get? record.eventTicket with
    | none =>
      rw [hnew] at hvolume
      cases hvolume
    | some new =>
      rw [hnew] at hvolume
      unfold positionEvent at hvolume ⊢
      cases hold : positions.get? record.eventTicket with
      | none =>
        rw [hold] at hvolume
        cases hvolume
      | some old =>
        rw [hold] at hvolume
        simp only at hvolume ⊢
        split at hvolume
        next hchanged =>
          rw [if_pos hchanged]
          exact ⟨trivial, old, new, rfl, rfl, hchanged, rfl, rfl⟩
        next => cases hvolume
  | orderAdd =>
    rw [htype] at hvolume
    cases hvolume
  | orderUpdate =>
    rw [htype] at hvolume
    cases hvolume
  | orderDelete =>
    rw [htype] at hvolume
    cases hvolume
  | historyAdd =>
    rw [htype] at hvolume
    cases hvolume
  | other =>
    rw [htype] at hvolume
    cases hvolume

/-- The state echo of a position whose volume has changed. -/
theorem changed_echo {record : EventRecord} {positions rows : OrderedDict String PositionRow}
    {old new : PositionRow} (htype : record.eventType = .position)
    (hold : positions.get? record.eventTicket = some old)
    (hnew : rows.get? record.eventTicket = some new) (hchanged : old.volume ≠ new.volume) :
    (mql5FileEvent record positions rows).eventType = .tradeVolumeChanged ∧
      (mql5FileEvent record positions rows).partialClose =
        some (decide (orZero new.volume < orZero old.volume)) := by
  unfold mql5FileEvent
  simp only [htype, hold, hnew]
  unfold positionEvent
  simp only
  rw [if_pos hchanged]
  exact ⟨rfl, rfl⟩

theorem native_of_deal {record : EventRecord} {positions rows : OrderedDict String PositionRow}
    (h : record.eventType = .dealAdd) :
    (mql5FileEvent record positions rows).nativeDealTicket = record.deal := by
  unfold mql5FileEvent dealAddEvent
  simp only [h]
  repeat' split
  all_goals rfl

theorem fill_deal_isSome {fill : NativeFill} (h : fill ∈ fillsOf key records) :
    fill.deal.isSome = true := by
  obtain ⟨record, -, hfill⟩ := List.mem_filterMap.mp h
  unfold fillOf at hfill
  split at hfill
  next =>
    cases Option.some.inj hfill
    exact deal_isSome record
  next => cases hfill

/-- Events that follow fills all carry a native deal. -/
theorem follows_native {target held : Rat} {fills : List NativeFill} {events : List RawEvent}
    (h : Follows target held fills events) (hdeals : ∀ fill ∈ fills, fill.deal.isSome = true) :
    ∀ event ∈ events, event.nativeDealTicket.isSome = true := by
  induction fills generalizing held events with
  | nil =>
    cases events with
    | nil =>
      intro event hmem
      exact absurd hmem List.not_mem_nil
    | cons event others => exact h.elim
  | cons fill rest ih =>
    cases events with
    | nil => exact h.elim
    | cons event others =>
      obtain ⟨hdeal, after, -, -, hothers⟩ := h
      intro found hmem
      rcases List.mem_cons.mp hmem with rfl | hmem
      · rw [hdeal]
        exact hdeals fill List.mem_cons_self
      · exact ih hothers (fun other hother => hdeals other (List.mem_cons_of_mem _ hother))
          found hmem

theorem met_nonneg {target held : Rat} {fills : List NativeFill}
    (hafter : volumeAfter fills held = some target) (hheld : 0 ≤ held)
    (hpositive : ∀ fill ∈ fills, 0 < fill.volume) :
    ∀ step ∈ metFills fills held, 0 ≤ step.1 := by
  induction fills generalizing held with
  | nil =>
    intro step hmem
    exact absurd hmem List.not_mem_nil
  | cons fill rest ih =>
    obtain ⟨after, hstep, hleft⟩ := volumeAfter_cons hafter
    rw [metFills_cons hstep]
    intro step hmem
    rcases List.mem_cons.mp hmem with rfl | hmem
    · exact hheld
    · exact ih hleft (after_nonneg hstep hheld (hpositive fill List.mem_cons_self))
        (fun other hother => hpositive other (List.mem_cons_of_mem _ hother)) step hmem

theorem not_echo_of_growth (h : event.partialClose = some false) (closed : List String) :
    ¬ echoesClose closed event = true := by
  simp [echoesClose, h]

/-- Against the rows of the two snapshots, a position that grew is no partial close. -/
theorem grows_of_lt {before after : Rat} (h : before < after) :
    some (decide (orZero (some after) < orZero (some before))) = some false := by
  show some (decide (after < before)) = some false
  rw [decide_eq_false (not_lt.mpr (le_of_lt h))]

theorem mem_volumeEventsOf {events : List RawEvent} :
    event ∈ volumeEventsOf key events ↔
      event ∈ events ∧ event.ticket = key ∧ isVolumeEvent event = true := by
  simp [volumeEventsOf]

end Merge

namespace ConsistentBatch

variable {records : List EventRecord} {previous current : Snapshot} {key : String}
  {event : RawEvent}

theorem fills_positive (h : ConsistentBatch records previous current) :
    ∀ fill ∈ fillsOf key records, 0 < fill.volume := by
  intro fill hmem
  obtain ⟨record, hrecord, hfill⟩ := List.mem_filterMap.mp hmem
  exact (fillFields_of_fillOf (h.fills record hrecord) hfill).positive

/-- The events of the fills of a plain position. -/
theorem booked (h : ConsistentBatch records previous current)
    (hplain : PlainFills (metFills (fillsOf key records) (heldVolume previous key))) :
    List.Forall₂ Books (metFills (fillsOf key records) (heldVolume previous key))
      (fillEvents key (replayedStream records previous current)) :=
  fillEvents_books h.fills (trackedAs_trackedFrom h.previousRows key)
    (heldVolume_nonneg h.previousRows key) (h.accounts key) hplain

/-- A booked fill leaves its kind of event in what is kept of the stream. -/
theorem covered (h : ConsistentBatch records previous current)
    (hplain : PlainFills (metFills (fillsOf key records) (heldVolume previous key)))
    {step : Rat × NativeFill}
    (hstep : step ∈ metFills (fillsOf key records) (heldVolume previous key)) :
    ∃ event ∈ keptStream records previous current,
      event.ticket = key ∧ event.eventType = bookedType step := by
  obtain ⟨event, hmem, hbooks⟩ := exists_of_mem_left (h.booked hplain) hstep
  obtain ⟨hstream, hfill⟩ := List.mem_filter.mp hmem
  have hfields := isFillEvent_iff.mp hfill
  exact ⟨event, mem_keptStream.mpr ⟨hstream, not_echo_of_native hstream hfields.2 _⟩,
    hfields.1.1, hbooks.type⟩

/-- A position that shrank has an economic close in the stream. -/
theorem closed_of_less (h : ConsistentBatch records previous current)
    (hplain : PlainFills (metFills (fillsOf key records) (heldVolume previous key)))
    (hless : heldVolume current key < heldVolume previous key) :
    key ∈ closedTickets records previous current := by
  obtain ⟨step, hstep, hexit⟩ := met_exit (h.accounts key) hless h.fills_positive hplain.reversal
  obtain ⟨event, hmem, hticket, htype⟩ := h.covered hplain hstep
  have hnotin : step.2.entry ≠ .in := by
    rcases hexit with hout | hout <;> rw [hout] <;> decide
  refine List.mem_map.mpr ⟨event, List.mem_filter.mpr ⟨(mem_keptStream.mp hmem).1, ?_⟩, hticket⟩
  unfold isEconomicClose
  rw [htype, bookedType, if_neg hnotin]
  split <;> rfl

theorem plain_of_accounted (h : ConsistentBatch records previous current)
    (hnative : ∀ event ∈ volumeEventsOf key (mergeEventStreamWithSnapshot records previous current),
      event.nativeDealTicket.isSome = true)
    (hfollows : Follows (heldVolume current key) (heldVolume previous key) (fillsOf key records)
      (volumeEventsOf key (mergeEventStreamWithSnapshot records previous current))) :
    PlainFills (metFills (fillsOf key records) (heldVolume previous key)) := by
  have hevents := fillEvents_merge key records previous current
  rw [List.filter_eq_self.mpr hnative] at hevents
  rw [hevents] at hfollows
  exact plain_of_follows h.fills (trackedAs_trackedFrom h.previousRows key)
    (heldVolume_nonneg h.previousRows key) hfollows

/-- Where a position grew, an echo of it would come out of the merge without a deal. -/
theorem not_echoed_of_native (h : ConsistentBatch records previous current)
    (hnative : ∀ event ∈ volumeEventsOf key (mergeEventStreamWithSnapshot records previous current),
      event.nativeDealTicket.isSome = true)
    (hheld : 0 < heldVolume previous key)
    (hgrown : heldVolume previous key < heldVolume current key) : ¬ Echoed key records := by
  intro hecho
  obtain ⟨record, hrecord, hlive, htype, hticket⟩ := hecho
  obtain ⟨old, hold⟩ := exists_row hheld
  obtain ⟨new, hnew⟩ := exists_row (lt_trans hheld hgrown)
  have holdVolume := (heldVolume_of_some h.previousRows hold).1
  have hnewVolume := (heldVolume_of_some h.currentRows hnew).1
  obtain ⟨symbol, before, hstream⟩ :=
    exists_streamEvent previous current (trackedFrom previous) hrecord hlive
  have htype' : EventRecord.eventType { record with symbol := symbol } = .position := htype
  have hdeal : EventRecord.eventType { record with symbol := symbol } ≠ .dealAdd := by
    rw [htype']
    decide
  rw [replayRecord_of_ne hdeal] at hstream
  have hchanged : old.volume ≠ new.volume := by
    rw [holdVolume, hnewVolume]
    intro heq
    have hsame := Option.some.inj heq
    linarith
  have hticket' : EventRecord.eventTicket { record with symbol := symbol } = key := hticket
  obtain ⟨hevent, hpartial⟩ := changed_echo htype'
    (hticket'.symm ▸ hold) (hticket'.symm ▸ hnew) hchanged
  have hnone := native_of_ne previous.positions current.positions hdeal
  have hkey := mql5FileEvent_ticket { record with symbol := symbol } previous.positions
    current.positions
  rw [hticket'] at hkey
  rw [holdVolume, hnewVolume, grows_of_lt hgrown] at hpartial
  have hkept := mem_keptStream.mpr ⟨hstream, not_echo_of_growth hpartial _⟩
  have hmem := mem_volumeEventsOf.mpr
    ⟨mem_merge.mpr (Or.inl hkept), hkey, by simp [isVolumeEvent, hevent]⟩
  have hsome := hnative _ hmem
  rw [hnone] at hsome
  cases hsome

/-- Where a position grew, only a scale-in covers what the diff reports of it. -/
theorem scaledIn_of_native (h : ConsistentBatch records previous current)
    (hnative : ∀ event ∈ volumeEventsOf key (mergeEventStreamWithSnapshot records previous current),
      event.nativeDealTicket.isSome = true)
    (hplain : PlainFills (metFills (fillsOf key records) (heldVolume previous key)))
    (hheld : 0 < heldVolume previous key)
    (hgrown : heldVolume previous key < heldVolume current key) :
    ScaledIn (metFills (fillsOf key records) (heldVolume previous key)) := by
  obtain ⟨old, hold⟩ := exists_row hheld
  obtain ⟨new, hnew⟩ := exists_row (lt_trans hheld hgrown)
  have holdVolume := (heldVolume_of_some h.previousRows hold).1
  have hnewVolume := (heldVolume_of_some h.currentRows hnew).1
  have hchanged : old.volume ≠ new.volume := by
    rw [holdVolume, hnewVolume]
    intro heq
    have hsame := Option.some.inj heq
    linarith
  have hdiff := DiffEvent.volumeChanged hnew hold hchanged
  have hpartial : (volumeChangedEvent key new old).partialClose = some false := by
    unfold volumeChangedEvent
    simp only
    rw [holdVolume, hnewVolume, grows_of_lt hgrown]
  have hcovered : eventKey (volumeChangedEvent key new old) ∈
      (keptStream records previous current).map eventKey := by
    by_contra hfree
    have hmerged := mem_merge.mpr (Or.inr ⟨hdiff, hfree, not_echo_of_growth hpartial _,
      by simp [volumeChangedEvent]⟩)
    have hmem := mem_volumeEventsOf.mpr ⟨hmerged, rfl, by simp [isVolumeEvent, volumeChangedEvent]⟩
    have hsome := hnative _ hmem
    cases hsome
  obtain ⟨event, hkept, hkey⟩ := List.mem_map.mp hcovered
  have htype : event.eventType = .tradeVolumeChanged := congrArg Prod.fst hkey
  have hticket : event.ticket = key := congrArg Prod.snd hkey
  have hvolume : isVolumeEvent event = true := by simp [isVolumeEvent, htype]
  have hmem := mem_volumeEventsOf.mpr ⟨mem_merge.mpr (Or.inl hkept), hticket, hvolume⟩
  have hfill : event ∈ fillEvents key (replayedStream records previous current) :=
    List.mem_filter.mpr ⟨(mem_keptStream.mp hkept).1,
      isFillEvent_iff.mpr ⟨⟨hticket, hvolume⟩, hnative event hmem⟩⟩
  obtain ⟨step, hstep, hbooks⟩ := exists_of_mem_right (h.booked hplain) hfill
  have hbooked := hbooks.type
  rw [htype] at hbooked
  have hnonneg := met_nonneg (h.accounts key) (heldVolume_nonneg h.previousRows key)
    h.fills_positive step hstep
  unfold bookedType at hbooked
  split at hbooked
  next hin =>
    split at hbooked
    next => cases hbooked
    next hne => exact ⟨step, hstep, hin, lt_of_le_of_ne hnonneg (Ne.symm hne)⟩
  next => split at hbooked <;> cases hbooked

/-- Nothing of the diff is left for a plain position. -/
theorem diff_covered (h : ConsistentBatch records previous current)
    (hplain : PlainPosition key records previous current)
    (hdiff : DiffEvent previous current event) (hticket : event.ticket = key)
    (hvolume : isVolumeEvent event = true) :
    eventKey event ∈ (keptStream records previous current).map eventKey ∨
      echoesClose (closedTickets records previous current) event = true := by
  have hcover : ∀ step ∈ metFills (fillsOf key records) (heldVolume previous key),
      bookedType step = event.eventType →
        eventKey event ∈ (keptStream records previous current).map eventKey := by
    intro step hstep htype
    obtain ⟨found, hkept, hfound, hbooked⟩ := h.covered hplain.1 hstep
    refine List.mem_map.mpr ⟨found, hkept, ?_⟩
    rw [eventKey, eventKey, hfound, hticket, hbooked, htype]
  cases hdiff with
  | @opened ticket pos hnew hold =>
    obtain rfl : ticket = key := hticket
    left
    have hafter := h.accounts ticket
    rw [heldVolume_of_none hold] at hafter hcover
    obtain ⟨step, hstep, hin, hzero⟩ := met_opening hafter
      (heldVolume_of_some h.currentRows hnew).2 h.fills_positive
    apply hcover step hstep
    rw [bookedType, if_pos hin, if_pos hzero]
    rfl
  | @closed ticket old hold hnew =>
    obtain rfl : ticket = key := hticket
    left
    have hafter := h.accounts ticket
    rw [heldVolume_of_none hnew] at hafter
    obtain ⟨step, hstep, hexit, hzero⟩ := met_closing hafter
      (heldVolume_of_some h.previousRows hold).2 h.fills_positive hplain.1.reversal
    apply hcover step hstep
    have hnotin : step.2.entry ≠ .in := by
      rcases hexit with hout | hout <;> rw [hout] <;> decide
    rw [bookedType, if_neg hnotin, if_pos hzero]
    rfl
  | @volumeChanged ticket new old hnew hold hchanged =>
    obtain rfl : ticket = key := hticket
    obtain ⟨holdVolume, holdPositive⟩ := heldVolume_of_some h.previousRows hold
    have hnewVolume := (heldVolume_of_some h.currentRows hnew).1
    rw [holdVolume, hnewVolume] at hchanged
    rcases lt_or_gt_of_ne (fun heq => hchanged (congrArg some heq)) with hgrown | hless
    · left
      obtain ⟨step, hstep, hin, hpositive⟩ := (hplain.2 holdPositive hgrown).2
      apply hcover step hstep
      rw [bookedType, if_pos hin, if_neg (ne_of_gt hpositive)]
      rfl
    · right
      have hclosed := h.closed_of_less hplain.1 hless
      simp [echoesClose, volumeChangedEvent, holdVolume, hnewVolume, orZero, hless, hclosed]
  | modified => cases hvolume
  | orderCreated => cases hvolume
  | orderModified => cases hvolume
  | orderCancelled => cases hvolume
  | dealRecorded => cases hvolume

/-- Every volume event of a plain position is that of a fill. -/
theorem native_of_plain (h : ConsistentBatch records previous current)
    (hplain : PlainPosition key records previous current) :
    ∀ event ∈ volumeEventsOf key (mergeEventStreamWithSnapshot records previous current),
      event.nativeDealTicket.isSome = true := by
  intro event hmem
  obtain ⟨hmerged, hticket, hvolume⟩ := mem_volumeEventsOf.mp hmem
  rcases mem_merge.mp hmerged with hkept | ⟨hdiff, hfree, hecho, -⟩
  · obtain ⟨hstream, hecho⟩ := mem_keptStream.mp hkept
    obtain ⟨record, hrecord, hlive, symbol, before, heq⟩ := mem_streamEvents hstream
    by_cases htype : EventRecord.eventType { record with symbol := symbol } = .dealAdd
    · rw [heq, native_of_deal htype]
      exact deal_isSome _
    · rw [replayRecord_of_ne htype] at heq
      rw [heq] at hvolume
      obtain ⟨hposition, old, new, hold, hnew, hchanged, hevent, hpartial⟩ :=
        echo_of_stream hvolume htype
      rw [← heq] at hevent hpartial
      have hkey : record.eventTicket = key := by
        rw [← hticket, heq, mql5FileEvent_ticket]
        rfl
      have hkey' : EventRecord.eventTicket { record with symbol := symbol } = key := hkey
      rw [hkey'] at hold hnew
      obtain ⟨holdVolume, holdPositive⟩ := heldVolume_of_some h.previousRows hold
      have hnewVolume := (heldVolume_of_some h.currentRows hnew).1
      rw [holdVolume, hnewVolume] at hchanged hpartial
      rcases lt_or_gt_of_ne (fun heq => hchanged (congrArg some heq)) with hgrown | hless
      · exact absurd ⟨record, hrecord, hlive, hposition, hkey⟩ (hplain.2 holdPositive hgrown).1
      · have hclosed := h.closed_of_less hplain.1 hless
        refine absurd ?_ hecho
        simp [echoesClose, hevent, hpartial, orZero, hless, hticket, hclosed]
  · rcases h.diff_covered hplain hdiff hticket hvolume with hcovered | hclosed
    · exact absurd hcovered hfree
    · exact absurd hclosed hecho

theorem follows_iff (h : ConsistentBatch records previous current) (key : String) :
    Follows (heldVolume current key) (heldVolume previous key) (fillsOf key records)
        (volumeEventsOf key (mergeEventStreamWithSnapshot records previous current)) ↔
      PlainPosition key records previous current := by
  constructor
  · intro hfollows
    have hnative := follows_native hfollows (fun fill hfill => fill_deal_isSome hfill)
    have hplain := h.plain_of_accounted hnative hfollows
    exact ⟨hplain, fun hheld hgrown => ⟨h.not_echoed_of_native hnative hheld hgrown,
      h.scaledIn_of_native hnative hplain hheld hgrown⟩⟩
  · intro hplain
    have hevents := fillEvents_merge key records previous current
    rw [List.filter_eq_self.mpr (h.native_of_plain hplain)] at hevents
    rw [hevents]
    exact follows_of_books (h.booked hplain.1) (h.accounts key)

end ConsistentBatch

/-- One position of this volume. -/
def onePosition (volume : Rat) : Snapshot :=
  { positions := singleRow "7" { volume := some volume } }

/-- A deal that adds one lot to the position. -/
def addingDeal : EventRecord :=
  { sequence := 1, eventType := .dealAdd, ticket := "31", positionId := some "7"
    dealId := some "31", volume := some 1, price := some 2, entry := some .in }

/-- The notification that the position has changed. -/
def positionNotice : EventRecord :=
  { sequence := 2, eventType := .position, ticket := "7", positionId := some "7" }

theorem onePosition_get? (volume : Rat) (key : String) :
    (onePosition volume).positions.get? key =
      if key = "7" then some { volume := some volume } else none := by
  show (singleRow "7" { volume := some volume }).get? key = _
  rw [singleRow, OrderedDict.get?_set, OrderedDict.get?_empty]

theorem positiveRows_onePosition {volume : Rat} (h : 0 < volume) :
    PositiveRows (onePosition volume) := by
  intro key row hrow
  rw [onePosition_get?] at hrow
  split at hrow
  next =>
    cases hrow
    exact ⟨volume, rfl, h⟩
  next => cases hrow

theorem heldVolume_onePosition (volume : Rat) (key : String) :
    heldVolume (onePosition volume) key = if key = "7" then volume else 0 := by
  rw [heldVolume, onePosition_get?]
  split <;> rfl

theorem fillOf_addingDeal (key : String) :
    fillOf key addingDeal = if key = "7" then some ⟨some "31", .in, 1⟩ else none := by
  have hposition : addingDeal.position = some "7" := by decide
  have hdeal : addingDeal.deal = some "31" := by decide
  unfold fillOf
  rw [hposition, hdeal]
  by_cases hkey : key = "7"
  · rw [if_pos ⟨rfl, rfl, congrArg some hkey.symm⟩, if_pos hkey]
    rfl
  · rw [if_neg fun hlive => hkey (Option.some.inj hlive.2.2).symm, if_neg hkey]

/-- One lot was added between the two snapshots; notifications of other kinds do not matter. -/
theorem consistent_addingDeal (notices : List EventRecord)
    (hnotices : ∀ record ∈ notices, record.eventType ≠ .dealAdd) :
    ConsistentBatch (addingDeal :: notices) (onePosition 1) (onePosition 2) := by
  have hnone : ∀ key, fillsOf key notices = [] := by
    intro key
    apply List.filterMap_eq_nil_iff.mpr
    intro record hmem
    rw [fillOf, if_neg fun hlive => hnotices record hmem hlive.2.1]
  refine ⟨positiveRows_onePosition (by norm_num), positiveRows_onePosition (by norm_num), ?_, ?_⟩
  · intro record hmem hlive htype
    rcases List.mem_cons.mp hmem with rfl | hmem
    · exact ⟨"7", 1, by decide, by decide, rfl, by norm_num⟩
    · exact absurd htype (hnotices record hmem)
  · intro key
    rw [heldVolume_onePosition, heldVolume_onePosition]
    have hfill := fillOf_addingDeal key
    split
    next hkey =>
      rw [if_pos hkey] at hfill
      rw [fillsOf_some _ hfill, hnone]
      simp only [volumeAfter, after_in, Option.bind_some]
      norm_num
    next hkey =>
      rw [if_neg hkey] at hfill
      rw [fillsOf_none _ hfill, hnone]
      rfl

theorem plain_addingDeal (key : String) :
    PlainPosition key [addingDeal] (onePosition 1) (onePosition 2) := by
  have hfill := fillOf_addingDeal key
  unfold PlainPosition GrowthCovered
  rw [heldVolume_onePosition]
  by_cases hkey : key = "7"
  · rw [if_pos hkey] at hfill ⊢
    rw [fillsOf_some _ hfill]
    refine ⟨⟨?_, ?_⟩, fun _ _ => ⟨?_, (1, ⟨some "31", .in, 1⟩), by simp [metFills], rfl, by norm_num⟩⟩
    · intro step hmem
      obtain rfl : step = (1, ⟨some "31", .in, 1⟩) := by simpa [metFills, fillsOf] using hmem
      decide
    · intro step hmem hdust
      obtain rfl : step = (1, ⟨some "31", .in, 1⟩) := by simpa [metFills, fillsOf] using hmem
      rcases hdust.1 with hout | hout <;> cases hout
    · intro hecho
      obtain ⟨record, hmem, -, htype, -⟩ := hecho
      obtain rfl : record = addingDeal := List.mem_singleton.mp hmem
      cases htype
  · rw [if_neg hkey] at hfill ⊢
    rw [fillsOf_none _ hfill]
    refine ⟨⟨?_, ?_⟩, fun hheld => absurd hheld (lt_irrefl _)⟩
    · intro step hmem
      exact absurd hmem List.not_mem_nil
    · intro step hmem
      exact absurd hmem List.not_mem_nil

end TradeJournalWorker
