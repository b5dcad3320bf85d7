import TradeJournalWorker.VolumeAccounting

namespace TradeJournalWorker

section Replay

variable {previous current : Snapshot} {tracked : Tracked} {record : EventRecord}
  {key : String} {held : Rat} {fill : NativeFill}

/-- The event of a record at this state of the replay. -/
def replayedEvent (previous current : Snapshot) (tracked : Tracked) (record : EventRecord) :
    RawEvent :=
  mql5FileEvent record (replayRecord previous current tracked record).previous
    (replayRecord previous current tracked record).current

/-- The replay holds this volume of the position; a closed one is not tracked. -/
def TrackedAs (tracked : Tracked) (key : String) (held : Rat) : Prop :=
  tracked.volumes.get? key = if held = 0 then none else some held

theorem deal_isSome (record : EventRecord) : record.deal.isSome = true := by
  unfold EventRecord.deal pyOr
  split
  next =>
    split <;> rfl
  next => rfl

theorem eventTicket_of_position (h : record.position = some key) (hkey : key ≠ "") :
    record.eventTicket = key := by
  unfold EventRecord.eventTicket
  rw [h, pyOr_of_ne hkey]
  rfl

/-- What the record of a fill says. -/
structure FillFields (record : EventRecord) (key : String) (fill : NativeFill) : Prop where
  type : record.eventType = .dealAdd
  position : record.position = some key
  key_ne : key ≠ ""
  deal : fill.deal = record.deal
  entry : fill.entry = record.entry.getD .unknown
  volume : record.volume = some fill.volume
  positive : 0 < fill.volume

theorem fillFields_of_fillOf (hrecord : FillRecord record) (h : fillOf key record = some fill) :
    FillFields record key fill := by
  unfold fillOf at h
  split at h
  next hlive =>
    obtain ⟨named, volume, hposition, hkey, hvolume, hpositive⟩ := hrecord hlive.1 hlive.2.1
    obtain rfl : named = key := Option.some.inj (hposition.symm.trans hlive.2.2)
    cases Option.some.inj h
    exact ⟨hlive.2.1, hposition, hkey, rfl, rfl, by rw [hvolume]; rfl,
      by rw [hvolume]; exact hpositive⟩
  next => cases h

theorem FillFields.entry_eq (h : FillFields record key fill) (hknown : fill.entry ≠ .unknown) :
    record.entry = some fill.entry := by
  have hentry := h.entry
  cases hrecord : record.entry with
  | none =>
    rw [hrecord] at hentry
    exact absurd hentry hknown
  | some entry =>
    rw [hrecord] at hentry
    rw [hentry]
    rfl

theorem FillFields.entry_in (h : FillFields record key fill) (hin : fill.entry = .in) :
    record.entry = some .in := by
  rw [h.entry_eq (by rw [hin]; decide), hin]

theorem FillFields.entry_reversal (h : FillFields record key fill) (hinout : fill.entry = .inout) :
    record.entry = some .inout := by
  rw [h.entry_eq (by rw [hinout]; decide), hinout]

theorem FillFields.entry_exit (h : FillFields record key fill) (hexit : fill.IsExit) :
    record.entry = some .out ∨ record.entry = some .outBy := by
  rcases hexit with hout | hout
  · left
    rw [h.entry_eq (by rw [hout]; decide), hout]
  · right
    rw [h.entry_eq (by rw [hout]; decide), hout]

theorem replayRecord_in (h : FillFields record key fill) (hin : fill.entry = .in) :
    replayRecord previous current tracked record = replayIn tracked record key fill.volume := by
  unfold replayRecord
  simp only [h.type, h.position, h.volume, h.entry_in hin, orZero, Option.getD_some]
  rw [if_pos ⟨trivial, h.key_ne, h.positive⟩]

theorem replayRecord_exit (h : FillFields record key fill) (hexit : fill.IsExit)
    (hheld : tracked.volumes.get? key = some held) :
    replayRecord previous current tracked record = replayOut tracked key fill.volume held := by
  unfold replayRecord
  rcases h.entry_exit hexit with hentry | hentry <;>
    simp only [h.type, h.position, h.volume, hentry, orZero, Option.getD_some, hheld] <;>
    rw [if_pos ⟨trivial, h.key_ne, h.positive⟩]

theorem replayRecord_reversal (h : FillFields record key fill) (hinout : fill.entry = .inout) :
    replayRecord previous current tracked record =
      ⟨tracked, previous.positions, current.positions⟩ := by
  unfold replayRecord
  simp only [h.entry_reversal hinout]
  split <;> rfl

theorem replayedEvent_fill (h : FillFields record key fill) :
    replayedEvent previous current tracked record =
      dealAddEvent record
        ((replayRecord previous current tracked record).previous.get? key)
        ((replayRecord previous current tracked record).current.get? key) := by
  unfold replayedEvent mql5FileEvent
  rw [eventTicket_of_position h.position h.key_ne, h.type]

/-- The kind of event that a fill is reported as. -/
def bookedType (met : Rat × NativeFill) : EventType :=
  if met.2.entry = .in then
    if met.1 = 0 then .tradeOpened else .tradeVolumeChanged
  else if met.1 - met.2.volume = 0 then .tradeClosed else .tradePartialClosed

/-- The event applies the fill to the volume it met. -/
structure Books (met : Rat × NativeFill) (event : RawEvent) : Prop where
  deal : event.nativeDealTicket = met.2.deal
  type : event.eventType = bookedType met
  applies : applyEvent met.1 event = met.2.after met.1

theorem trackedAs_set {price : Option Rat} (hheld : held ≠ 0) :
    TrackedAs ({ tracked with volumes := tracked.volumes.set key held }.setPrice key price) key
      held := by
  have hvolumes : ({ tracked with volumes := tracked.volumes.set key held }.setPrice key
      price).volumes = tracked.volumes.set key held := by
    cases price <;> rfl
  unfold TrackedAs
  rw [hvolumes, OrderedDict.get?_set_self, if_neg hheld]

theorem replayIn_books (h : FillFields record key fill) (hin : fill.entry = .in)
    (htracked : TrackedAs tracked key held) :
    Books (held, fill) (replayedEvent previous current tracked record) := by
  rw [replayedEvent_fill h, replayRecord_in h hin]
  unfold TrackedAs at htracked
  unfold dealAddEvent replayIn
  rw [h.entry_in hin]
  by_cases hzero : held = 0
  · rw [if_pos hzero] at htracked
    simp only [htracked, OrderedDict.get?_empty]
    refine ⟨h.deal.symm, ?_, ?_⟩
    · simp [dealEvent, baseEvent, bookedType, hin, hzero]
    · simp [applyEvent, dealEvent, baseEvent, hzero, after_in hin, h.volume]
  · rw [if_neg hzero] at htracked
    simp only [htracked, singleRow, OrderedDict.get?_set_self, Tracked.row]
    refine ⟨h.deal.symm, ?_, ?_⟩
    · simp [dealEvent, baseEvent, bookedType, hin, hzero]
    · simp [applyEvent, dealEvent, baseEvent, after_in hin]

theorem replayIn_tracked (h : FillFields record key fill) (hin : fill.entry = .in)
    (htracked : TrackedAs tracked key held) (hheld : 0 ≤ held) :
    TrackedAs (replayRecord previous current tracked record).tracked key (held + fill.volume) := by
  have hprior : (tracked.volumes.get? key).getD 0 = held := by
    rw [htracked]
    split
    next hzero => exact hzero.symm
    next => rfl
  rw [replayRecord_in h hin]
  have hpositive := h.positive
  simp only [replayIn, hprior]
  exact trackedAs_set (by linarith)

theorem tracked_of_exit {after : Rat} (hexit : fill.IsExit) (hpositive : 0 < fill.volume)
    (hafter : fill.after held = some after) (htracked : TrackedAs tracked key held) :
    tracked.volumes.get? key = some held := by
  have hle := (exit_of_after hexit hafter).1
  rw [htracked, if_neg (by linarith)]

theorem replayOut_event {after : Rat} (h : FillFields record key fill) (hexit : fill.IsExit)
    (hafter : fill.after held = some after) (htracked : TrackedAs tracked key held) :
    replayedEvent previous current tracked record =
      closingDealEvent record
        (if closeTolerance < held - fill.volume then .tradePartialClosed else .tradeClosed) := by
  have hheld := tracked_of_exit hexit h.positive hafter htracked
  rw [replayedEvent_fill h, replayRecord_exit h hexit hheld]
  unfold dealAddEvent replayOut
  by_cases hleft : closeTolerance < held - fill.volume
  · rcases h.entry_exit hexit with hentry | hentry <;>
      simp [hentry, hleft, singleRow]
  · rcases h.entry_exit hexit with hentry | hentry <;> simp [hentry, hleft]

theorem replayOut_books {after : Rat} (h : FillFields record key fill) (hexit : fill.IsExit)
    (hafter : fill.after held = some after) (htracked : TrackedAs tracked key held)
    (hdust : ¬ LeavesDust (held, fill)) :
    Books (held, fill) (replayedEvent previous current tracked record) := by
  have hnotin : fill.entry ≠ .in := by
    rcases hexit with hout | hout <;> rw [hout] <;> decide
  have hpositive := h.positive
  obtain ⟨hle, rfl⟩ := exit_of_after hexit hafter
  rw [replayOut_event h hexit hafter htracked]
  by_cases hleft : closeTolerance < held - fill.volume
  · rw [if_pos hleft]
    have htolerance : 0 < closeTolerance := by norm_num [closeTolerance]
    have hne : held - fill.volume ≠ 0 := by linarith
    have hlt : fill.volume < held := by linarith
    refine ⟨h.deal.symm, ?_, ?_⟩
    · simp [closingDealEvent, dealEvent, baseEvent, bookedType, hnotin, hne]
    · rw [hafter]
      simp [applyEvent, closingDealEvent, dealEvent, baseEvent, h.volume, hlt]
  · rw [if_neg hleft]
    have hnot : ¬ 0 < held - fill.volume := fun hpos => hdust ⟨hexit, hpos, not_lt.mp hleft⟩
    have hzero : held - fill.volume = 0 := by linarith
    have hsame : fill.volume = held := by linarith
    refine ⟨h.deal.symm, ?_, ?_⟩
    · simp [closingDealEvent, dealEvent, baseEvent, bookedType, hnotin, hzero]
    · rw [hafter]
      simp [applyEvent, closingDealEvent, dealEvent, baseEvent, h.volume, hsame]

/-- What an exit leaves within the tolerance is lost: the close reports another volume. -/
theorem replayOut_dust {after : Rat} (h : FillFields record key fill) (hexit : fill.IsExit)
    (hafter : fill.after held = some after) (htracked : TrackedAs tracked key held)
    (hdust : LeavesDust (held, fill)) :
    applyEvent held (replayedEvent previous current tracked record) = none := by
  rw [replayOut_event h hexit hafter htracked, if_neg (not_lt.mpr hdust.2.2)]
  have hpositive : 0 < held - fill.volume := hdust.2.1
  have hne : fill.volume ≠ held := by linarith
  simp [applyEvent, closingDealEvent, dealEvent, baseEvent, h.volume, hne]

theorem replayOut_tracked {after : Rat} (h : FillFields record key fill) (hexit : fill.IsExit)
    (hafter : fill.after held = some after) (htracked : TrackedAs tracked key held)
    (hdust : ¬ LeavesDust (held, fill)) :
    TrackedAs (replayRecord previous current tracked record).tracked key after := by
  have hheld := tracked_of_exit hexit h.positive hafter htracked
  obtain ⟨hle, rfl⟩ := exit_of_after hexit hafter
  rw [replayRecord_exit h hexit hheld]
  unfold replayOut
  by_cases hleft : closeTolerance < held - fill.volume
  · have htolerance : 0 < closeTolerance := by norm_num [closeTolerance]
    have hne : held - fill.volume ≠ 0 := by linarith
    simp only [hleft, if_true]
    unfold TrackedAs
    rw [OrderedDict.get?_set_self, if_neg hne]
  · have hnot : ¬ 0 < held - fill.volume := fun hpos => hdust ⟨hexit, hpos, not_lt.mp hleft⟩
    have hzero : held - fill.volume = 0 := by linarith
    simp only [hleft, if_false]
    unfold TrackedAs
    rw [OrderedDict.get?_erase, if_pos rfl, if_pos hzero]

/-- A reversal is reported as a recorded deal, which no reader applies to a volume. -/
theorem reversal_event (h : FillFields record key fill) (hinout : fill.entry = .inout) :
    isVolumeEvent (replayedEvent previous current tracked record) = false := by
  rw [replayedEvent_fill h, replayRecord_reversal h hinout]
  unfold dealAddEvent
  rw [h.entry_reversal hinout]
  rfl

/-- Only the records of deals carry a native deal. -/
theorem native_of_ne (positions rows : OrderedDict String PositionRow)
    (h : record.eventType ≠ .dealAdd) :
    (mql5FileEvent record positions rows).nativeDealTicket = none := by
  unfold mql5FileEvent
  cases htype : record.eventType with
  | dealAdd => exact absurd htype h
  | position =>
    simp only
    split
    next =>
      unfold positionEvent
      cases positions.get? record.eventTicket with
      | none => rfl
      | some old =>
        simp only
        split <;> rfl
    next => rfl
  | orderAdd => rfl
  | orderUpdate => rfl
  | orderDelete => rfl
  | historyAdd => rfl
  | other => rfl

/-- The event of a deal is never an echo. -/
theorem dealAddEvent_partialClose (record : EventRecord) (old new : Option PositionRow) :
    (dealAddEvent record old new).partialClose ≠ some true := by
  unfold dealAddEvent
  split
  next =>
    split
    next => simp
    next => simp [dealEvent, baseEvent]
  next =>
    split <;> simp [closingDealEvent, dealEvent, baseEvent]
  next =>
    split <;> simp [closingDealEvent, dealEvent, baseEvent]
  next => simp [closingDealEvent, dealEvent, baseEvent]

def isFillEvent (key : String) (event : RawEvent) : Bool :=
  event.ticket = key && isVolumeEvent event && event.nativeDealTicket.isSome

/-- A record that is no fill of the position neither moves it nor reports a fill of it. -/
theorem other_record (previous current : Snapshot) (tracked : Tracked)
    (hrecord : FillRecord record) (hlive : record.historyArchived = false)
    (hother : fillOf key record = none) :
    isFillEvent key (replayedEvent previous current tracked record) = false ∧
      (replayRecord previous current tracked record).tracked.volumes.get? key =
        tracked.volumes.get? key := by
  by_cases htype : record.eventType = .dealAdd
  · obtain ⟨named, volume, hposition, hkey, hvolume, -⟩ := hrecord hlive htype
    have hne : named ≠ key := by
      intro heq
      subst heq
      rw [fillOf, if_pos ⟨hlive, htype, hposition⟩] at hother
      cases hother
    have hticket : (replayedEvent previous current tracked record).ticket = named := by
      rw [replayedEvent, mql5FileEvent_ticket, eventTicket_of_position hposition hkey]
    refine ⟨by simp [isFillEvent, hticket, hne], ?_⟩
    unfold replayRecord
    simp only [hposition, Option.getD_some]
    split
    next =>
      split
      next =>
        simp only [replayIn]
        cases averagePrice (tracked.volumes.get? named) (tracked.openPrices.get? named)
          (orZero record.volume) record.price
          ((tracked.volumes.get? named).getD 0 + orZero record.volume) <;>
          exact OrderedDict.get?_set_of_ne _ _ (Ne.symm hne)
      next =>
        split
        next =>
          simp only [replayOut]
          split
          · exact OrderedDict.get?_set_of_ne _ _ (Ne.symm hne)
          · simp [OrderedDict.get?_erase, Ne.symm hne]
        next => rfl
      next =>
        split
        next =>
          simp only [replayOut]
          split
          · exact OrderedDict.get?_set_of_ne _ _ (Ne.symm hne)
          · simp [OrderedDict.get?_erase, Ne.symm hne]
        next => rfl
      next => rfl
    next => rfl
  · refine ⟨?_, by rw [replayRecord_of_ne htype]⟩
    simp [isFillEvent, replayedEvent, native_of_ne _ _ htype]

end Replay

section Stream

variable {previous current : Snapshot} {tracked : Tracked} {records : List EventRecord}
  {record : EventRecord} {key : String} {held target : Rat}

def fillEvents (key : String) (events : List RawEvent) : List RawEvent :=
  events.filter (isFillEvent key)

/-- A live record of the batch puts its event in front of the others. -/
theorem streamEvents_live (previous current : Snapshot) (tracked : Tracked)
    (records : List EventRecord) (hlive : record.historyArchived = false) :
    ∃ symbol, streamEvents previous current tracked (record :: records) =
      replayedEvent previous current tracked { record with symbol := symbol } ::
        streamEvents previous current
          (replayRecord previous current tracked { record with symbol := symbol }).tracked
          records := by
  obtain ⟨symbol, hsymbol⟩ := resolveSymbol_eq previous current record
  refine ⟨symbol, ?_⟩
  rw [streamEvents, hlive]
  simp only [Bool.false_eq_true, if_false, hsymbol]
  rfl

theorem streamEvents_archived (previous current : Snapshot) (tracked : Tracked)
    (records : List EventRecord) (harchived : record.historyArchived = true) :
    streamEvents previous current tracked (record :: records) =
      streamEvents previous current tracked records := by
  rw [streamEvents, harchived]
  simp

theorem fillsOf_archived (key : String) (records : List EventRecord)
    (harchived : record.historyArchived = true) :
    fillsOf key (record :: records) = fillsOf key records := by
  have hnone : fillOf key record = none := by simp [fillOf, harchived]
  simp [fillsOf, hnone]

theorem fillsOf_none (records : List EventRecord) (h : fillOf key record = none) :
    fillsOf key (record :: records) = fillsOf key records := by simp [fillsOf, h]

theorem fillsOf_some {fill : NativeFill} (records : List EventRecord)
    (h : fillOf key record = some fill) :
    fillsOf key (record :: records) = fill :: fillsOf key records := by simp [fillsOf, h]

/-- There are at most as many events of fills as fills. -/
theorem fillEvents_length (previous current : Snapshot) (tracked : Tracked) (key : String)
    (hrecords : ∀ record ∈ records, FillRecord record) :
    (fillEvents key (streamEvents previous current tracked records)).length ≤
      (fillsOf key records).length := by
  induction records generalizing tracked with
  | nil => exact Nat.le_refl _
  | cons record rest ih =>
    have hrest : ∀ other ∈ rest, FillRecord other := fun other hother =>
      hrecords other (List.mem_cons_of_mem _ hother)
    cases harchived : record.historyArchived with
    | true =>
      rw [streamEvents_archived _ _ _ _ harchived, fillsOf_archived _ _ harchived]
      exact ih _ hrest
    | false =>
      obtain ⟨symbol, hstream⟩ := streamEvents_live previous current tracked rest harchived
      rw [hstream]
      cases hfill : fillOf key record with
      | none =>
        have hrecord : FillRecord { record with symbol := symbol } :=
          hrecords record List.mem_cons_self
        have hother := other_record previous current tracked hrecord harchived hfill
        rw [fillsOf_none _ hfill, fillEvents, List.filter_cons_of_neg (by simp [hother.1])]
        exact ih _ hrest
      | some fill =>
        have hle := ih (replayRecord previous current tracked
          { record with symbol := symbol }).tracked hrest
        rw [fillsOf_some _ hfill, fillEvents, List.filter_cons, List.length_cons]
        unfold fillEvents at hle
        split
        next =>
          rw [List.length_cons]
          omega
        next => omega

theorem isFillEvent_books {fill : NativeFill} (h : FillFields record key fill)
    (hbooks : Books (held, fill) (replayedEvent previous current tracked record)) :
    isFillEvent key (replayedEvent previous current tracked record) = true := by
  have hticket : (replayedEvent previous current tracked record).ticket = key := by
    rw [replayedEvent, mql5FileEvent_ticket, eventTicket_of_position h.position h.key_ne]
  have hnative : (replayedEvent previous current tracked record).nativeDealTicket.isSome = true := by
    rw [hbooks.deal, h.deal]
    exact deal_isSome record
  have htype := hbooks.type
  have hvolume : isVolumeEvent (replayedEvent previous current tracked record) = true := by
    unfold isVolumeEvent
    rw [htype]
    unfold bookedType
    split
    · split <;> rfl
    · split <;> rfl
  simp [isFillEvent, hticket, hnative, hvolume]

/-- A fill that the replay can book, and where the replay stands after it. -/
theorem books_of_plain (previous current : Snapshot) {fill : NativeFill} {after : Rat} (h : FillFields record key fill)
    (htracked : TrackedAs tracked key held) (hheld : 0 ≤ held)
    (hafter : fill.after held = some after) (hreversal : fill.entry ≠ .inout)
    (hdust : ¬ LeavesDust (held, fill)) :
    Books (held, fill) (replayedEvent previous current tracked record) ∧
      TrackedAs (replayRecord previous current tracked record).tracked key after := by
  rcases entry_of_after hafter with hin | hexit | hinout
  · rw [after_in hin] at hafter
    rw [← Option.some.inj hafter]
    exact ⟨replayIn_books h hin htracked, replayIn_tracked h hin htracked hheld⟩
  · exact ⟨replayOut_books h hexit hafter htracked hdust,
      replayOut_tracked h hexit hafter htracked hdust⟩
  · exact absurd hinout hreversal

/-- Every fill of a plain position has its event, in order. -/
theorem fillEvents_books (hrecords : ∀ record ∈ records, FillRecord record)
    (htracked : TrackedAs tracked key held) (hheld : 0 ≤ held)
    (hafter : volumeAfter (fillsOf key records) held = some target)
    (hplain : PlainFills (metFills (fillsOf key records) held)) :
    List.Forall₂ Books (metFills (fillsOf key records) held)
      (fillEvents key (streamEvents previous current tracked records)) := by
  induction records generalizing tracked held with
  | nil => exact List.Forall₂.nil
  | cons record rest ih =>
    have hrest : ∀ other ∈ rest, FillRecord other := fun other hother =>
      hrecords other (List.mem_cons_of_mem _ hother)
    cases harchived : record.historyArchived with
    | true =>
      rw [fillsOf_archived _ _ harchived] at hafter hplain ⊢
      rw [streamEvents_archived _ _ _ _ harchived]
      exact ih hrest htracked hheld hafter hplain
    | false =>
      obtain ⟨symbol, hstream⟩ := streamEvents_live previous current tracked rest harchived
      rw [hstream]
      have hrecord : FillRecord { record with symbol := symbol } :=
        hrecords record List.mem_cons_self
      cases hfill : fillOf key record with
      | none =>
        rw [fillsOf_none _ hfill] at hafter hplain ⊢
        have hother := other_record previous current tracked hrecord harchived hfill
        rw [fillEvents, List.filter_cons_of_neg (by simp [hother.1])]
        refine ih hrest ?_ hheld hafter hplain
        unfold TrackedAs
        rw [hother.2]
        exact htracked
      | some fill =>
        rw [fillsOf_some _ hfill] at hafter hplain ⊢
        obtain ⟨after, hstep, hleft⟩ := volumeAfter_cons hafter
        rw [metFills_cons hstep] at hplain ⊢
        have hfields := fillFields_of_fillOf hrecord hfill
        obtain ⟨hbooks, htracked'⟩ := books_of_plain previous current
          hfields htracked hheld hstep (hplain.reversal _ List.mem_cons_self)
          (hplain.dust _ List.mem_cons_self)
        rw [fillEvents, List.filter_cons_of_pos (isFillEvent_books hfields hbooks)]
        exact List.Forall₂.cons hbooks (ih hrest htracked'
          (after_nonneg hstep hheld hfields.positive) hleft
          ⟨fun step hmem => hplain.reversal step (List.mem_cons_of_mem _ hmem),
            fun step hmem => hplain.dust step (List.mem_cons_of_mem _ hmem)⟩)

/-- Events that book their fills take the position to where the fills take it. -/
theorem follows_of_books {fills : List NativeFill} {events : List RawEvent}
    (hbooks : List.Forall₂ Books (metFills fills held) events)
    (hafter : volumeAfter fills held = some target) : Follows target held fills events := by
  induction fills generalizing held events with
  | nil =>
    cases hbooks
    exact Option.some.inj hafter
  | cons fill rest ih =>
    obtain ⟨after, hstep, hleft⟩ := volumeAfter_cons hafter
    rw [metFills_cons hstep] at hbooks
    cases hbooks with
    | cons hfirst hothers =>
      exact ⟨hfirst.deal, after, hstep, by rw [hfirst.applies]; exact hstep, ih hothers hleft⟩

theorem follows_length {fills : List NativeFill} {events : List RawEvent}
    (h : Follows target held fills events) : events.length = fills.length := by
  induction fills generalizing held events with
  | nil =>
    cases events with
    | nil => rfl
    | cons event others => exact h.elim
  | cons fill rest ih =>
    cases events with
    | nil => exact h.elim
    | cons event others =>
      obtain ⟨-, after, -, -, hothers⟩ := h
      rw [List.length_cons, List.length_cons, ih hothers]

/-- A replay that applies every fill has met no reversal and left no dust: a reversal leaves one
event too few, dust a close of another volume. -/
theorem plain_of_follows (hrecords : ∀ record ∈ records, FillRecord record)
    (htracked : TrackedAs tracked key held) (hheld : 0 ≤ held)
    (h : Follows target held (fillsOf key records)
      (fillEvents key (streamEvents previous current tracked records))) :
    PlainFills (metFills (fillsOf key records) held) := by
  induction records generalizing tracked held with
  | nil => exact ⟨fun step hmem => absurd hmem List.not_mem_nil,
      fun step hmem => absurd hmem List.not_mem_nil⟩
  | cons record rest ih =>
    have hrest : ∀ other ∈ rest, FillRecord other := fun other hother =>
      hrecords other (List.mem_cons_of_mem _ hother)
    cases harchived : record.historyArchived with
    | true =>
      rw [fillsOf_archived _ _ harchived] at h ⊢
      rw [streamEvents_archived _ _ _ _ harchived] at h
      exact ih hrest htracked hheld h
    | false =>
      obtain ⟨symbol, hstream⟩ := streamEvents_live previous current tracked rest harchived
      rw [hstream] at h
      have hrecord : FillRecord { record with symbol := symbol } :=
        hrecords record List.mem_cons_self
      cases hfill : fillOf key record with
      | none =>
        rw [fillsOf_none _ hfill] at h ⊢
        have hother := other_record previous current tracked hrecord harchived hfill
        rw [fillEvents, List.filter_cons_of_neg (by simp [hother.1])] at h
        refine ih hrest ?_ hheld h
        unfold TrackedAs
        rw [hother.2]
        exact htracked
      | some fill =>
        have hfields := fillFields_of_fillOf hrecord hfill
        rw [fillsOf_some _ hfill] at h ⊢
        have hlength := follows_length h
        have hcons : isFillEvent key (replayedEvent previous current tracked
            { record with symbol := symbol }) = true := by
          by_contra hnot
          rw [fillEvents, List.filter_cons_of_neg hnot] at hlength
          have hle := fillEvents_length previous current (replayRecord previous current tracked
            { record with symbol := symbol }).tracked key hrest
          unfold fillEvents at hle
          rw [List.length_cons] at hlength
          omega
        have hreversal : fill.entry ≠ .inout := by
          intro hinout
          simp [isFillEvent, reversal_event hfields hinout] at hcons
        rw [fillEvents, List.filter_cons_of_pos hcons] at h
        obtain ⟨-, after, hstep, happly, hothers⟩ := h
        have hdust : ¬ LeavesDust (held, fill) := by
          intro hdust
          rw [replayOut_dust hfields hdust.1 hstep htracked hdust] at happly
          cases happly
        have htracked' := (books_of_plain previous current
          hfields htracked hheld hstep hreversal hdust).2
        have hplain := ih hrest htracked' (after_nonneg hstep hheld hfields.positive) hothers
        rw [metFills_cons hstep]
        constructor
        · intro step hmem
          rcases List.mem_cons.mp hmem with rfl | hmem
          · exact hreversal
          · exact hplain.reversal step hmem
        · intro step hmem
          rcases List.mem_cons.mp hmem with rfl | hmem
          · exact hdust
          · exact hplain.dust step hmem

end Stream

section Tracking

theorem setPrice_volumes (tracked : Tracked) (key : String) (price : Option Rat) :
    (tracked.setPrice key price).volumes = tracked.volumes := by
  cases price <;> rfl

theorem volumes_foldl (entries : List (String × PositionRow)) (tracked : Tracked) (key : String)
    (hnodup : (entries.map Prod.fst).Nodup) :
    (entries.foldl (fun tracked (ticket, position) =>
      match position.volume with
      | some volume =>
        { tracked with volumes := tracked.volumes.set ticket volume }.setPrice ticket
          position.openPrice
      | none => tracked) tracked).volumes.get? key =
      ((entries.lookup key).bind PositionRow.volume).or (tracked.volumes.get? key) := by
  induction entries generalizing tracked with
  | nil => rfl
  | cons entry rest ih =>
    obtain ⟨ticket, position⟩ := entry
    rw [List.map_cons, List.nodup_cons] at hnodup
    rw [List.foldl_cons, ih _ hnodup.2, List.lookup_cons]
    by_cases hkey : key = ticket
    · subst hkey
      have hnone : rest.lookup key = none :=
        OrderedDict.lookup_eq_none_iff_not_mem.mpr hnodup.1
      rw [hnone]
      cases hvolume : position.volume with
      | none => simp [hvolume]
      | some volume => simp [hvolume, setPrice_volumes]
    · have hbeq : (key == ticket) = false := by simpa using hkey
      simp only [hbeq]
      congr 1
      cases hvolume : position.volume with
      | none => rfl
      | some volume =>
        simp only [setPrice_volumes]
        exact OrderedDict.get?_set_of_ne _ _ hkey

/-- Before the batch the replay holds what the previous snapshot says. -/
theorem trackedAs_trackedFrom {previous : Snapshot} (hrows : PositiveRows previous)
    (key : String) : TrackedAs (trackedFrom previous) key (heldVolume previous key) := by
  have hvolumes : (trackedFrom previous).volumes.get? key =
      ((previous.positions.get? key).bind PositionRow.volume).or none :=
    volumes_foldl previous.positions.entries {} key previous.positions.nodup
  unfold TrackedAs heldVolume
  rw [hvolumes]
  cases hrow : previous.positions.get? key with
  | none => simp
  | some row =>
    obtain ⟨volume, hvolume, hpositive⟩ := hrows key row hrow
    have hne : volume ≠ 0 := ne_of_gt hpositive
    simp [hvolume, hne]

theorem heldVolume_nonneg {snapshot : Snapshot} (hrows : PositiveRows snapshot) (key : String) :
    0 ≤ heldVolume snapshot key := by
  unfold heldVolume
  cases hrow : snapshot.positions.get? key with
  | none => simp
  | some row =>
    obtain ⟨volume, hvolume, hpositive⟩ := hrows key row hrow
    simp [hvolume, le_of_lt hpositive]

theorem heldVolume_of_none {snapshot : Snapshot} {key : String}
    (h : snapshot.positions.get? key = none) : heldVolume snapshot key = 0 := by
  simp [heldVolume, h]

theorem heldVolume_of_some {snapshot : Snapshot} {key : String} {row : PositionRow}
    (hrows : PositiveRows snapshot) (h : snapshot.positions.get? key = some row) :
    row.volume = some (heldVolume snapshot key) ∧ 0 < heldVolume snapshot key := by
  obtain ⟨volume, hvolume, hpositive⟩ := hrows key row h
  have hheld : heldVolume snapshot key = volume := by simp [heldVolume, h, hvolume]
  rw [hheld]
  exact ⟨hvolume, hpositive⟩

theorem exists_row {snapshot : Snapshot} {key : String} (h : 0 < heldVolume snapshot key) :
    ∃ row, snapshot.positions.get? key = some row := by
  cases hrow : snapshot.positions.get? key with
  | none =>
    rw [heldVolume_of_none hrow] at h
    exact absurd h (lt_irrefl _)
  | some row => exact ⟨row, rfl⟩

end Tracking

end TradeJournalWorker
