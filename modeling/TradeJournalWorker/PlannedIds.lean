import TradeJournalWorker.ExcursionStability
import TradeJournalWorker.PollPayloads

namespace TradeJournalWorker

/-- A state without the moments at which its extremes were seen. -/
def ExcursionState.unstamped (state : ExcursionState) : ExcursionState :=
  { state with mfeAt := none, maeAt := none }

/-- Two states that give a close the same measurements. -/
def Alike (a b : ExcursionState) : Prop := a.unstamped = b.unstamped ∧ (a = {} ↔ b = {})

theorem Alike.refl (state : ExcursionState) : Alike state state := ⟨rfl, Iff.rfl⟩

section Close

variable {a b : ExcursionState} {event : RawEvent} {now now' : String} {sampleMs : Nat}

theorem observeValue_unstamped (h : a.unstamped = b.unstamped) (delta : Rat)
    (point profit : Option Rat) (at1 at2 : String) :
    (a.observeValue delta point profit at1).unstamped =
      (b.observeValue delta point profit at2).unstamped := by
  obtain ⟨s1, d1, o1, bb1, p1, g1, mf1, mfa1, ma1, maa1, mp1, map1, mm1, mam1, n1⟩ := a
  obtain ⟨s2, d2, o2, bb2, p2, g2, mf2, mfa2, ma2, maa2, mp2, map2, mm2, mam2, n2⟩ := b
  simp only [ExcursionState.unstamped, ExcursionState.mk.injEq, true_and] at h
  obtain ⟨rfl, rfl, rfl, rfl, rfl, rfl, rfl, rfl, rfl, rfl, rfl, rfl, rfl⟩ := h
  unfold ExcursionState.observeValue ExcursionState.withMoney ExcursionState.withPoints
    ExcursionState.unstamped
  cases point with
  | none => cases profit <;> simp only [] <;> split <;> split <;> rfl
  | some point =>
    cases profit <;> simp only [] <;> split <;> split <;> split <;> rfl

theorem observeValue_ne_empty (state : ExcursionState) (delta : Rat) (point profit : Option Rat)
    (observedAt : String) : state.observeValue delta point profit observedAt ≠ {} := by
  intro h
  have hsamples := congrArg ExcursionState.samples h
  unfold ExcursionState.observeValue at hsamples
  cases hsamples

theorem Alike.atClose (h : Alike a b) (event : RawEvent) (now now' : String) :
    Alike (a.atClose event now) (b.atClose event now') := by
  have hprice := congrArg ExcursionState.openPrice h.1
  have hdirection := congrArg ExcursionState.direction h.1
  have hpoint := congrArg ExcursionState.point h.1
  simp only [ExcursionState.unstamped] at hprice hdirection hpoint
  unfold ExcursionState.atClose
  rw [hprice, hdirection, hpoint]
  cases b.openPrice with
  | none => exact h
  | some openPrice =>
    cases event.closePrice with
    | none => exact h
    | some closePrice =>
      refine ⟨observeValue_unstamped h.1 _ _ _ _ _, ?_⟩
      exact iff_of_false (observeValue_ne_empty _ _ _ _ _) (observeValue_ne_empty _ _ _ _ _)

variable {digest : Fingerprint → String} {login : Option String}

/-- The fingerprint takes nothing from the excursion but the measurements of a close without a
deal. -/
theorem fingerprint_excursion (x y : ExcursionFields)
    (h : event.eventType = .tradeClosed → event.nativeDealTicket = none →
      x.maePoints = y.maePoints ∧ x.mfePoints = y.mfePoints ∧ x.samples = y.samples) :
    fingerprint { event with excursion := x } = fingerprint { event with excursion := y } := by
  unfold fingerprint
  simp only
  split
  next => rfl
  next hnative =>
    by_cases hclosed : event.eventType = .tradeClosed
    · have hnone : event.nativeDealTicket = none := by
        by_contra hsome
        exact hnative ⟨by rw [hclosed]; decide, hsome⟩
      obtain ⟨hmae, hmfe, hsamples⟩ := h hclosed hnone
      rw [hclosed]
      simp [fingerprintFields, RawEvent.get, hmae, hmfe, hsamples]
    · cases htype : event.eventType with
      | tradeClosed => exact absurd htype hclosed
      | tradeOpened => rfl
      | tradeModified => rfl
      | tradePartialClosed => rfl
      | tradeVolumeChanged => rfl
      | pendingOrderCreated => rfl
      | pendingOrderModified => rfl
      | pendingOrderCancelled => rfl
      | dealRecorded => rfl

theorem buildEventId_excursion (x y : ExcursionFields)
    (h : event.eventType = .tradeClosed → event.nativeDealTicket = none →
      x.maePoints = y.maePoints ∧ x.mfePoints = y.mfePoints ∧ x.samples = y.samples) :
    buildEventId digest login { event with excursion := x } =
      buildEventId digest login { event with excursion := y } :=
  buildEventId_congr rfl rfl (fingerprint_excursion x y h)

/-- The fields that a close takes from the state of its position. -/
def closeExcursion (sampleMs : Nat) (now : String) (state : ExcursionState) (event : RawEvent) :
    ExcursionFields :=
  if event.eventType = .tradeClosed ∧ event.ticket ≠ "" ∧ state ≠ {} then
    (state.atClose event now).fields sampleMs
  else event.excursion

theorem enrichCloseEvent_events (enriched : Enriched) (event : RawEvent) :
    (enrichCloseEvent sampleMs now enriched event).events = enriched.events ++
      [{ event with
        excursion := closeExcursion sampleMs now (stateOf enriched.positions event.ticket) event }] := by
  unfold enrichCloseEvent closeExcursion
  simp only
  split
  · rfl
  · rfl

theorem stateOf_enrichCloseEvent (enriched : Enriched) (event : RawEvent) (ticket : String) :
    stateOf (enrichCloseEvent sampleMs now enriched event).positions ticket =
      if ticket = event.ticket ∧ event.eventType = .tradeClosed ∧ event.ticket ≠ "" ∧
          stateOf enriched.positions ticket ≠ {} then
        (stateOf enriched.positions ticket).atClose event now
      else stateOf enriched.positions ticket := by
  unfold enrichCloseEvent
  simp only
  by_cases hticket : ticket = event.ticket
  · subst hticket
    split
    next hcond =>
      rw [if_pos ⟨rfl, hcond⟩]
      exact (stateOf_set _ _ _ _).trans (if_pos rfl)
    next hcond => rw [if_neg fun h => hcond h.2]
  · rw [if_neg fun h : ticket = event.ticket ∧ _ => hticket h.1]
    split
    next => exact (stateOf_set _ _ _ _).trans (if_neg hticket)
    next => rfl

/-- Two trackers that agree on the positions whose closes name no deal. -/
def AlikeOn (events : List RawEvent) (p q : Excursions) : Prop :=
  ∀ event ∈ events, event.eventType = .tradeClosed → event.nativeDealTicket = none →
    Alike (stateOf p event.ticket) (stateOf q event.ticket)

theorem AlikeOn.enriched {events : List RawEvent} {one two : Enriched} (event : RawEvent)
    (h : AlikeOn events one.positions two.positions) :
    AlikeOn events (enrichCloseEvent sampleMs now one event).positions
      (enrichCloseEvent sampleMs now' two event).positions := by
  intro other hmem hclosed hnone
  have halike := h other hmem hclosed hnone
  rw [stateOf_enrichCloseEvent, stateOf_enrichCloseEvent]
  by_cases hcond : other.ticket = event.ticket ∧ event.eventType = .tradeClosed ∧
      event.ticket ≠ "" ∧ stateOf one.positions other.ticket ≠ {}
  · obtain ⟨hticket, htype, hnamed, hstate⟩ := hcond
    rw [if_pos ⟨hticket, htype, hnamed, hstate⟩,
      if_pos ⟨hticket, htype, hnamed, fun he => hstate (halike.2.mpr he)⟩]
    exact halike.atClose event now now'
  · rw [if_neg hcond, if_neg fun hc => hcond ⟨hc.1, hc.2.1, hc.2.2.1, fun he =>
      hc.2.2.2 (halike.2.mp he)⟩]
    exact halike

theorem closeExcursion_alike (h : Alike a b) :
    (closeExcursion sampleMs now a event).maePoints =
        (closeExcursion sampleMs now' b event).maePoints ∧
      (closeExcursion sampleMs now a event).mfePoints =
        (closeExcursion sampleMs now' b event).mfePoints ∧
      (closeExcursion sampleMs now a event).samples =
        (closeExcursion sampleMs now' b event).samples := by
  unfold closeExcursion
  by_cases hcond : event.eventType = .tradeClosed ∧ event.ticket ≠ "" ∧ a ≠ {}
  · obtain ⟨htype, hnamed, hstate⟩ := hcond
    rw [if_pos ⟨htype, hnamed, hstate⟩, if_pos ⟨htype, hnamed, fun he => hstate (h.2.mpr he)⟩]
    have hfinal := (h.atClose event now now').1
    have hmae := congrArg ExcursionState.maePoints hfinal
    have hmfe := congrArg ExcursionState.mfePoints hfinal
    have hsamples := congrArg ExcursionState.samples hfinal
    simp only [ExcursionState.unstamped] at hmae hmfe hsamples
    simp only [ExcursionState.fields, hmae, hmfe, hsamples, and_self]
  · rw [if_neg hcond, if_neg fun hc => hcond ⟨hc.1, hc.2.1, fun he => hc.2.2 (h.2.mp he)⟩]
    exact ⟨rfl, rfl, rfl⟩

/-- The ids of a batch do not depend on when its closes are measured. -/
theorem enrichCloseEvents_ids {events : List RawEvent} {p q : Excursions}
    (h : AlikeOn events p q) :
    (enrichCloseEvents sampleMs now p events).events.map (buildEventId digest login) =
      (enrichCloseEvents sampleMs now' q events).events.map (buildEventId digest login) := by
  have hfold : ∀ (rest : List RawEvent) (one two : Enriched), rest ⊆ events →
      AlikeOn events one.positions two.positions →
      one.events.map (buildEventId digest login) = two.events.map (buildEventId digest login) →
      (rest.foldl (enrichCloseEvent sampleMs now) one).events.map (buildEventId digest login) =
        (rest.foldl (enrichCloseEvent sampleMs now') two).events.map
          (buildEventId digest login) := by
    intro rest
    induction rest with
    | nil => exact fun one two _ _ hids => hids
    | cons event rest ih =>
      intro one two hsubset hpositions hids
      obtain ⟨hmem, hrest⟩ := List.cons_subset.mp hsubset
      rw [List.foldl_cons, List.foldl_cons]
      apply ih _ _ hrest (hpositions.enriched event)
      rw [enrichCloseEvent_events, enrichCloseEvent_events, List.map_append, List.map_append, hids]
      congr 1
      simp only [List.map_cons, List.map_nil, List.cons.injEq, and_true]
      apply buildEventId_excursion
      intro hclosed hnone
      exact closeExcursion_alike (hpositions event hmem hclosed hnone)
  exact hfold events _ _ (List.Subset.refl _) h rfl

end Close

section BareCloses

variable {record : EventRecord} {previous current : OrderedDict String PositionRow}

theorem EventRecord.deal_ne_none (record : EventRecord) : record.deal ≠ none := by
  unfold EventRecord.deal pyOr
  cases record.dealId with
  | none => simp
  | some text =>
    simp only
    split
    · simp
    · simp

/-- Every close of the stream names its deal. -/
theorem mql5FileEvent_closed (h : (mql5FileEvent record previous current).eventType = .tradeClosed) :
    (mql5FileEvent record previous current).nativeDealTicket ≠ none := by
  unfold mql5FileEvent at h ⊢
  cases htype : record.eventType with
  | dealAdd =>
    rw [htype] at h
    simp only [dealAddEvent] at h ⊢
    cases hentry : record.entry with
    | none =>
      rw [hentry] at h
      cases h
    | some entry =>
      rw [hentry] at h
      cases entry with
      | «in» =>
        cases hold : previous.get? record.eventTicket with
        | none =>
          rw [hold] at h
          cases h
        | some old =>
          cases hnew : current.get? record.eventTicket with
          | none =>
            rw [hold, hnew] at h
            cases h
          | some new =>
            rw [hold, hnew] at h
            cases h
      | out =>
        simp only at h ⊢
        split
        · exact record.deal_ne_none
        · exact record.deal_ne_none
      | outBy =>
        simp only at h ⊢
        split
        · exact record.deal_ne_none
        · exact record.deal_ne_none
      | inout => cases h
      | unknown => cases h
  | position =>
    rw [htype] at h
    simp only at h
    split at h
    next new _ =>
      unfold positionEvent at h
      simp only at h
      split at h
      next => cases h
      next =>
        split at h
        next => cases h
        next => cases h
    next => cases h
  | orderAdd =>
    rw [htype] at h
    cases h
  | orderUpdate =>
    rw [htype] at h
    cases h
  | orderDelete =>
    rw [htype] at h
    cases h
  | historyAdd =>
    rw [htype] at h
    cases h
  | other =>
    rw [htype] at h
    cases h

/-- A close without a deal comes from the diff, so its position is gone. -/
theorem notMem_of_bareClose {records : List EventRecord} {before after : Snapshot}
    {event : RawEvent} (hmem : event ∈ mergeEventStreamWithSnapshot records before after)
    (hclosed : event.eventType = .tradeClosed) (hnone : event.nativeDealTicket = none) :
    event.ticket ∉ after.positions.keys := by
  rcases mem_merge.mp hmem with hstream | ⟨hdiff, -, -, -⟩
  · obtain ⟨record, -, -, symbol, tracked, rfl⟩ := mem_streamEvents (mem_keptStream.mp hstream).1
    exact absurd hnone (mql5FileEvent_closed hclosed)
  · cases hdiff with
    | closed hold hnew => exact OrderedDict.get?_eq_none_iff.mp hnew
    | opened hnew hold => cases hclosed
    | modified hnew hold hchanged => cases hclosed
    | orderCreated hnew hold => cases hclosed
    | orderModified hnew hold hchanged => cases hclosed
    | orderCancelled hold hnew hposition => cases hclosed
    | volumeChanged hnew hold hchanged => cases hclosed
    | dealRecorded hnew hold => cases hclosed

end BareCloses

section PollIds

variable (digest : Fingerprint → String) (sampleMs : Nat)

/-- The events that a poll of these stores is about to enqueue, without their excursions. -/
def preparedBatch (world : LiveWorld) (reading : BridgeReading) : Except LiveError (List RawEvent) :=
  prepareEvents world.snapshot reading.snapshot
    (detectBatch (pollRecords world reading) world.snapshot reading.snapshot)

/-- The ids that a poll of these stores hands to the outbox. -/
def pollIds (world : LiveWorld) (reading : BridgeReading) : List String :=
  match preparedBatch world reading with
  | .error _ => []
  | .ok events =>
    (freshPayloads world.dedup
      ((Plan.of sampleMs world.excursions reading events).payloads digest reading)).map eventId

variable {digest sampleMs} {world : LiveWorld} {reading : BridgeReading} {events : List RawEvent}

theorem pollIds_of_ok (h : preparedBatch world reading = .ok events) :
    pollIds digest sampleMs world reading =
      (freshPayloads world.dedup
        ((Plan.of sampleMs world.excursions reading events).payloads digest reading)).map
          eventId := by
  unfold pollIds
  rw [h]

theorem bareClose_of_prepared (h : preparedBatch world reading = .ok events) :
    ∀ event ∈ events, event.eventType = .tradeClosed → event.nativeDealTicket = none →
      event.ticket ∉ reading.snapshot.positions.keys := by
  intro event hmem hclosed hnone
  obtain ⟨source, hsource, ⟨symbol, rfl⟩, -⟩ := exists_of_mem_right (prepared_of_merged h) hmem
  have htype : source.eventType = .tradeClosed := hclosed
  have hdeal : source.nativeDealTicket = none := hnone
  have hgone := notMem_of_bareClose hsource htype hdeal
  exact hgone

theorem freshPayloads_ids (dedup : List String) (payloads : List Payload) :
    (freshPayloads dedup payloads).map eventId =
      (payloads.map eventId).filter (· ∉ dedup) := by
  unfold freshPayloads
  rw [List.filter_map]
  rfl

/-- The trackers before and after an attempt agree on what the openings of the batch make of
every position that the snapshot does not show. -/
def SameOpened (reading : BridgeReading) (events : List RawEvent) (p q : Excursions) : Prop :=
  ∀ ticket, ticket ∉ reading.snapshot.positions.keys →
    openedState ticket events (stateOf p ticket) = openedState ticket events (stateOf q ticket)

theorem SameOpened.opened {p q : Excursions} (h : SameOpened reading events p q) :
    SameOpened reading events (observeOpenEvents p events).positions q := by
  intro ticket hticket
  rw [stateOf_observeOpenEvents, openedState_idem]
  exact h ticket hticket

theorem SameOpened.observed {p q : Excursions} (h : SameOpened reading events p q) (now : String) :
    SameOpened reading events (observeSnapshot p reading.snapshot now).positions q := by
  intro ticket hticket
  have hstate := stateOf_observed p { reading with now := now } hticket
  rw [show stateOf (observeSnapshot p reading.snapshot now).positions ticket = _ from hstate]
  exact h ticket hticket

theorem SameOpened.alikeOn {p q : Excursions} (h : SameOpened reading events p q)
    (hbare : ∀ event ∈ events, event.eventType = .tradeClosed → event.nativeDealTicket = none →
      event.ticket ∉ reading.snapshot.positions.keys) (now now' : String) :
    AlikeOn events
      (observeSnapshot (observeOpenEvents p events).positions reading.snapshot now).positions
      (observeSnapshot (observeOpenEvents q events).positions reading.snapshot now').positions := by
  intro event hmem hclosed hnone
  have hticket := hbare event hmem hclosed hnone
  have hp := stateOf_observed (observeOpenEvents p events).positions { reading with now := now } hticket
  have hq := stateOf_observed (observeOpenEvents q events).positions { reading with now := now' } hticket
  have hsame : stateOf (observeSnapshot (observeOpenEvents p events).positions reading.snapshot
      now).positions event.ticket = stateOf (observeSnapshot (observeOpenEvents q
      events).positions reading.snapshot now').positions event.ticket := by
    refine hp.trans (Eq.trans ?_ hq.symm)
    rw [stateOf_observeOpenEvents, stateOf_observeOpenEvents]
    exact h event.ticket hticket
  rw [hsame]
  exact Alike.refl _

/-- A poll that finds the same stores but for the tracker plans the same ids, whenever it runs. -/
theorem pollIds_again {other : LiveWorld} (hcheckpoint : other.checkpoint = world.checkpoint)
    (harchived : other.archivedDeals = world.archivedDeals)
    (hsnapshot : other.snapshot = world.snapshot) (hdedup : other.dedup = world.dedup)
    (hopened : ∀ events, preparedBatch world reading = .ok events →
      SameOpened reading events other.excursions world.excursions) (now : String) :
    pollIds digest sampleMs other { reading with now := now } =
      pollIds digest sampleMs world reading := by
  have hbatch : preparedBatch other { reading with now := now } = preparedBatch world reading := by
    unfold preparedBatch pollRecords
    rw [hcheckpoint, harchived, hsnapshot]
    rfl
  unfold pollIds
  rw [hbatch]
  cases hprepared : preparedBatch world reading with
  | error error => rfl
  | ok events =>
    have hbare := bareClose_of_prepared hprepared
    have halike := (hopened events hprepared).alikeOn hbare now reading.now
    simp only [freshPayloads_ids, hdedup]
    congr 1
    unfold Plan.payloads
    rw [List.map_map, List.map_map]
    exact enrichCloseEvents_ids halike

end PollIds

end TradeJournalWorker
