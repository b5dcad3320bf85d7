import TradeJournalWorker.ExceptRules
import TradeJournalWorker.LiveSync
import TradeJournalWorker.OutboxDelivery

namespace TradeJournalWorker

open FaultProgram

/-- An event before the excursion of its position is attached. -/
def RawEvent.bare (event : RawEvent) : RawEvent := { event with excursion := {} }

theorem enrichCloseEvent_bare (sampleMs : Nat) (now : String) (enriched : Enriched)
    (event : RawEvent) :
    (enrichCloseEvent sampleMs now enriched event).events.map RawEvent.bare =
      enriched.events.map RawEvent.bare ++ [event.bare] := by
  unfold enrichCloseEvent
  simp only
  split <;> simp [RawEvent.bare]

/-- The enrichment changes nothing but the excursions. -/
theorem enrichCloseEvents_bare (sampleMs : Nat) (now : String) (positions : Excursions)
    (events : List RawEvent) :
    (enrichCloseEvents sampleMs now positions events).events.map RawEvent.bare =
      events.map RawEvent.bare := by
  have hfold : ∀ enriched : Enriched,
      (events.foldl (enrichCloseEvent sampleMs now) enriched).events.map RawEvent.bare =
        enriched.events.map RawEvent.bare ++ events.map RawEvent.bare := by
    induction events with
    | nil => simp
    | cons event rest ih =>
      intro enriched
      rw [List.foldl_cons, ih, enrichCloseEvent_bare]
      simp
  exact hfold _

theorem validateEventPreflight_bare (event : RawEvent) :
    validateEventPreflight event.bare = validateEventPreflight event := rfl

/-- What the preparation makes of one event: an opening gets its symbol and is valid. -/
theorem withAuthoritativeSymbol_ok {previous current : Snapshot} {event prepared : RawEvent}
    (h : withAuthoritativeSymbol previous current event = .ok prepared) :
    validateEventPreflight prepared = .ok () ∧
      (∃ symbol, prepared = { event with symbol := symbol }) ∧
      (event.eventType ≠ .tradeOpened → prepared = event) := by
  unfold withAuthoritativeSymbol at h
  split at h
  next hother =>
    cases h
    refine ⟨?_, ⟨event.symbol, rfl⟩, fun _ => rfl⟩
    unfold validateEventPreflight
    rw [if_pos hother]
  next hopened =>
    split at h
    next => cases h
    next symbol hsymbol =>
      simp only at h
      split at h
      next hvalid =>
        cases h
        exact ⟨hvalid, ⟨some symbol, rfl⟩, fun hne => absurd hne hopened⟩
      next => cases h

theorem prepareEvents_valid {previous current : Snapshot} {detected events : List RawEvent}
    (h : prepareEvents previous current detected = .ok events) :
    ∀ event ∈ events, validateEventPreflight event = .ok () := by
  intro event hmem
  obtain ⟨source, -, hsource⟩ := exists_of_mem_right (forall₂_of_mapM h) hmem
  exact (withAuthoritativeSymbol_ok hsource).1

/-- What a poll makes of its events: the tracker after the openings, after the snapshot and
after the closes, and the events to normalize. -/
structure Plan where
  opened : Observed
  observed : Observed
  enriched : Enriched

variable (digest : Fingerprint → String) (sampleMs : Nat)

def Plan.of (excursions : Excursions) (reading : BridgeReading) (events : List RawEvent) : Plan :=
  let opened := observeOpenEvents excursions events
  let observed := observeSnapshot opened.positions reading.snapshot reading.now
  { opened, observed
    enriched := enrichCloseEvents sampleMs reading.now observed.positions events }

def Plan.payloads (plan : Plan) (reading : BridgeReading) : List Payload :=
  plan.enriched.events.map (normalizedPayload digest reading.account reading.now)

/-- The plan of a poll on the records it takes, or the reason it stops before any write. -/
def planPoll (excursions : Excursions) (previous : Snapshot) (records : List EventRecord)
    (reading : BridgeReading) : Except LiveError Plan := do
  let events ← prepareEvents previous reading.snapshot
    (detectBatch records previous reading.snapshot)
  return Plan.of sampleMs excursions reading events

def Observed.over (observed : Observed) (excursions : Excursions) : Excursions :=
  if observed.changed then observed.positions else excursions

def addIds (known ids : List String) : List String :=
  ids.foldl (fun known id => if id ∈ known then known else known ++ [id]) known

def freshPayloads (dedup : List String) (payloads : List Payload) : List Payload :=
  payloads.filter (·.eventId ∉ dedup)

/-- The stores after a poll whose writes and deliveries all succeed. -/
def committed (world : LiveWorld) (reading : BridgeReading) (records : List EventRecord)
    (plan : Plan) : LiveWorld :=
  let fresh := freshPayloads world.dedup (plan.payloads digest reading)
  { world with
    excursions := (discardClosed plan.enriched.positions plan.enriched.closed).over
      (plan.observed.over (plan.opened.over world.excursions))
    outbox := passThrough world.outbox (appendNew [] fresh)
    checkpoint := if records = [] then world.checkpoint else lastSequence records
    snapshot := reading.snapshot
    dedup := addIds world.dedup (fresh.map eventId) }

def pollRecords (world : LiveWorld) (reading : BridgeReading) : List EventRecord :=
  pendingEvents world.checkpoint world.archivedDeals reading.files

/-- What a poll writes once its events are prepared. -/
def executePlan (world : LiveWorld) (reading : BridgeReading) (plan : Plan) (delivered : Nat) :
    LiveProgram Nat := do
  saveExcursions plan.opened
  saveExcursions plan.observed
  deliverBatch reading.snapshot (pollRecords world reading) plan.enriched
    (freshPayloads world.dedup (plan.payloads digest reading)) delivered

/-- `poll_once` where every write and every delivery succeeds. -/
def cleanPoll (world : LiveWorld) (reading : BridgeReading) : LiveWorld :=
  match planPoll sampleMs world.excursions world.snapshot (pollRecords world reading) reading with
  | .error _ => world
  | .ok plan => committed digest world reading (pollRecords world reading) plan

def cleanEnv (reading : BridgeReading) : LiveEnv := { reading := .returned reading }

/-- A poll in which only the writes outside the outbox may fail. -/
def savingEnv (reading : BridgeReading) (saves : List (WriteAnswer Unit)) : LiveEnv :=
  { reading := .returned reading, saves := saves }

section CleanRuns

variable {digest sampleMs}

variable {reading : BridgeReading} {world : LiveWorld}

theorem onOutbox_run {α : Type} (p : OutboxProgram Payload α) (env : LiveEnv) (world : LiveWorld) :
    onOutbox p env world =
      ((p env.outbox world.outbox).1.mapError .outbox,
        { env with outbox := (p env.outbox world.outbox).2.1 },
        { world with outbox := (p env.outbox world.outbox).2.2 }) := rfl

theorem saveExcursions_clean (observed : Observed) :
    saveExcursions observed (cleanEnv reading) world =
      (.returned (), cleanEnv reading,
        { world with excursions := observed.over world.excursions }) := by
  unfold saveExcursions Observed.over
  split
  · rfl
  · rfl

theorem saveSnapshot_clean (current : Snapshot) :
    saveSnapshot current (cleanEnv reading) world =
      (.returned (), cleanEnv reading, { world with snapshot := current }) := rfl

theorem addDelivered_clean (payloads : List Payload) :
    addDelivered payloads (cleanEnv reading) world =
      (.returned (), cleanEnv reading,
        { world with dedup := addIds world.dedup (payloads.map eventId) }) := by
  induction payloads generalizing world with
  | nil => rfl
  | cons payload rest ih =>
    unfold addDelivered
    rw [Program.run_bind]
    exact ih

theorem le_lastSequence {records : List EventRecord} {record : EventRecord}
    (h : record ∈ records) : record.sequence ≤ lastSequence records := by
  have hfold : ∀ (numbers : List Nat) (start : Nat),
      start ≤ numbers.foldl max start ∧ ∀ n ∈ numbers, n ≤ numbers.foldl max start := by
    intro numbers
    induction numbers with
    | nil => exact fun start => ⟨le_refl _, fun n hn => absurd hn List.not_mem_nil⟩
    | cons head rest ih =>
      intro start
      obtain ⟨hstart, hrest⟩ := ih (max start head)
      refine ⟨le_trans (le_max_left _ _) hstart, fun n hn => ?_⟩
      rcases List.mem_cons.mp hn with rfl | hn
      · exact le_trans (le_max_right _ _) hstart
      · exact hrest n hn
  exact (hfold _ 0).2 _ (List.mem_map_of_mem h)

theorem pendingEvents_above {checkpoint : Nat} {archived : List String}
    {files : List EventRecord} {record : EventRecord}
    (h : record ∈ pendingEvents checkpoint archived files) : checkpoint < record.sequence := by
  unfold pendingEvents at h
  rw [List.mem_insertionSort] at h
  obtain ⟨file, hfile, rfl⟩ := List.mem_map.mp h
  simpa using (List.mem_filter.mp hfile).2

theorem acknowledgeRecords_clean (world : LiveWorld) {records : List EventRecord}
    (habove : ∀ record ∈ records, world.checkpoint < record.sequence) :
    acknowledgeRecords records (cleanEnv reading) world =
      (.returned (), cleanEnv reading,
        { world with
          checkpoint := if records = [] then world.checkpoint else lastSequence records }) := by
  unfold acknowledgeRecords
  rw [Program.run_bind]
  show (if records = [] then pure () else if _ then _ else _ : LiveProgram Unit)
    (cleanEnv reading) world = _
  by_cases hempty : records = []
  · rw [if_pos hempty, if_pos hempty]
    rfl
  · obtain ⟨record, hmem⟩ := List.exists_mem_of_ne_nil records hempty
    have hlt := habove record hmem
    have hle := le_lastSequence hmem
    rw [if_neg hempty, if_neg hempty, if_neg (by omega)]
    rfl

theorem onOutbox_saving {α : Type} {p : OutboxProgram Payload α}
    {outbox outbox' : OutboxWorld Payload} {saves : List (WriteAnswer Unit)} {value : α}
    (hworld : world.outbox = outbox) (hrun : p {} outbox = (.returned value, {}, outbox')) :
    onOutbox p (savingEnv reading saves) world =
      (.returned value, savingEnv reading saves, { world with outbox := outbox' }) := by
  subst hworld
  rw [onOutbox_run]
  simp only [savingEnv]
  rw [hrun]
  rfl

theorem onOutbox_clean {α : Type} {p : OutboxProgram Payload α} {outbox outbox' : OutboxWorld Payload}
    {value : α} (hworld : world.outbox = outbox)
    (hrun : p {} outbox = (.returned value, {}, outbox')) :
    onOutbox p (cleanEnv reading) world =
      (.returned value, cleanEnv reading, { world with outbox := outbox' }) :=
  onOutbox_saving hworld hrun

theorem drainOutbox_saving {outbox outbox' : OutboxWorld Payload} {sent : Nat}
    {saves : List (WriteAnswer Unit)} (hworld : world.outbox = outbox)
    (hdead : outbox.state.deadLetter = [])
    (hdrain : drain {} outbox = (.returned { sent := sent }, {}, outbox')) :
    drainOutbox (savingEnv reading saves) world =
      (.returned sent, savingEnv reading saves, { world with outbox := outbox' }) := by
  unfold drainOutbox
  rw [Program.run_bind]
  show (if world.outbox.state.deadLetter ≠ [] then pure 0 else _ : LiveProgram Nat)
    (savingEnv reading saves) world = _
  rw [if_neg (by simpa [hworld] using hdead), Program.run_bind, onOutbox_saving hworld hdrain]
  rfl

theorem drainOutbox_clean {outbox outbox' : OutboxWorld Payload} {sent : Nat}
    (hworld : world.outbox = outbox) (hdead : outbox.state.deadLetter = [])
    (hdrain : drain {} outbox = (.returned { sent := sent }, {}, outbox')) :
    drainOutbox (cleanEnv reading) world =
      (.returned sent, cleanEnv reading, { world with outbox := outbox' }) :=
  drainOutbox_saving hworld hdead hdrain

theorem payload_eventId (account : Account) (event : RawEvent) (now : String) :
    eventId (normalizedPayload digest account now event) =
      buildEventId digest account.login event := rfl

theorem Plan.payloads_nonempty (plan : Plan) (reading : BridgeReading) :
    ∀ p ∈ plan.payloads digest reading, eventId p ≠ "" := by
  intro p hp
  obtain ⟨event, -, rfl⟩ := List.mem_map.mp hp
  exact buildEventId_nonempty event

theorem normalizeAll_enriched {events : List RawEvent} (account : Account) (now : String)
    (hvalid : ∀ event ∈ events, validateEventPreflight event = .ok ()) (positions : Excursions) :
    normalizeAll digest account now (enrichCloseEvents sampleMs now positions events).events =
      .ok ((enrichCloseEvents sampleMs now positions events).events.map
        (normalizedPayload digest account now)) := by
  apply mapM_eq_ok
  intro event hmem
  have hbare : event.bare ∈ events.map RawEvent.bare := by
    rw [← enrichCloseEvents_bare sampleMs now positions events]
    exact List.mem_map_of_mem hmem
  obtain ⟨source, hsource, hsame⟩ := List.mem_map.mp hbare
  have hpreflight : validateEventPreflight event = .ok () := by
    rw [← validateEventPreflight_bare, ← hsame, validateEventPreflight_bare]
    exact hvalid source hsource
  unfold normalizeEvent
  rw [hpreflight]
  rfl

theorem commitBatch_clean (hidle : IdleOutbox world.outbox) {records : List EventRecord}
    (habove : ∀ record ∈ records, world.checkpoint < record.sequence) (current : Snapshot)
    (enriched : Enriched) {fresh : List Payload} (hids : ∀ p ∈ fresh, eventId p ≠ "") :
    commitBatch current records enriched fresh (cleanEnv reading) world =
      (.returned (), cleanEnv reading,
        { world with
          excursions := (discardClosed enriched.positions enriched.closed).over world.excursions
          outbox := enqueued world.outbox (appendNew [] fresh)
          checkpoint := if records = [] then world.checkpoint else lastSequence records
          snapshot := current }) := by
  unfold commitBatch
  refine (Program.run_bind_returned (onOutbox_clean rfl (enqueueMany_idle hidle hids))).trans ?_
  refine (Program.run_bind_returned (acknowledgeRecords_clean _ ?_)).trans ?_
  · exact habove
  · refine (Program.run_bind_returned (saveSnapshot_clean _)).trans ?_
    exact saveExcursions_clean _

theorem deliverBatch_clean (hidle : IdleOutbox world.outbox) {records : List EventRecord}
    (habove : ∀ record ∈ records, world.checkpoint < record.sequence) (current : Snapshot)
    (enriched : Enriched) {fresh : List Payload} (hids : ∀ p ∈ fresh, eventId p ≠ "")
    (delivered : Nat) :
    (deliverBatch current records enriched fresh delivered (cleanEnv reading) world).2.2 =
      { world with
        excursions := (discardClosed enriched.positions enriched.closed).over world.excursions
        outbox := passThrough world.outbox (appendNew [] fresh)
        checkpoint := if records = [] then world.checkpoint else lastSequence records
        snapshot := current
        dedup := addIds world.dedup (fresh.map eventId) } := by
  unfold deliverBatch
  rw [Program.run_bind_returned (commitBatch_clean hidle habove current enriched hids)]
  have hdrain := drain_enqueued world.outbox (appendNew [] fresh)
  rw [Program.run_bind_returned (drainOutbox_clean rfl rfl hdrain)]
  rw [Program.run_bind_returned (addDelivered_clean fresh)]
  rfl

theorem processReading_planned {events : List RawEvent} (hprepared : prepareEvents world.snapshot
      reading.snapshot (detectBatch (pollRecords world reading) world.snapshot reading.snapshot) =
        .ok events) (delivered : Nat) :
    processReading digest sampleMs reading world delivered =
      executePlan digest world reading (Plan.of sampleMs world.excursions reading events)
        delivered := by
  unfold processReading
  have hrecords : pendingEvents world.checkpoint world.archivedDeals reading.files =
      pollRecords world reading := rfl
  simp only [hrecords, hprepared]
  rw [normalizeAll_enriched reading.account reading.now (prepareEvents_valid hprepared)]
  rfl

theorem pollRecords_above (world : LiveWorld) (reading : BridgeReading) :
    ∀ record ∈ pollRecords world reading, world.checkpoint < record.sequence :=
  fun _ hmem => pendingEvents_above hmem

theorem freshPayloads_nonempty (plan : Plan) (dedup : List String) :
    ∀ p ∈ freshPayloads dedup (plan.payloads digest reading), eventId p ≠ "" :=
  fun p hp => Plan.payloads_nonempty plan reading p (List.mem_of_mem_filter hp)

theorem planPoll_of_prepared {events : List RawEvent} (hprepared : prepareEvents world.snapshot
      reading.snapshot (detectBatch (pollRecords world reading) world.snapshot reading.snapshot) =
        .ok events) :
    planPoll sampleMs world.excursions world.snapshot (pollRecords world reading) reading =
      .ok (Plan.of sampleMs world.excursions reading events) := by
  unfold planPoll
  rw [hprepared]
  rfl

theorem processReading_stops {error : LiveError} (hprepared : prepareEvents world.snapshot
      reading.snapshot (detectBatch (pollRecords world reading) world.snapshot reading.snapshot) =
        .error error) (delivered : Nat) :
    processReading digest sampleMs reading world delivered = Program.raise error := by
  unfold processReading
  have hrecords : pendingEvents world.checkpoint world.archivedDeals reading.files =
      pollRecords world reading := rfl
  simp only [hrecords, hprepared]

theorem planPoll_of_error {error : LiveError} (hprepared : prepareEvents world.snapshot
      reading.snapshot (detectBatch (pollRecords world reading) world.snapshot reading.snapshot) =
        .error error) :
    planPoll sampleMs world.excursions world.snapshot (pollRecords world reading) reading =
      .error error := by
  unfold planPoll
  rw [hprepared]
  rfl

theorem processReading_clean (hidle : IdleOutbox world.outbox) (delivered : Nat) :
    (processReading digest sampleMs reading world delivered (cleanEnv reading) world).2.2 =
      cleanPoll digest sampleMs world reading := by
  unfold cleanPoll
  cases hprepared : prepareEvents world.snapshot reading.snapshot
      (detectBatch (pollRecords world reading) world.snapshot reading.snapshot) with
  | error error =>
    rw [processReading_stops hprepared, planPoll_of_error hprepared]
    rfl
  | ok events =>
    rw [processReading_planned hprepared, planPoll_of_prepared hprepared]
    unfold executePlan
    rw [Program.run_bind_returned (saveExcursions_clean _)]
    rw [Program.run_bind_returned (saveExcursions_clean _)]
    refine deliverBatch_clean ?_ ?_ reading.snapshot _ (freshPayloads_nonempty _ _) delivered
    · exact hidle
    · exact pollRecords_above world reading

/-- A poll on an idle outbox goes straight to its reading. -/
theorem pollOnce_idle (hidle : IdleOutbox world.outbox) (saves : List (WriteAnswer Unit)) :
    pollOnce digest sampleMs (savingEnv reading saves) world =
      processReading digest sampleMs reading world 0 (savingEnv reading saves) world := by
  have hdead : world.outbox.state.deadLetter = [] := by
    rw [hidle.state]
    rfl
  unfold pollOnce
  rw [Program.run_bind_returned (onOutbox_saving rfl (reload_idle hidle {}))]
  rw [Program.run_bind_returned (drainOutbox_saving rfl hdead (drain_idle hidle))]
  rw [Program.run_bind]
  show (if world.outbox.state.deadLetter ≠ [] then pure 0 else _ : LiveProgram Nat)
    (savingEnv reading saves) world = _
  rw [if_neg (by simpa using hdead)]
  rfl

/-- Without faults a poll on an idle outbox does what `cleanPoll` says. -/
theorem pollOnce_clean (hidle : IdleOutbox world.outbox) :
    (pollOnce digest sampleMs (cleanEnv reading) world).2.2 =
      cleanPoll digest sampleMs world reading := by
  have hstart : pollOnce digest sampleMs (cleanEnv reading) world =
      processReading digest sampleMs reading world 0 (cleanEnv reading) world :=
    pollOnce_idle hidle []
  rw [hstart]
  exact processReading_clean hidle 0

end CleanRuns

end TradeJournalWorker
