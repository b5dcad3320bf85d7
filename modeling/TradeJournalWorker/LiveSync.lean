import TradeJournalWorker.EventStream
import TradeJournalWorker.ExcursionTracker
import TradeJournalWorker.OutboxOperations

namespace TradeJournalWorker

open FaultProgram

inductive LiveError where
  | delivery
  | preflight (error : PreflightError)
  | outbox (error : OutboxError)
  | adapter
  | checkpointRegression
  | disk
  deriving DecidableEq, Repr

/-- What the bridge adapter reads during one poll: the identity, the rows of one coherent
bundle and the event files that are there a moment later. -/
structure BridgeReading where
  account : Account
  positions : List PositionRow := []
  orders : List OrderRow := []
  deals : List DealRow := []
  files : List EventRecord := []
  now : String := ""

/-- `_positions_by_stable_id`. -/
def positionsByStableId (rows : List PositionRow) : OrderedDict String PositionRow :=
  rows.foldl (fun result row =>
    match pyOr row.positionId row.ticket with
    | some key => result.set key row
    | none => result) ∅

/-- `_dedupe`; a row without the field is left out. -/
def dedupe {ρ : Type} (field : ρ → Option String) (rows : List ρ) : OrderedDict String ρ :=
  rows.foldl (fun result row =>
    match field row with
    | some key => if key = "" then result else result.set key row
    | none => result) ∅

def BridgeReading.snapshot (reading : BridgeReading) : Snapshot :=
  { positions := positionsByStableId reading.positions
    orders := dedupe OrderRow.ticket reading.orders
    deals := dedupe DealRow.ticket reading.deals }

/-- The durable state of one connection. -/
structure LiveWorld where
  excursions : Excursions := ∅
  outbox : OutboxWorld Payload := ⟨emptyState, none, [], []⟩
  checkpoint : Nat := 0
  snapshot : Snapshot := {}
  dedup : List String := []
  archivedDeals : List String := []

structure LiveEnv where
  reading : Exit LiveError BridgeReading
  outbox : OutboxEnv := {}
  saves : List (WriteAnswer Unit) := []

def LiveEnv.nextSave (env : LiveEnv) : WriteAnswer LiveError × LiveEnv :=
  let (answer, rest) := nextAnswer .done env.saves
  (answer.mapError fun _ => .disk, { env with saves := rest })

abbrev LiveProgram (α : Type) := Program LiveEnv LiveWorld LiveError α

/-- A program of the outbox inside the poll. -/
def onOutbox {α : Type} (p : OutboxProgram Payload α) : LiveProgram α :=
  Program.zoom LiveEnv.outbox (fun outbox env => { env with outbox := outbox })
    LiveWorld.outbox (fun outbox world => { world with outbox := outbox }) .outbox p

/-- The records above the checkpoint in order; a deal of the history archive is marked. -/
def pendingEvents (checkpoint : Nat) (archivedDeals : List String) (files : List EventRecord) :
    List EventRecord :=
  ((files.filter (checkpoint < ·.sequence)).map fun record =>
    { record with
      historyArchived := record.eventType = .dealAdd ∧ pyStr record.deal ∈ archivedDeals }).insertionSort
    fun a b => a.sequence ≤ b.sequence

def deliveryIncomplete (result : DrainResult) : Bool :=
  result.pending ≠ 0 ∨ result.deadLettered ≠ 0 ∨ result.dryRun ≠ 0

/-- `_drain_outbox`: a dead letter is a barrier, anything left behind an error. -/
def drainOutbox : LiveProgram Nat := do
  let world ← Program.getWorld
  if world.outbox.state.deadLetter ≠ [] then return 0
  else do
    let result ← onOutbox drain
    if deliveryIncomplete result then Program.raise .delivery else return result.sent

def detectBatch (records : List EventRecord) (previous current : Snapshot) : List RawEvent :=
  if records ≠ [] then mergeEventStreamWithSnapshot records previous current
  else detectWindowsEvents previous current

/-- An opening needs a symbol that is bound to it and has to pass the preflight. -/
def withAuthoritativeSymbol (previous current : Snapshot) (event : RawEvent) :
    Except LiveError RawEvent :=
  if event.eventType ≠ .tradeOpened then .ok event
  else
    match authoritativeSymbol event.symbolQuery previous current with
    | none => .error .delivery
    | some symbol =>
      let resolved := { event with symbol := some symbol }
      match validateEventPreflight resolved with
      | .ok _ => .ok resolved
      | .error _ => .error .delivery

def prepareEvents (previous current : Snapshot) (events : List RawEvent) :
    Except LiveError (List RawEvent) :=
  events.mapM (withAuthoritativeSymbol previous current)

def normalizeAll (digest : Fingerprint → String) (account : Account) (now : String)
    (events : List RawEvent) : Except LiveError (List Payload) :=
  events.mapM fun event => (normalizeEvent digest account now event).mapError .preflight

def saveExcursions (observed : Observed) : LiveProgram Unit :=
  if observed.changed then
    Program.write LiveEnv.nextSave fun world => { world with excursions := observed.positions }
  else pure ()

def lastSequence (records : List EventRecord) : Nat := (records.map (·.sequence)).foldl max 0

/-- `acknowledge_events` up to the last record of the batch. -/
def acknowledgeRecords (records : List EventRecord) : LiveProgram Unit := do
  let world ← Program.getWorld
  if records = [] then pure ()
  else if lastSequence records < world.checkpoint then Program.raise .checkpointRegression
  else
    Program.write LiveEnv.nextSave fun world =>
      { world with checkpoint := lastSequence records }

def saveSnapshot (current : Snapshot) : LiveProgram Unit :=
  Program.write LiveEnv.nextSave fun world => { world with snapshot := current }

/-- `dedup.add` of every payload of the batch, one commit each. -/
def addDelivered : List Payload → LiveProgram Unit
  | [] => pure ()
  | payload :: rest => do
    Program.write LiveEnv.nextSave fun world =>
      { world with dedup :=
          if payload.eventId ∈ world.dedup then world.dedup else world.dedup ++ [payload.eventId] }
    addDelivered rest

/-- The writes of a poll from the outbox to the tracker without the closed positions. -/
def commitBatch (current : Snapshot) (records : List EventRecord) (enriched : Enriched)
    (fresh : List Payload) : LiveProgram Unit := do
  let _ ← onOutbox (enqueueMany fresh)
  acknowledgeRecords records
  saveSnapshot current
  saveExcursions (discardClosed enriched.positions enriched.closed)

/-- The end of a poll: the writes, the delivery and the marks of what was delivered. -/
def deliverBatch (current : Snapshot) (records : List EventRecord) (enriched : Enriched)
    (fresh : List Payload) (delivered : Nat) : LiveProgram Nat := do
  commitBatch current records enriched fresh
  let more ← drainOutbox
  addDelivered fresh
  return delivered + more

variable (digest : Fingerprint → String) (sampleMs : Nat)

/-- `poll_once` after the reading; `start` is what the stores hold when it begins. -/
def processReading (reading : BridgeReading) (start : LiveWorld) (delivered : Nat) :
    LiveProgram Nat := do
  let records := pendingEvents start.checkpoint start.archivedDeals reading.files
  let detected := detectBatch records start.snapshot reading.snapshot
  match prepareEvents start.snapshot reading.snapshot detected with
  | .error error => Program.raise error
  | .ok events =>
    let opened := observeOpenEvents start.excursions events
    let observed := observeSnapshot opened.positions reading.snapshot reading.now
    let enriched := enrichCloseEvents sampleMs reading.now observed.positions events
    saveExcursions opened
    saveExcursions observed
    match normalizeAll digest reading.account reading.now enriched.events with
    | .error error => Program.raise error
    | .ok payloads =>
      let fresh := payloads.filter (·.eventId ∉ start.dedup)
      deliverBatch reading.snapshot records enriched fresh delivered

/-- `poll_once` of a `LiveSync` that has just been built on the files. -/
def pollOnce : LiveProgram Nat := do
  onOutbox reload
  let delivered ← drainOutbox
  let world ← Program.getWorld
  if world.outbox.state.deadLetter ≠ [] then return delivered
  else do
    let reading ← Program.perform fun env : LiveEnv => (env.reading, env)
    processReading digest sampleMs reading world delivered

end TradeJournalWorker
