import TradeJournalWorker.LivePolls

namespace TradeJournalWorker

open FaultProgram

/-- The write took effect, whatever it reported. -/
def tookEffect {ε : Type} : WriteAnswer ε → Bool
  | .done => true
  | .failedLate _ => true
  | .failed _ => false
  | .crash => false

/-- One use of the tracker. `saved` says whether the call wrote the tracker's file, and
`enriched` what the closing events became. -/
inductive TrackerCall where
  | opens (events : List RawEvent) (saved : Bool)
  | rows (snapshot : Snapshot) (now : String) (saved : Bool)
  | closes (events : List RawEvent) (now : String) (enriched : List RawEvent)
  | discards (tickets : List String) (saved : Bool)
  | restart
  deriving DecidableEq

/-- The agent process of one connection: its stores, the positions its tracker holds in memory,
and, for the proofs only, the calls on the tracker so far. -/
structure TrackedWorld where
  live : LiveWorld
  memory : Excursions
  calls : List TrackerCall := []

abbrev TrackedProgram (α : Type) := Program LiveEnv TrackedWorld LiveError α

def onLive {α : Type} (p : LiveProgram α) : TrackedProgram α :=
  Program.zoom id (fun env _ => env) TrackedWorld.live
    (fun live world => { world with live := live }) id p

/-- A method of the tracker that ends with `_persist` if it changed anything; what it holds in
memory has changed also when the save fails. -/
def trackerMethod (method : Excursions → Observed) (call : Bool → TrackerCall) :
    TrackedProgram Unit := do
  let world ← Program.getWorld
  let env ← Program.getEnv
  let observed := method world.memory
  let saved := observed.changed && tookEffect env.nextSave.1
  Program.modifyWorld fun world =>
    { world with memory := observed.positions, calls := world.calls ++ [call saved] }
  onLive (saveExcursions observed)

def trackOpens (events : List RawEvent) : TrackedProgram Unit :=
  trackerMethod (fun memory => observeOpenEvents memory events) (.opens events)

def trackRows (snapshot : Snapshot) (now : String) : TrackedProgram Unit :=
  trackerMethod (fun memory => observeSnapshot memory snapshot now) (.rows snapshot now)

/-- `enrich_close_events` changes the memory of the tracker and saves nothing. -/
def trackCloses (sampleMs : Nat) (events : List RawEvent) (now : String) :
    TrackedProgram Enriched := do
  let world ← Program.getWorld
  let enriched := enrichCloseEvents sampleMs now world.memory events
  Program.modifyWorld fun world =>
    { world with
      memory := enriched.positions
      calls := world.calls ++ [.closes events now enriched.events] }
  return enriched

def trackDiscard (tickets : List String) : TrackedProgram Unit :=
  trackerMethod (fun memory => discardClosed memory tickets) (.discards tickets)

/-- The writes of a batch before its closed positions are discarded. -/
def storeBatch (current : Snapshot) (records : List EventRecord) (fresh : List Payload) :
    LiveProgram Unit := do
  let _ ← onOutbox (enqueueMany fresh)
  acknowledgeRecords records
  saveSnapshot current

def finishBatch (fresh : List Payload) (delivered : Nat) : LiveProgram Nat := do
  let more ← drainOutbox
  addDelivered fresh
  return delivered + more

variable (digest : Fingerprint → String) (sampleMs : Nat)

/-- `poll_once` of a running agent after the reading. -/
def trackReading (reading : BridgeReading) (start : LiveWorld) (delivered : Nat) :
    TrackedProgram Nat := do
  let records := pendingEvents start.checkpoint start.archivedDeals reading.files
  let detected := detectBatch records start.snapshot reading.snapshot
  match prepareEvents start.snapshot reading.snapshot detected with
  | .error error => Program.raise error
  | .ok events => do
    trackOpens events
    trackRows reading.snapshot reading.now
    let enriched ← trackCloses sampleMs events reading.now
    match normalizeAll digest reading.account reading.now enriched.events with
    | .error error => Program.raise error
    | .ok payloads => do
      let fresh := payloads.filter (·.eventId ∉ start.dedup)
      onLive (storeBatch reading.snapshot records fresh)
      trackDiscard enriched.closed
      onLive (finishBatch fresh delivered)

/-- `poll_once` of a running agent. -/
def trackedPoll : TrackedProgram Nat := do
  let delivered ← onLive drainOutbox
  let world ← Program.getWorld
  if world.live.outbox.state.deadLetter ≠ [] then return delivered
  else do
    let reading ← Program.perform fun env : LiveEnv => (env.reading, env)
    trackReading digest sampleMs reading world.live delivered

/-- A new process: the outbox and the tracker are loaded from their files. -/
def TrackedWorld.restarted (world : TrackedWorld) (env : LiveEnv) : TrackedWorld :=
  { live := (onOutbox reload env world.live).2.2, memory := world.live.excursions
    calls := world.calls ++ [.restart] }

/-- What happens next to the agent: it polls, or it is started anew. -/
inductive Turn where
  | poll (env : LiveEnv)
  | restart (env : LiveEnv)

/-- A poll that returns or raises leaves the process running, one that crashes does not. -/
def takeTurn (world : TrackedWorld) : Turn → TrackedWorld
  | .restart env => world.restarted env
  | .poll env =>
    match trackedPoll digest sampleMs env world with
    | (.crashed, env', after) => after.restarted env'
    | (_, _, after) => after

/-- A run from the stores on, with a process that has just been started. -/
def runTurns (start : LiveWorld) (turns : List Turn) : TrackedWorld :=
  turns.foldl (takeTurn digest sampleMs) { live := start, memory := start.excursions }

end TradeJournalWorker
