import Mathlib.Algebra.Order.Ring.Rat
import TradeJournalWorker.CursorText
import TradeJournalWorker.FaultProgram

namespace TradeJournalWorker

open FaultProgram

/-- What becomes of one `WriteJsonAtomic`. `short` is a write cut off that nobody
notices: the truncated file is renamed and success reported. -/
inductive FileAnswer where
  | done
  | short (written : Nat)
  | failed
  | failedLate
  | crash
  deriving DecidableEq, Repr

inductive BundleFile where
  | account
  | positions
  | orders
  | historyOrders
  | deals
  | candles (timeframe : Nat)
  | heartbeat
  deriving DecidableEq, Repr

inductive PublishedFile where
  | event
  | bundle (file : BundleFile)
  deriving DecidableEq, Repr

/-- A file the agent can see: its sequence, the agent's checkpoint at that moment and the
ticket of a deal event. -/
structure Publication where
  file : PublishedFile
  sequence : Int
  checkpoint : Int
  deal : Option Nat := none
  deriving DecidableEq, Repr

/-- What the history cache says about a deal; the two other symbols come from the
order and from the open position of the deal. -/
structure DealView where
  isTrade : Bool
  symbol : String
  orderSymbol : String := ""
  positionSymbol : String := ""
  volume : Rat
  deriving DecidableEq, Repr

/-- `cursorFile`, `log` and `checkpoint` outlive the terminal; the others are the
globals of the Expert Advisor. -/
structure BridgeWorld where
  cursorFile : Option (List Char) := none
  log : List Publication := []
  checkpoint : Int := 0
  running : Bool := false
  eventSeq : Int := 0
  backfillDone : Bool := false
  historySnapshotWritten : Bool := false
  historySnapshotSequence : Int := 0
  newOnly : Bool := false
  pendingDeals : List (Nat × Nat) := []
  deriving DecidableEq

/-- The terminal and the file system during one handler. -/
structure BridgeEnv where
  cursorWrites : List FileAnswer := []
  publishes : List FileAnswer := []
  deals : List (Option DealView) := []
  cursorReadable : Bool := true
  newOnlyFlag : Bool := false
  chartsClosed : Bool := true
  timerSet : Bool := true
  graceOver : Bool := true
  selectable : Bool := true
  ledgerCoherent : Bool := true
  ledgerUnchanged : Bool := true
  queueRoom : Bool := true

namespace BridgeEnv

def nextCursorWrite (env : BridgeEnv) : FileAnswer × BridgeEnv :=
  let (answer, rest) := nextAnswer .done env.cursorWrites
  (answer, { env with cursorWrites := rest })

def nextPublish (env : BridgeEnv) : FileAnswer × BridgeEnv :=
  let (answer, rest) := nextAnswer .done env.publishes
  (answer, { env with publishes := rest })

def nextDeal (env : BridgeEnv) : Option DealView × BridgeEnv :=
  let (answer, rest) := nextAnswer none env.deals
  (answer, { env with deals := rest })

end BridgeEnv

abbrev BridgeProgram (α : Type) := Program BridgeEnv BridgeWorld Empty α

/-- `WriteJsonAtomic`: `store` is the effect of the rename on the text written. -/
def writeJsonAtomic (next : BridgeEnv → FileAnswer × BridgeEnv) (text : List Char)
    (store : List Char → BridgeWorld → BridgeWorld) : BridgeProgram Bool := do
  match ← Program.consult next with
  | .done =>
    Program.modifyWorld (store text)
    return true
  | .short written =>
    Program.modifyWorld (store (text.take written))
    return true
  | .failed => return false
  | .failedLate =>
    Program.modifyWorld (store text)
    return false
  | .crash => Program.crash

def saveCursorState : BridgeProgram Bool := do
  let world ← Program.getWorld
  writeJsonAtomic BridgeEnv.nextCursorWrite (cursorText world.eventSeq world.backfillDone)
    fun text world => { world with cursorFile := some text }

/-- `LoadCursorState`; the flag is the success of `FileOpen`. -/
def loadCursorState : BridgeProgram Unit := do
  let env ← Program.getEnv
  Program.modifyWorld fun world =>
    match world.cursorFile with
    | none => world
    | some content =>
      if env.cursorReadable then
        { world with
          eventSeq := extractJsonLong content eventSeqKey 0
          backfillDone := extractJsonBool content backfillDoneKey false }
      else world

/-- One file with the envelope of `sequence`; its text is not looked at again. -/
def publish (file : PublishedFile) (sequence : Int) (deal : Option Nat) : BridgeProgram Bool :=
  writeJsonAtomic BridgeEnv.nextPublish [] fun _ world =>
    { world with
      log := world.log ++
        [{ file := file, sequence := sequence, checkpoint := world.checkpoint, deal := deal }] }

/-- `BuildEventJson` as far as the sequence goes: reserve it on disk or give it back. -/
def buildEventJson : BridgeProgram Bool := do
  Program.modifyWorld fun world => { world with eventSeq := world.eventSeq + 1 }
  if ← saveCursorState then return true
  else
    Program.modifyWorld fun world => { world with eventSeq := world.eventSeq - 1 }
    return false

/-- `WriteEventAtomic` on the payload `BuildEventJson` returned. -/
def writeEventAtomic (reserved : Bool) (deal : Option Nat) : BridgeProgram Bool := do
  if reserved then
    let world ← Program.getWorld
    publish .event world.eventSeq deal
  else return false

def emitEvent (deal : Option Nat) : BridgeProgram Bool := do
  let reserved ← buildEventJson
  writeEventAtomic reserved deal

/-- The symbol of the deal, of its order or of its position, whichever is there first. -/
def DealView.resolvedSymbol (deal : DealView) : String :=
  if deal.symbol ≠ "" then deal.symbol
  else if deal.orderSymbol ≠ "" then deal.orderSymbol
  else deal.positionSymbol

def emitDealAddEvent (ticket : Nat) : BridgeProgram Bool := do
  match ← Program.consult BridgeEnv.nextDeal with
  | none => return false
  | some deal =>
    if ¬deal.isTrade then return true
    else if deal.resolvedSymbol = "" then return false
    else if deal.volume ≤ 0 then return false
    else emitEvent (some ticket)

def maxPendingDealEvents : Nat := 256

def queuePendingDealEvent (ticket : Nat) : BridgeProgram Bool := do
  let env ← Program.getEnv
  let world ← Program.getWorld
  if ticket = 0 then return false
  else if ticket ∈ world.pendingDeals.map Prod.fst then return true
  else if maxPendingDealEvents ≤ world.pendingDeals.length then return false
  else if ¬env.queueRoom then return false
  else
    Program.modifyWorld fun world =>
      { world with pendingDeals := world.pendingDeals ++ [(ticket, 0)] }
    return true

/-- The loop of `RetryPendingDealEvents`, from the last index to the first. -/
def retryPendingFrom : Nat → BridgeProgram Unit
  | 0 => pure ()
  | i + 1 => do
    let world ← Program.getWorld
    match world.pendingDeals[i]? with
    | none => retryPendingFrom i
    | some (ticket, attempts) =>
      Program.modifyWorld fun world =>
        { world with pendingDeals := world.pendingDeals.set i (ticket, attempts + 1) }
      let published ← emitDealAddEvent ticket
      Program.modifyWorld fun world =>
        if published then { world with pendingDeals := world.pendingDeals.eraseIdx i } else world
      retryPendingFrom i

def retryPendingDealEvents : BridgeProgram Unit := do
  let world ← Program.getWorld
  retryPendingFrom world.pendingDeals.length

/-- `EmitOrderEvent`, `EmitPositionEvent` and `EmitHistoryOrderEvent`: nothing happens
when the ticket cannot be selected any more. -/
def emitSelectedEvent : BridgeProgram Unit := do
  let env ← Program.getEnv
  if env.selectable then
    let _ ← emitEvent none
    return ()
  else return ()

/-- Every file is tried, also after a failure. -/
def publishFiles (sequence : Int) : List BundleFile → BridgeProgram Bool
  | [] => return true
  | file :: rest => do
    let ok ← publish (.bundle file) sequence none
    let others ← publishFiles sequence rest
    return ok && others

def newOnlyFiles : List BundleFile := [.account, .positions, .orders, .historyOrders, .deals]

def historyFiles : List BundleFile :=
  [.deals, .historyOrders, .account, .positions, .orders] ++ (List.range 6).map .candles

/-- The last file of a bundle commits it; a certified history freezes its sequence. -/
def commitHistory (sequence : Int) : BridgeProgram Unit := do
  let committed ← publish (.bundle .heartbeat) sequence none
  Program.modifyWorld fun world =>
    if committed then
      { world with historySnapshotSequence := sequence, historySnapshotWritten := true }
    else world

def writeNewOnlySnapshot (sequence : Int) : BridgeProgram Unit := do
  let snapshotOk ← publishFiles sequence newOnlyFiles
  if snapshotOk then
    let _ ← publish (.bundle .heartbeat) sequence none
    return ()
  else return ()

def writeHistorySnapshot (sequence : Int) : BridgeProgram Unit := do
  let env ← Program.getEnv
  if ¬env.ledgerCoherent then return ()
  else
    let snapshotOk ← publishFiles sequence historyFiles
    if snapshotOk && env.ledgerUnchanged then commitHistory sequence else return ()

def writeAllSnapshots : BridgeProgram Unit := do
  let world ← Program.getWorld
  if ¬world.newOnly ∧ world.historySnapshotWritten then
    let _ ← publish (.bundle .heartbeat) world.historySnapshotSequence none
    return ()
  else
    -- The number is taken without a reservation on disk.
    Program.modifyWorld fun world => { world with eventSeq := world.eventSeq + 1 }
    if world.newOnly then writeNewOnlySnapshot (world.eventSeq + 1)
    else writeHistorySnapshot (world.eventSeq + 1)

def initBackfill : BridgeProgram Unit := do
  let world ← Program.getWorld
  if ¬world.newOnly ∧ ¬world.backfillDone then
    Program.modifyWorld fun world => { world with backfillDone := true }
    let _ ← saveCursorState
    return ()
  else return ()

/-- `OnInit`; the result is `INIT_SUCCEEDED`. -/
def onInit : BridgeProgram Bool := do
  let env ← Program.getEnv
  if ¬env.chartsClosed then return false
  else
    Program.modifyWorld fun world => { world with newOnly := env.newOnlyFlag }
    loadCursorState
    initBackfill
    if ¬env.newOnlyFlag then writeAllSnapshots else pure ()
    return env.timerSet

def onDeinit : BridgeProgram Unit := do
  let _ ← saveCursorState
  return ()

/-- The passage from history to live at the beginning of `OnTimer`. -/
def switchMode : BridgeProgram Unit := do
  let env ← Program.getEnv
  Program.modifyWorld fun world =>
    if ¬world.newOnly ∧ env.newOnlyFlag then
      { world with newOnly := true, historySnapshotWritten := false }
    else world

def onTimer : BridgeProgram Unit := do
  switchMode
  let env ← Program.getEnv
  let world ← Program.getWorld
  if world.newOnly ∧ ¬env.graceOver then return ()
  else
    retryPendingDealEvents
    writeAllSnapshots
    let _ ← saveCursorState
    return ()

inductive Transaction where
  | dealAdd (ticket : Nat)
  | orderAdd
  | orderUpdate
  | orderDelete
  | position
  | historyAdd
  | other
  deriving DecidableEq, Repr

def onTradeTransaction (transaction : Transaction) : BridgeProgram Unit := do
  match transaction with
  | .dealAdd ticket =>
    let published ← emitDealAddEvent ticket
    if published then return ()
    else
      let _ ← queuePendingDealEvent ticket
      return ()
  | .other => return ()
  | _ => emitSelectedEvent

/-- A new process: the globals have their initial values. The terminal calls
`OnDeinit` when the initialisation failed. -/
def startTerminal : BridgeProgram Unit := do
  Program.modifyWorld fun world =>
    { cursorFile := world.cursorFile, log := world.log, checkpoint := world.checkpoint }
  let succeeded ← onInit
  if succeeded then Program.modifyWorld fun world => { world with running := true }
  else onDeinit

/-- `acknowledge_events` of the agent on a sequence it has seen; a smaller one is refused. -/
def acknowledgeEvents (world : BridgeWorld) (through : Int) : BridgeWorld :=
  if (∃ p ∈ world.log, p.sequence = through) ∧ 0 ≤ through ∧ world.checkpoint ≤ through then
    { world with checkpoint := through }
  else world

inductive BridgeStep where
  | start (env : BridgeEnv)
  | timer (env : BridgeEnv)
  | transaction (transaction : Transaction) (env : BridgeEnv)
  | stop (env : BridgeEnv)
  | crash
  | acknowledge (sequence : Int)

/-- A handler runs in a running terminal only; a crash inside it ends the process. -/
def runHandler (handler : BridgeProgram Unit) (env : BridgeEnv) (world : BridgeWorld) :
    BridgeWorld :=
  match handler env world with
  | (.crashed, _, world') => { world' with running := false }
  | (_, _, world') => world'

def runBridgeStep (world : BridgeWorld) : BridgeStep → BridgeWorld
  | .start env => runHandler startTerminal env { world with running := false }
  | .timer env => if world.running then runHandler onTimer env world else world
  | .transaction transaction env =>
    if world.running then runHandler (onTradeTransaction transaction) env world else world
  | .stop env =>
    if world.running then { runHandler onDeinit env world with running := false } else world
  | .crash => { world with running := false }
  | .acknowledge sequence => acknowledgeEvents world sequence

def runBridge (world : BridgeWorld) (steps : List BridgeStep) : BridgeWorld :=
  steps.foldl runBridgeStep world

end TradeJournalWorker
