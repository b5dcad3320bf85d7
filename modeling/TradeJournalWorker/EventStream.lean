import TradeJournalWorker.AuthoritativeSymbol
import TradeJournalWorker.EventDetector

namespace TradeJournalWorker

/-- `position_id or position_ticket` of a record. -/
def EventRecord.position (record : EventRecord) : Option String :=
  pyOr record.positionId record.positionTicket

def EventRecord.eventTicket (record : EventRecord) : String :=
  pyStr (pyOr record.position (pyOr record.orderId (some record.ticket)))

/-- `deal_id or ticket` of a record. -/
def EventRecord.deal (record : EventRecord) : Option String := pyOr record.dealId (some record.ticket)

/-- `base`, before its event type is known. -/
def baseEvent (record : EventRecord) (eventType : EventType) : RawEvent :=
  { eventType := eventType, ticket := record.eventTicket, symbol := record.symbol
    direction := record.direction, volume := record.volume, eventTime := record.time
    balance := record.balance, equity := record.equity, currency := record.currency
    leverage := record.leverage }

/-- `deal_base` with the economics that every deal event carries. -/
def dealEvent (record : EventRecord) (eventType : EventType) : RawEvent :=
  { baseEvent record eventType with
    nativeDealTicket := record.deal
    timeMsc := record.timestampMsc.orElse fun _ => record.timeMsc
    timeBasis := some "broker_server_unresolved"
    profit := record.profit, commission := record.commission, swap := record.swap }

def closingDealEvent (record : EventRecord) (eventType : EventType) : RawEvent :=
  { dealEvent record eventType with closePrice := record.price, closeTime := record.time }

/-- The `DEAL_ADD` branch of `_mql5_file_event`. -/
def dealAddEvent (record : EventRecord) (previous current : Option PositionRow) : RawEvent :=
  match record.entry with
  | some .in =>
    match previous, current with
    | some old, some new =>
      { dealEvent record .tradeVolumeChanged with
        volume := new.volume, previousVolume := old.volume, openPrice := new.openPrice
        partialClose := some false }
    | _, _ =>
      { dealEvent record .tradeOpened with
        openPrice := record.price, openTime := record.time
        balanceBeforeOpen := record.balanceBeforeOpen }
  | some .out | some .outBy =>
    if current.isSome then closingDealEvent record .tradePartialClosed
    else closingDealEvent record .tradeClosed
  | _ => closingDealEvent record .dealRecorded

/-- The `POSITION` branch, for a position that is still there. -/
def positionEvent (record : EventRecord) (previous : Option PositionRow) (new : PositionRow) :
    RawEvent :=
  let modified : RawEvent :=
    { baseEvent record .tradeModified with
      volume := new.volume, stopLoss := new.stopLoss, takeProfit := new.takeProfit
      previousStopLoss := previous.bind PositionRow.stopLoss
      previousTakeProfit := previous.bind PositionRow.takeProfit }
  match previous with
  | none => modified
  | some old =>
    if old.volume ≠ new.volume then
      { baseEvent record .tradeVolumeChanged with
        volume := new.volume, previousVolume := old.volume
        partialClose := some (orZero new.volume < orZero old.volume) }
    else modified

/-- The economics of a record of any other type. -/
def recordedEvent (record : EventRecord) : RawEvent :=
  { baseEvent record .dealRecorded with
    closePrice := record.price, profit := record.profit, commission := record.commission
    swap := record.swap, closeTime := record.time }

/-- `_mql5_file_event`, which reads nothing but the positions of the two snapshots. -/
def mql5FileEvent (record : EventRecord) (previous current : OrderedDict String PositionRow) :
    RawEvent :=
  let old := previous.get? record.eventTicket
  let new := current.get? record.eventTicket
  match record.eventType with
  | .dealAdd => dealAddEvent record old new
  | .position =>
    match new with
    | some new => positionEvent record old new
    | none => recordedEvent record
  | .orderAdd =>
    { baseEvent record .pendingOrderCreated with
      price := record.price, stopLoss := record.stopLoss, takeProfit := record.takeProfit }
  | .orderUpdate =>
    { baseEvent record .pendingOrderModified with
      price := record.price, stopLoss := record.stopLoss, takeProfit := record.takeProfit }
  | .orderDelete | .historyAdd =>
    { baseEvent record .pendingOrderCancelled with price := record.price }
  | .other => recordedEvent record

/-- `tracked_volumes` and `tracked_open_prices`. -/
structure Tracked where
  volumes : OrderedDict String Rat := ∅
  openPrices : OrderedDict String Rat := ∅
  deriving DecidableEq

def Tracked.setPrice (tracked : Tracked) (key : String) (price : Option Rat) : Tracked :=
  match price with
  | some price => { tracked with openPrices := tracked.openPrices.set key price }
  | none => tracked

/-- The tracked state before the batch; a position without a volume is left out. -/
def trackedFrom (previous : Snapshot) : Tracked :=
  previous.positions.entries.foldl (fun tracked (ticket, position) =>
    match position.volume with
    | some volume =>
      { tracked with volumes := tracked.volumes.set ticket volume }.setPrice ticket
        position.openPrice
    | none => tracked) {}

def Tracked.row (volume : Rat) (openPrice : Option Rat) : PositionRow :=
  { volume := some volume, openPrice := openPrice }

def singleRow (key : String) (row : PositionRow) : OrderedDict String PositionRow :=
  (∅ : OrderedDict String PositionRow).set key row

/-- What one record makes of the tracked state, and the positions its event is built from. -/
structure Replayed where
  tracked : Tracked
  previous : OrderedDict String PositionRow
  current : OrderedDict String PositionRow

/-- The average price after a fill of `fillVolume` at `fillPrice`. -/
def averagePrice (priorVolume priorPrice : Option Rat) (fillVolume : Rat) (fillPrice : Option Rat)
    (remaining : Rat) : Option Rat :=
  match priorVolume, priorPrice, fillPrice with
  | some volume, some price, some fill =>
    if 0 < volume then some ((volume * price + fillVolume * fill) / remaining) else some fill
  | _, _, _ => fillPrice

def replayIn (tracked : Tracked) (record : EventRecord) (key : String) (fillVolume : Rat) :
    Replayed :=
  let priorVolume := tracked.volumes.get? key
  let priorPrice := tracked.openPrices.get? key
  let remaining := priorVolume.getD 0 + fillVolume
  let average := averagePrice priorVolume priorPrice fillVolume record.price remaining
  { tracked := { tracked with volumes := tracked.volumes.set key remaining }.setPrice key average
    previous := match priorVolume with
      | some volume => singleRow key (Tracked.row volume priorPrice)
      | none => ∅
    current := singleRow key (Tracked.row remaining average) }

/-- `1e-8`. -/
def closeTolerance : Rat := 1 / 100000000

def replayOut (tracked : Tracked) (key : String) (fillVolume priorVolume : Rat) : Replayed :=
  let priorPrice := tracked.openPrices.get? key
  let remaining := priorVolume - fillVolume
  { tracked :=
      if closeTolerance < remaining then
        { tracked with volumes := tracked.volumes.set key remaining }
      else { volumes := tracked.volumes.erase key, openPrices := tracked.openPrices.erase key }
    previous := singleRow key (Tracked.row priorVolume priorPrice)
    current :=
      if closeTolerance < remaining then singleRow key (Tracked.row remaining priorPrice) else ∅ }

/-- The `DEAL_ADD` part of the loop: a fill of a known position moves its tracked state. -/
def replayRecord (previous current : Snapshot) (tracked : Tracked) (record : EventRecord) :
    Replayed :=
  let unchanged : Replayed := ⟨tracked, previous.positions, current.positions⟩
  let key := record.position.getD ""
  let fillVolume := orZero record.volume
  if record.eventType = .dealAdd ∧ key ≠ "" ∧ 0 < fillVolume then
    match record.entry with
    | some .in => replayIn tracked record key fillVolume
    | some .out | some .outBy =>
      match tracked.volumes.get? key with
      | some priorVolume => replayOut tracked key fillVolume priorVolume
      | none => unchanged
    | _ => unchanged
  else unchanged

/-- A record whose symbol is unusable takes the authoritative one, where there is one. -/
def resolveSymbol (previous current : Snapshot) (record : EventRecord) : EventRecord :=
  match authoritativeSymbol record.symbolQuery previous current with
  | some symbol =>
    if usableSymbol record.symbol = none then { record with symbol := some symbol } else record
  | none => record

/-- The loop over the records; deals that the history archive holds are left out. -/
def streamEvents (previous current : Snapshot) (tracked : Tracked) :
    List EventRecord → List RawEvent
  | [] => []
  | record :: rest =>
    if record.historyArchived then streamEvents previous current tracked rest
    else
      let resolved := resolveSymbol previous current record
      let replayed := replayRecord previous current tracked resolved
      mql5FileEvent resolved replayed.previous replayed.current ::
        streamEvents previous current replayed.tracked rest

def isEconomicClose (event : RawEvent) : Bool :=
  event.eventType = .tradePartialClosed ∨ event.eventType = .tradeClosed

/-- A volume change that only echoes a close of the same position in the stream. -/
def echoesClose (closed : List String) (event : RawEvent) : Bool :=
  event.eventType = .tradeVolumeChanged ∧ event.partialClose = some true ∧ event.ticket ∈ closed

def eventKey (event : RawEvent) : EventType × String := (event.eventType, event.ticket)

def streamDealIds (records : List EventRecord) : List String :=
  (records.filter (·.eventType = .dealAdd)).map fun record => pyStr record.deal

/-- The events of the diff that the stream has not delivered itself. -/
def reconciliationEvents (records : List EventRecord) (stream : List RawEvent)
    (closed : List String) (previous current : Snapshot) : List RawEvent :=
  (detectWindowsEvents previous current).filter fun event =>
    ¬ (eventKey event ∈ stream.map eventKey ∨ echoesClose closed event ∨
      (event.eventType = .dealRecorded ∧ event.ticket ∈ streamDealIds records))

/-- `_merge_event_stream_with_snapshot`. -/
def mergeEventStreamWithSnapshot (records : List EventRecord) (previous current : Snapshot) :
    List RawEvent :=
  let replayed := streamEvents previous current (trackedFrom previous) records
  let closed := (replayed.filter isEconomicClose).map RawEvent.ticket
  let stream := replayed.filter fun event => ¬ echoesClose closed event
  stream ++ reconciliationEvents records stream closed previous current

end TradeJournalWorker
