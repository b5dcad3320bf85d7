import Mathlib.Data.List.Sort
import Mathlib.Data.String.Basic
import TradeJournalWorker.EventTypes

namespace TradeJournalWorker

/-- `sorted` of dictionary keys. -/
def sortedKeys (keys : List String) : List String := keys.insertionSort (· ≤ ·)

@[simp] theorem mem_sortedKeys {keys : List String} {key : String} :
    key ∈ sortedKeys keys ↔ key ∈ keys := List.mem_insertionSort _

/-- `value or 0`. -/
def orZero (value : Option Rat) : Rat := value.getD 0

def openedEvent (ticket : String) (pos : PositionRow) : RawEvent :=
  { eventType := .tradeOpened, ticket := ticket
    symbol := pos.symbol, direction := pos.direction, volume := pos.volume
    openPrice := pos.openPrice, stopLoss := pos.stopLoss, takeProfit := pos.takeProfit
    openTime := pos.openTime }

def modifiedEvent (ticket : String) (pos prevPos : PositionRow) : RawEvent :=
  { eventType := .tradeModified, ticket := ticket
    symbol := pos.symbol, direction := pos.direction, volume := pos.volume
    stopLoss := pos.stopLoss, takeProfit := pos.takeProfit
    previousStopLoss := prevPos.stopLoss, previousTakeProfit := prevPos.takeProfit }

/-- The events of one position of the new snapshot; a change of both levels is two events. -/
def openedOrModified (previous : Snapshot) (ticket : String) (pos : PositionRow) : List RawEvent :=
  match previous.positions.get? ticket with
  | none => [openedEvent ticket pos]
  | some prevPos =>
    (if pos.stopLoss ≠ prevPos.stopLoss then [modifiedEvent ticket pos prevPos] else []) ++
      if pos.takeProfit ≠ prevPos.takeProfit then [modifiedEvent ticket pos prevPos] else []

def detectTradeOpenedAndModified (previous current : Snapshot) : List RawEvent :=
  (sortedKeys current.positions.keys).flatMap fun ticket =>
    ((current.positions.get? ticket).map (openedOrModified previous ticket)).getD []

/-- `_find_closing_deal`; an empty row when there is none. -/
def findClosingDeal (deals : OrderedDict String DealRow) (ticket : String) : DealRow :=
  (deals.values.find? fun deal => pyStr deal.positionTicket = ticket).getD {}

def closedEvent (ticket : String) (pos : PositionRow) (deal : DealRow) : RawEvent :=
  { eventType := .tradeClosed, ticket := ticket
    symbol := pos.symbol, direction := pos.direction, volume := pos.volume
    openPrice := pos.openPrice, closePrice := deal.closePrice, profit := deal.profit
    commission := deal.commission, swap := deal.swap, closeTime := deal.closeTime }

def detectTradeClosed (previous current : Snapshot) : List RawEvent :=
  (sortedKeys previous.positions.keys).flatMap fun ticket =>
    if ticket ∈ current.positions.keys then []
    else
      ((previous.positions.get? ticket).map fun pos =>
        [closedEvent ticket pos (findClosingDeal current.deals ticket)]).getD []

def orderEvent (eventType : EventType) (ticket : String) (order : OrderRow) : RawEvent :=
  { eventType := eventType, ticket := ticket
    symbol := order.symbol, direction := order.direction, volume := order.volume
    price := order.price, stopLoss := order.stopLoss, takeProfit := order.takeProfit }

def orderModifiedEvent (ticket : String) (order prevOrder : OrderRow) : RawEvent :=
  { orderEvent .pendingOrderModified ticket order with
    previousStopLoss := prevOrder.stopLoss, previousTakeProfit := prevOrder.takeProfit }

def createdOrModified (previous : Snapshot) (ticket : String) (order : OrderRow) : List RawEvent :=
  match previous.orders.get? ticket with
  | none => [orderEvent .pendingOrderCreated ticket order]
  | some prevOrder =>
    if order.price ≠ prevOrder.price ∨ order.stopLoss ≠ prevOrder.stopLoss ∨
        order.takeProfit ≠ prevOrder.takeProfit then
      [orderModifiedEvent ticket order prevOrder]
    else []

/-- An order that became a position was executed, not cancelled. -/
def detectPendingOrderEvents (previous current : Snapshot) : List RawEvent :=
  ((sortedKeys current.orders.keys).flatMap fun ticket =>
    ((current.orders.get? ticket).map (createdOrModified previous ticket)).getD []) ++
  (sortedKeys previous.orders.keys).flatMap fun ticket =>
    if ticket ∈ current.orders.keys ∨ ticket ∈ current.positions.keys then []
    else
      ((previous.orders.get? ticket).map fun order =>
        [orderEvent .pendingOrderCancelled ticket order]).getD []

def detectEvents (previous current : Snapshot) : List RawEvent :=
  detectTradeOpenedAndModified previous current ++ detectTradeClosed previous current ++
    detectPendingOrderEvents previous current

def volumeChangedEvent (ticket : String) (new old : PositionRow) : RawEvent :=
  { eventType := .tradeVolumeChanged, ticket := ticket
    symbol := new.symbol, direction := new.direction, volume := new.volume
    previousVolume := old.volume, partialClose := some (orZero new.volume < orZero old.volume) }

def detectVolumeChanges (previous current : Snapshot) : List RawEvent :=
  (sortedKeys (previous.positions.keys.filter (· ∈ current.positions.keys))).flatMap fun ticket =>
    match previous.positions.get? ticket, current.positions.get? ticket with
    | some old, some new =>
      if old.volume ≠ new.volume then [volumeChangedEvent ticket new old] else []
    | _, _ => []

/-- The fields of the row override those of the event, its ticket too. -/
def dealRecordedEvent (ticket : String) (deal : DealRow) : RawEvent :=
  { eventType := .dealRecorded, ticket := deal.ticket.getD ticket
    symbol := deal.symbol, direction := deal.direction, volume := deal.volume, price := deal.price
    closePrice := deal.closePrice, profit := deal.profit, commission := deal.commission
    swap := deal.swap, fee := deal.fee, timeMsc := deal.timeMsc, closeTime := deal.closeTime
    positionTicket := deal.positionTicket }

def detectNewDeals (previous current : Snapshot) : List RawEvent :=
  (sortedKeys (current.deals.keys.filter (· ∉ previous.deals.keys))).flatMap fun ticket =>
    ((current.deals.get? ticket).map fun deal => [dealRecordedEvent ticket deal]).getD []

def detectWindowsEvents (previous current : Snapshot) : List RawEvent :=
  detectEvents previous current ++ detectVolumeChanges previous current ++
    detectNewDeals previous current

end TradeJournalWorker
