import Mathlib.Algebra.Order.Ring.Rat
import TradeJournalWorker.OrderedDict

namespace TradeJournalWorker

/-- `DEAL_ENTRY` as the bridge spells it. -/
inductive Entry where
  | «in»
  | out
  | inout
  | outBy
  | unknown
  deriving DecidableEq, Repr

/-- The upper-cased `event_type` of a bridge record. -/
inductive RecordType where
  | dealAdd
  | position
  | orderAdd
  | orderUpdate
  | orderDelete
  | historyAdd
  | other
  deriving DecidableEq, Repr

/-- The payload of one event file. `none` is a JSON null or an absent key; the bridge
always writes `ticket`. -/
structure EventRecord where
  sequence : Nat
  eventType : RecordType
  ticket : String
  positionId : Option String := none
  positionTicket : Option String := none
  orderId : Option String := none
  dealId : Option String := none
  symbol : Option String := none
  direction : Option String := none
  volume : Option Rat := none
  price : Option Rat := none
  stopLoss : Option Rat := none
  takeProfit : Option Rat := none
  profit : Option Rat := none
  commission : Option Rat := none
  swap : Option Rat := none
  balance : Option Rat := none
  equity : Option Rat := none
  currency : Option String := none
  leverage : Option Int := none
  balanceBeforeOpen : Option Rat := none
  timestampMsc : Option Int := none
  timeMsc : Option Int := none
  time : Option String := none
  entry : Option Entry := none
  historyArchived : Bool := false
  deriving DecidableEq, Repr

structure PositionRow where
  ticket : Option String := none
  positionId : Option String := none
  positionTicket : Option String := none
  symbol : Option String := none
  direction : Option String := none
  volume : Option Rat := none
  openPrice : Option Rat := none
  stopLoss : Option Rat := none
  takeProfit : Option Rat := none
  currentPrice : Option Rat := none
  floatingProfit : Option Rat := none
  point : Option Rat := none
  digits : Option Int := none
  openTime : Option String := none
  deriving DecidableEq, Repr

structure OrderRow where
  ticket : Option String := none
  orderId : Option String := none
  positionId : Option String := none
  positionTicket : Option String := none
  symbol : Option String := none
  direction : Option String := none
  volume : Option Rat := none
  price : Option Rat := none
  stopLoss : Option Rat := none
  takeProfit : Option Rat := none
  deriving DecidableEq, Repr

/-- A deal row of a snapshot, in the form of the bridge or of the older detector,
which named the position and the closing economics differently. -/
structure DealRow where
  ticket : Option String := none
  dealId : Option String := none
  positionId : Option String := none
  positionTicket : Option String := none
  orderId : Option String := none
  symbol : Option String := none
  direction : Option String := none
  volume : Option Rat := none
  price : Option Rat := none
  closePrice : Option Rat := none
  profit : Option Rat := none
  commission : Option Rat := none
  swap : Option Rat := none
  fee : Option Rat := none
  timeMsc : Option Int := none
  closeTime : Option String := none
  deriving DecidableEq, Repr

structure Snapshot where
  positions : OrderedDict String PositionRow := ∅
  orders : OrderedDict String OrderRow := ∅
  deals : OrderedDict String DealRow := ∅
  deriving DecidableEq

inductive EventType where
  | tradeOpened
  | tradeModified
  | tradeClosed
  | tradePartialClosed
  | tradeVolumeChanged
  | pendingOrderCreated
  | pendingOrderModified
  | pendingOrderCancelled
  | dealRecorded
  deriving DecidableEq, Repr

def EventType.text : EventType → String
  | tradeOpened => "trade_opened"
  | tradeModified => "trade_modified"
  | tradeClosed => "trade_closed"
  | tradePartialClosed => "trade_partial_closed"
  | tradeVolumeChanged => "trade_volume_changed"
  | pendingOrderCreated => "pending_order_created"
  | pendingOrderModified => "pending_order_modified"
  | pendingOrderCancelled => "pending_order_cancelled"
  | dealRecorded => "deal_recorded"

/-- The excursion fields attached to a close. -/
structure ExcursionFields where
  maePriceDelta : Option Rat := none
  mfePriceDelta : Option Rat := none
  maePoints : Option Rat := none
  mfePoints : Option Rat := none
  maeMoney : Option Rat := none
  mfeMoney : Option Rat := none
  maePct : Option Rat := none
  mfePct : Option Rat := none
  maeAt : Option String := none
  mfeAt : Option String := none
  samples : Option Nat := none
  sampleMs : Option Nat := none
  source : Option String := none
  deriving DecidableEq, Repr

/-- A raw event of the detector or of the event stream. -/
structure RawEvent where
  eventType : EventType
  ticket : String
  symbol : Option String := none
  direction : Option String := none
  volume : Option Rat := none
  price : Option Rat := none
  openPrice : Option Rat := none
  closePrice : Option Rat := none
  stopLoss : Option Rat := none
  takeProfit : Option Rat := none
  previousStopLoss : Option Rat := none
  previousTakeProfit : Option Rat := none
  profit : Option Rat := none
  commission : Option Rat := none
  totalCommission : Option Rat := none
  swap : Option Rat := none
  fee : Option Rat := none
  openTime : Option String := none
  closeTime : Option String := none
  eventTime : Option String := none
  nativeDealTicket : Option String := none
  positionTicket : Option String := none
  timeMsc : Option Int := none
  timeBasis : Option String := none
  balance : Option Rat := none
  equity : Option Rat := none
  currency : Option String := none
  leverage : Option Int := none
  balanceBeforeOpen : Option Rat := none
  previousVolume : Option Rat := none
  partialClose : Option Bool := none
  commissionComplete : Option Bool := none
  excursion : ExcursionFields := {}
  deriving DecidableEq, Repr

/-- Python's `a or b` on strings: null and the empty string are false. -/
def pyOr (a b : Option String) : Option String :=
  match a with
  | some text => if text = "" then b else some text
  | none => b

/-- Python's `str(value)`. -/
def pyStr (value : Option String) : String := value.getD "None"

theorem pyOr_of_ne {text : String} (h : text ≠ "") (b : Option String) :
    pyOr (some text) b = some text := if_neg h

end TradeJournalWorker
