import Mathlib.Algebra.Order.Field.Rat
import TradeJournalWorker.EventTypes

namespace TradeJournalWorker

/-- The record of one open position; `{}` is the empty dictionary. -/
structure ExcursionState where
  symbol : Option String := none
  direction : Option String := none
  openPrice : Option Rat := none
  balanceBeforeOpen : Option Rat := none
  point : Option Rat := none
  digits : Option Int := none
  mfePriceDelta : Option Rat := none
  mfeAt : Option String := none
  maePriceDelta : Option Rat := none
  maeAt : Option String := none
  mfePoints : Option Rat := none
  maePoints : Option Rat := none
  mfeMoney : Option Rat := none
  maeMoney : Option Rat := none
  samples : Option Nat := none
  deriving DecidableEq, Repr

abbrev Excursions := OrderedDict String ExcursionState

/-- A new state of the tracker and whether it is to be persisted. -/
structure Observed where
  positions : Excursions
  changed : Bool

def stateOf (positions : Excursions) (ticket : String) : ExcursionState :=
  (positions.get? ticket).getD {}

/-- Take what the opening knows and the state does not. -/
def ExcursionState.fromOpen (state : ExcursionState) (event : RawEvent) : ExcursionState :=
  { state with
    symbol := state.symbol.or event.symbol
    direction := state.direction.or event.direction
    openPrice := state.openPrice.or event.openPrice
    balanceBeforeOpen := state.balanceBeforeOpen.or event.balanceBeforeOpen }

def observeOpenEvent (observed : Observed) (event : RawEvent) : Observed :=
  if event.eventType = .tradeOpened ∧ event.ticket ≠ "" then
    let state := stateOf observed.positions event.ticket
    let filled := state.fromOpen event
    { positions := observed.positions.set event.ticket
        { filled with samples := some (filled.samples.getD 0) }
      changed := observed.changed || filled ≠ state }
  else observed

def observeOpenEvents (positions : Excursions) (events : List RawEvent) : Observed :=
  events.foldl observeOpenEvent { positions, changed := false }

/-- `-1.0` for a short position. -/
def directionFactor (direction : Option String) : Rat :=
  if (direction.getD "").toLower ∈ ["sell", "short"] then -1 else 1

def ExcursionState.withPoints (state : ExcursionState) (point : Option Rat) : ExcursionState :=
  match point with
  | some point =>
    if 0 < point then
      { state with
        mfePoints := some (state.mfePriceDelta.getD 0 / point)
        maePoints := some (state.maePriceDelta.getD 0 / point) }
    else state
  | none => state

def ExcursionState.withMoney (state : ExcursionState) (profit : Option Rat) : ExcursionState :=
  match profit with
  | some profit =>
    { state with
      mfeMoney := some (max (max (state.mfeMoney.getD 0) profit) 0)
      maeMoney := some (max (max (state.maeMoney.getD 0) (-profit)) 0) }
  | none => state

/-- `_observe_value`. -/
def ExcursionState.observeValue (state : ExcursionState) (favorableDelta : Rat)
    (point profit : Option Rat) (observedAt : String) : ExcursionState :=
  let favorable := max 0 favorableDelta
  let adverse := max 0 (-favorableDelta)
  let raised :=
    if state.mfePriceDelta.getD 0 ≤ favorable then
      { state with mfePriceDelta := some favorable, mfeAt := some observedAt }
    else state
  let lowered :=
    if state.maePriceDelta.getD 0 ≤ adverse then
      { raised with maePriceDelta := some adverse, maeAt := some observedAt }
    else raised
  let measured := (lowered.withPoints point).withMoney profit
  { measured with samples := some (state.samples.getD 0 + 1) }

def ExcursionState.fromPosition (state : ExcursionState) (position : PositionRow) :
    ExcursionState :=
  { state with
    symbol := position.symbol.or state.symbol
    direction := position.direction.or state.direction
    openPrice := position.openPrice.or state.openPrice
    point := position.point.or state.point
    digits := position.digits.or state.digits }

/-- The stable identifier under which a row of the snapshot is observed. -/
def observedTicket (ticket : String) (position : PositionRow) : String :=
  pyStr (pyOr position.positionId (some ticket))

def observePosition (now : String) (observed : Observed) (entry : String × PositionRow) :
    Observed :=
  let ticket := observedTicket entry.1 entry.2
  let state := (stateOf observed.positions ticket).fromPosition entry.2
  match state.openPrice, entry.2.currentPrice with
  | some openPrice, some currentPrice =>
    let delta := (currentPrice - openPrice) * directionFactor state.direction
    { positions := observed.positions.set ticket
        (state.observeValue delta entry.2.point entry.2.floatingProfit now)
      changed := true }
  | _, _ => { observed with positions := observed.positions.set ticket state }

def observeSnapshot (positions : Excursions) (snapshot : Snapshot) (now : String) : Observed :=
  snapshot.positions.entries.foldl (observePosition now) { positions, changed := false }

def ExcursionState.atClose (state : ExcursionState) (event : RawEvent) (now : String) :
    ExcursionState :=
  match state.openPrice, event.closePrice with
  | some openPrice, some closePrice =>
    let factor := directionFactor (pyOr state.direction event.direction)
    state.observeValue ((closePrice - openPrice) * factor) state.point event.profit
      ((pyOr (pyOr event.closeTime event.eventTime) (some now)).getD "")
  | _, _ => state

def moneyPercent (money balance : Option Rat) : Option Rat :=
  match balance with
  | some balance => if 0 < balance then some (money.getD 0 / balance * 100) else none
  | none => none

def ExcursionState.fields (state : ExcursionState) (sampleMs : Nat) : ExcursionFields :=
  { maePriceDelta := state.maePriceDelta, mfePriceDelta := state.mfePriceDelta
    maePoints := state.maePoints, mfePoints := state.mfePoints
    maeMoney := state.maeMoney, mfeMoney := state.mfeMoney
    maePct := moneyPercent state.maeMoney state.balanceBeforeOpen
    mfePct := moneyPercent state.mfeMoney state.balanceBeforeOpen
    maeAt := state.maeAt, mfeAt := state.mfeAt
    samples := some (state.samples.getD 0), sampleMs := some sampleMs
    source := some "mt5_snapshot" }

/-- The events enriched so far, the state after them and the tickets that were closed. -/
structure Enriched where
  positions : Excursions
  events : List RawEvent := []
  closed : List String := []

def enrichCloseEvent (sampleMs : Nat) (now : String) (enriched : Enriched) (event : RawEvent) :
    Enriched :=
  let state := stateOf enriched.positions event.ticket
  if event.eventType = .tradeClosed ∧ event.ticket ≠ "" ∧ state ≠ {} then
    let final := state.atClose event now
    { positions := enriched.positions.set event.ticket final
      events := enriched.events ++ [{ event with excursion := final.fields sampleMs }]
      closed := enriched.closed ++ [event.ticket] }
  else { enriched with events := enriched.events ++ [event] }

def enrichCloseEvents (sampleMs : Nat) (now : String) (positions : Excursions)
    (events : List RawEvent) : Enriched :=
  events.foldl (enrichCloseEvent sampleMs now) { positions }

def discardClosed (positions : Excursions) (tickets : List String) : Observed :=
  { positions := tickets.foldl OrderedDict.erase positions
    changed := tickets.any (· ∈ positions.keys) }

end TradeJournalWorker
