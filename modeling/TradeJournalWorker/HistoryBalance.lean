import Mathlib.Algebra.Order.Group.Unbundled.Abs
import Mathlib.Algebra.BigOperators.Group.List.Basic
import TradeJournalWorker.AuthoritativeSymbol

namespace TradeJournalWorker

def tradeDealTypes : List Int := [0, 1]

def creditDealType : Int := 3

def knownBalanceDealTypes : List Int := [0, 1, 2, 4, 5, 6, 7, 8, 9, 10, 11, 12, 15, 16, 17]

def separateCommissionDealTypes : List Int := [7, 8, 9, 10, 11]

def validEntries : List String := ["0", "1", "2", "3", "IN", "OUT", "INOUT", "OUT_BY"]

def openEntries : List String := ["0", "IN"]

def exitEntries : List String := ["1", "2", "3", "OUT", "INOUT", "OUT_BY"]

def volumeTolerance : Rat := 1 / 100000000

/-- A row of the exported ledger. The numbers are what `_decimal` makes of the fields, with
`none` for what is no finite number; the texts are stripped, the entry in capitals and the
direction in small letters. -/
structure LedgerRow where
  ticket : Option String := none
  dealType : Option Int := none
  positionId : String := ""
  orderId : String := ""
  symbol : Option String := none
  direction : String := ""
  entry : String := ""
  volume : Option Rat := none
  price : Option Rat := none
  profit : Option Rat := none
  commission : Option Rat := none
  swap : Option Rat := none
  fee : Option Rat := none
  timeMsc : Option Int := none
  time : Option String := none
  deriving DecidableEq, Repr

/-- What the account held when the ledger was exported. -/
structure LedgerAnchor where
  balance : Option Rat := none
  credit : Option Rat := none
  coherent : Bool := false
  deriving DecidableEq, Repr

/-- `_ticket`. -/
def ledgerTicket (row : LedgerRow) : Option Nat := identifier row.ticket

def LedgerRow.economics (row : LedgerRow) : List (Option Rat) :=
  [row.profit, row.commission, row.swap, row.fee]

/-- The sum of the economic fields if all of them are there. -/
def LedgerRow.total (row : LedgerRow) : Option Rat := do
  let profit ← row.profit
  let commission ← row.commission
  let swap ← row.swap
  let fee ← row.fee
  return profit + commission + swap + fee

/-- `_effect`: the change of balance and of credit. -/
def effect (row : LedgerRow) : Option (Rat × Rat) := do
  let dealType ← row.dealType
  let total ← row.total
  if dealType = creditDealType then return (0, total)
  else if dealType ∈ knownBalanceDealTypes then return (total, 0)
  else none

/-- `balance_before_open` of one row and why it has none. -/
structure BalanceBefore where
  value : Option Rat
  reason : String
  deriving DecidableEq, Repr

/-- The walk from the end of the ledger back to its beginning. -/
structure LedgerWalk where
  runningBalance : Rat
  runningCredit : Rat
  ledgerKnown : Bool := true
  before : List BalanceBefore := []
  deriving DecidableEq, Repr

def LedgerWalk.back (row : LedgerRow) (walk : LedgerWalk) : LedgerWalk :=
  match effect row with
  | none =>
    { walk with ledgerKnown := false, before := ⟨none, "economics_incomplete"⟩ :: walk.before }
  | some (balanceEffect, creditEffect) =>
    if walk.ledgerKnown then
      { walk with
        runningBalance := walk.runningBalance - balanceEffect
        runningCredit := walk.runningCredit - creditEffect
        before := ⟨some (walk.runningBalance - balanceEffect), "mt5_ledger_exact"⟩ :: walk.before }
    else
      { walk with before := ⟨none, "ledger_order_or_economics_incomplete"⟩ :: walk.before }

def balancesBefore (rows : List LedgerRow) (anchor : LedgerAnchor) : List BalanceBefore :=
  match anchor.balance, anchor.credit, anchor.coherent with
  | some balance, some credit, true =>
    (rows.foldr LedgerWalk.back { runningBalance := balance, runningCredit := credit }).before
  | _, _, _ => rows.map fun _ => ⟨none, "anchor_unavailable"⟩

def LedgerRow.isTrade (row : LedgerRow) : Bool := row.dealType.any (· ∈ tradeDealTypes)

/-- The row is a fill of a position. -/
def LedgerRow.ofPosition (row : LedgerRow) : Bool :=
  row.positionId ≠ "" ∧ row.positionId ≠ "0" ∧ row.isTrade

/-- `position_indices[position_id]`: the fills of a position with their indices. -/
def positionFills (rows : List LedgerRow) (positionId : String) : List (LedgerRow × Nat) :=
  rows.zipIdx.filter fun fill => fill.1.ofPosition && fill.1.positionId = positionId

def hasPosition (rows : List LedgerRow) (positionId : String) : Bool :=
  rows.any fun row => row.ofPosition && row.positionId = positionId

/-- `order_positions.get(order_id)`. -/
def orderPositions (rows : List LedgerRow) (orderId : String) : List String :=
  if orderId = "" ∨ orderId = "0" then []
  else ((rows.filter fun row => row.ofPosition && row.orderId = orderId).map
    LedgerRow.positionId).dedup

/-- `costs_by_position`, `costs_complete` and `unresolved_separate_commission`. -/
structure PositionCosts where
  amount : OrderedDict String Rat := ∅
  complete : OrderedDict String Bool := ∅
  unresolved : Bool := false

def PositionCosts.charge (costs : PositionCosts) (positionId : String) (amount : Rat) :
    OrderedDict String Rat :=
  costs.amount.set positionId ((costs.amount.get? positionId).getD 0 + amount)

/-- The costs on the fills themselves. -/
def PositionCosts.fill (costs : PositionCosts) (row : LedgerRow) : PositionCosts :=
  if row.ofPosition then
    match row.commission, row.fee with
    | some commission, some fee =>
      { costs with
        amount := costs.charge row.positionId (commission + fee)
        complete := costs.complete.set row.positionId
          ((costs.complete.get? row.positionId).getD true) }
    | _, _ => { costs with complete := costs.complete.set row.positionId false }
  else costs

/-- The position a separate commission row belongs to, by its own link or by its order. -/
def commissionTarget (rows : List LedgerRow) (row : LedgerRow) : Option String :=
  if hasPosition rows row.positionId then some row.positionId
  else
    match orderPositions rows row.orderId with
    | [positionId] => some positionId
    | _ => none

def PositionCosts.separate (rows : List LedgerRow) (costs : PositionCosts) (row : LedgerRow) :
    PositionCosts :=
  if row.dealType.any (· ∈ separateCommissionDealTypes) then
    match row.total with
    | none => { costs with unresolved := true }
    | some amount =>
      if amount = 0 then costs
      else
        match commissionTarget rows row with
        | none => { costs with unresolved := true }
        | some target =>
          { costs with
            amount := costs.charge target amount
            complete := costs.complete.set target ((costs.complete.get? target).getD true) }
  else costs

def positionCosts (rows : List LedgerRow) : PositionCosts :=
  rows.foldl (PositionCosts.separate rows) (rows.foldl PositionCosts.fill {})

/-- `costs_complete.get(position_id, False)` at the end. -/
def costsComplete (rows : List LedgerRow) (positionId : String) : Bool :=
  let costs := positionCosts rows
  if costs.unresolved ∧ hasPosition rows positionId then false
  else (costs.complete.get? positionId).getD false

/-- The position after one of its opening fills. -/
structure OpeningState where
  previousVolume : Rat
  volume : Rat
  openPrice : Rat
  deriving DecidableEq, Repr

/-- The walk through the fills of one position. -/
structure PositionWalk where
  currentVolume : Rat := 0
  currentNotional : Rat := 0
  positionClosed : Bool := false
  openings : List (Nat × OpeningState) := []
  exits : List (Nat × EventType) := []
  unsafeReason : Option String := none
  deriving DecidableEq, Repr

/-- `break` at the first incoherent fill. -/
def walkPosition (walk : PositionWalk) : List (LedgerRow × Nat) → PositionWalk
  | [] => walk
  | (row, index) :: rest =>
    if row.entry ∈ openEntries then
      if walk.positionClosed then
        { walk with unsafeReason := some "position_reopened_not_reconstructible" }
      else
        let volume := walk.currentVolume + row.volume.getD 0
        let notional := walk.currentNotional + row.volume.getD 0 * row.price.getD 0
        walkPosition
          { walk with
            currentVolume := volume
            currentNotional := notional
            openings := walk.openings ++ [(index, ⟨walk.currentVolume, volume, notional / volume⟩)] }
          rest
    else if row.entry ∉ exitEntries then walkPosition walk rest
    else
      let exitVolume := row.volume.getD 0
      if walk.positionClosed ∨ walk.currentVolume ≤ volumeTolerance ∨
          walk.currentVolume + volumeTolerance < exitVolume then
        { walk with unsafeReason := some "exit_volume_incoherent" }
      else if |exitVolume - walk.currentVolume| ≤ volumeTolerance then
        walkPosition
          { walk with
            exits := walk.exits ++ [(index, .tradeClosed)]
            positionClosed := true
            currentVolume := 0
            currentNotional := 0 }
          rest
      else
        walkPosition
          { walk with
            exits := walk.exits ++ [(index, .tradePartialClosed)]
            currentVolume := walk.currentVolume - exitVolume
            currentNotional :=
              walk.currentNotional / walk.currentVolume * (walk.currentVolume - exitVolume) }
          rest

/-- What the loop over `position_indices` records about one position. -/
structure PositionAnalysis where
  firstOpenIndex : Option Nat := none
  openings : List (Nat × OpeningState) := []
  exits : List (Nat × EventType) := []
  unsafeReason : Option String := none
  deriving DecidableEq, Repr

/-- A volume the walk can work with. -/
def positiveVolume (row : LedgerRow) : Bool := row.volume.any (0 < ·)

def openingsComplete (openings : List LedgerRow) : Bool :=
  (openings.map LedgerRow.direction).dedup.length = 1 ∧
    openings.all positiveVolume ∧ openings.all (·.price.isSome) ∧
    openings.all fun row => row.economics.all (·.isSome)

def analysePosition (rows : List LedgerRow) (positionId : String) : PositionAnalysis :=
  let fills := positionFills rows positionId
  match fills.filter fun fill => fill.1.entry ∈ openEntries with
  | [] => { unsafeReason := some "opening_deal_unavailable" }
  | opening :: openings =>
    if fills.any fun fill => (ledgerTicket fill.1).isNone then
      { unsafeReason := some "deal_identity_unavailable" }
    else if fills.any fun fill => fill.1.entry = "INOUT" then
      { firstOpenIndex := some opening.2
        unsafeReason := some "inout_reversal_not_reconstructible" }
    else if ¬ openingsComplete ((opening :: openings).map Prod.fst) then
      { firstOpenIndex := some opening.2
        unsafeReason := some "opening_aggregation_incomplete" }
    else if ¬ (fills.filter fun fill => fill.1.entry ∈ exitEntries).all
        (fun fill => positiveVolume fill.1) then
      { firstOpenIndex := some opening.2
        unsafeReason := some "exit_volume_incomplete" }
    else
      let walk := walkPosition {} fills
      { firstOpenIndex := some opening.2
        openings := walk.openings
        exits := if walk.unsafeReason.isSome then [] else walk.exits
        unsafeReason := walk.unsafeReason }

/-- A row of the ledger with what the reconstruction adds to it. -/
structure ProjectedDeal where
  row : LedgerRow
  projectAsTrade : Bool
  historyEventType : Option EventType := none
  commissionRaw : Option Rat := none
  commission : Option Rat := none
  volume : Option Rat := none
  openPrice : Option Rat := none
  previousVolume : Option Rat := none
  partialClose : Option Bool := none
  balanceBeforeOpen : Option Rat := none
  balanceBeforeOpenSource : Option String := none
  balanceBeforeOpenReason : Option String := none
  projectionReason : Option String := none
  commissionComplete : Option Bool := none
  totalCommission : Option Rat := none
  deriving DecidableEq, Repr

/-- The commission with the fee in it. -/
def projectCosts (row : LedgerRow) (item : ProjectedDeal) : ProjectedDeal :=
  match row.commission, row.fee with
  | some commission, some fee =>
    { item with commissionRaw := some commission, commission := some (commission + fee) }
  | _, _ => item

/-- The balance of the first opening of a position. -/
def projectBalance (before : BalanceBefore) (unsafeReason : Option String) (item : ProjectedDeal) :
    ProjectedDeal :=
  match unsafeReason, before.value with
  | some reason, _ =>
    { item with
      balanceBeforeOpen := none
      balanceBeforeOpenSource := some "not_available"
      balanceBeforeOpenReason := some reason
      projectionReason := some reason }
  | none, some value =>
    if 0 < value then
      { item with
        balanceBeforeOpen := some value
        balanceBeforeOpenSource := some "mt5_historical_ledger" }
    else
      { item with
        balanceBeforeOpen := none
        balanceBeforeOpenSource := some "not_available"
        balanceBeforeOpenReason := some "non_positive_balance" }
  | none, none =>
    { item with
      balanceBeforeOpen := none
      balanceBeforeOpenSource := some "not_available"
      balanceBeforeOpenReason := some before.reason }

/-- The event an opening fill becomes. -/
def projectOpening (before : BalanceBefore) (analysis : PositionAnalysis) (index : Nat)
    (item : ProjectedDeal) : ProjectedDeal :=
  let state := analysis.openings.lookup index
  if analysis.firstOpenIndex = some index then
    projectBalance before analysis.unsafeReason
      { item with
        historyEventType := some .tradeOpened
        volume := (state.map OpeningState.volume).or item.volume
        openPrice := state.map OpeningState.openPrice }
  else
    { item with
      historyEventType := some .tradeVolumeChanged
      previousVolume := state.map OpeningState.previousVolume
      volume := (state.map OpeningState.volume).or item.volume
      openPrice := state.map OpeningState.openPrice
      partialClose := some false }

/-- The event a closing fill becomes. -/
def projectExit (row : LedgerRow) (analysis : PositionAnalysis) (index : Nat)
    (item : ProjectedDeal) : ProjectedDeal :=
  if row.entry = "INOUT" then
    { item with
      projectAsTrade := false
      projectionReason := some "inout_reversal_not_reconstructible" }
  else if row.entry ∈ exitEntries then
    { item with
      historyEventType := some ((analysis.exits.lookup index).getD .tradePartialClosed) }
  else item

/-- The costs of the whole position on its last fill. -/
def projectTotal (rows : List LedgerRow) (positionId : String) (item : ProjectedDeal) :
    ProjectedDeal :=
  if item.historyEventType = some .tradeClosed then
    let complete := costsComplete rows positionId
    { item with
      commissionComplete := some complete
      totalCommission :=
        if complete then some (((positionCosts rows).amount.get? positionId).getD 0) else none }
  else item

/-- The row is projected at all. -/
def projectable (row : LedgerRow) : Bool :=
  row.ofPosition ∧ row.symbol.any (fun symbol => pyStrip symbol ≠ []) ∧ row.entry ∈ validEntries

def projectDeal (rows : List LedgerRow) (anchor : LedgerAnchor) (row : LedgerRow) (index : Nat) :
    Option ProjectedDeal :=
  if projectable row then
    let analysis := analysePosition rows row.positionId
    let before := (balancesBefore rows anchor).getD index ⟨none, "ledger_unavailable"⟩
    let item := projectCosts row
      { row := row, projectAsTrade := analysis.unsafeReason.isNone, volume := row.volume,
        commission := row.commission }
    let opened :=
      if row.entry ∈ openEntries then projectOpening before analysis index item else item
    some (projectTotal rows row.positionId (projectExit row analysis index opened))
  else none

/-- `reconstruct_trade_deals`. -/
def reconstructTradeDeals (rows : List LedgerRow) (anchor : LedgerAnchor) : List ProjectedDeal :=
  rows.zipIdx.filterMap fun fill => projectDeal rows anchor fill.1 fill.2

end TradeJournalWorker
