import TradeJournalWorker.BalanceAgreement
import TradeJournalWorker.DiffEvents

namespace TradeJournalWorker

/-- The row of `BuildDealsJson` in a snapshot. Its position is under `position_id`, its price under
`price` and its time under `time`, which no detector reads. -/
def buildDealsDeal (deal : MtDeal) : DealRow where
  ticket := some (toString deal.ticket)
  positionId := some (toString deal.positionId)
  orderId := some (toString deal.orderId)
  symbol := some deal.symbol
  direction := some (if deal.dealType = 1 then "sell" else "buy")
  volume := some deal.volume
  price := some deal.price
  profit := some deal.profit
  commission := some deal.commission
  swap := some deal.swap
  fee := some deal.fee
  timeMsc := some deal.timeMsc

/-- `_dedupe` of the deals by their tickets. -/
def dedupeDeals (rows : List DealRow) : OrderedDict String DealRow :=
  rows.foldl (fun result row =>
    let key := row.ticket.getD ""
    if key = "" then result else result.set key row) ∅

/-- The last fill that took volume out of a position. -/
def lastExit (deals : List MtDeal) (ticket : String) : Option MtDeal :=
  (deals.filter fun deal => (deal.entry = .out ∨ deal.entry = .outBy) ∧
    toString deal.positionId = ticket).getLast?

/-- The close has the economics of this fill, its fee in the commission as in the stream. -/
structure CarriesExit (event : RawEvent) (exit : MtDeal) : Prop where
  price : event.closePrice = some exit.price
  profit : event.profit = some exit.profit
  cost : event.commission = some (exit.commission + exit.fee)
  swap : event.swap = some exit.swap
  time : event.closeTime = some exit.time

/-- The close has no economics at all. -/
structure BareClose (event : RawEvent) : Prop where
  price : event.closePrice = none
  profit : event.profit = none
  cost : event.commission = none
  swap : event.swap = none
  time : event.closeTime = none

theorem toString_ne_none (number : Nat) : toString number ≠ "None" := by
  intro h
  have hlist := congrArg String.toList h
  have hdigits : 'N' ∈ Nat.toDigits 10 number := by
    have hrepr : (toString number).toList = Nat.toDigits 10 number := by
      show (Nat.repr number).toList = _
      unfold Nat.repr
      exact String.toList_ofList
    rw [← hrepr, hlist]
    decide
  exact absurd (Nat.isDigit_of_mem_toDigits (by omega) (by omega) hdigits) (by decide)

theorem mem_dedupeDeals {rows : List DealRow} {key : String} {row : DealRow}
    (h : (dedupeDeals rows).get? key = some row) : row ∈ rows := by
  induction rows using List.reverseRecOn with
  | nil => cases h
  | append_singleton rows last ih =>
    unfold dedupeDeals at h
    rw [List.foldl_append, List.foldl_cons, List.foldl_nil] at h
    dsimp only at h
    split at h
    · exact List.mem_append_left _ (ih h)
    · rw [OrderedDict.get?_set] at h
      split at h
      · cases h
        simp
      · exact List.mem_append_left _ (ih h)

/-- No row of the bridge is a closing deal to the detector. -/
theorem findClosingDeal_bridge {deals : List MtDeal} {number : Nat} :
    findClosingDeal (dedupeDeals (deals.map buildDealsDeal)) (toString number) = {} := by
  unfold findClosingDeal
  rw [List.find?_eq_none.mpr]
  · rfl
  · intro row hrow hticket
    obtain ⟨entry, hentry, heq⟩ := List.mem_map.mp hrow
    have hget : (dedupeDeals (deals.map buildDealsDeal)).get? entry.1 = some entry.2 :=
      OrderedDict.mem_entries_iff.mp hentry
    obtain ⟨deal, -, hdeal⟩ := List.mem_map.mp (mem_dedupeDeals hget)
    rw [← heq, ← hdeal] at hticket
    have hnone : "None" = toString number := of_decide_eq_true hticket
    exact toString_ne_none number hnone.symm

/-- Every close of the diff is about one position that went, with the deal found for it. -/
theorem tradeClosed_cases {previous current : Snapshot} {event : RawEvent}
    (h : event ∈ detectWindowsEvents previous current) (htype : event.eventType = .tradeClosed) :
    ∃ pos, previous.positions.get? event.ticket = some pos ∧
      current.positions.get? event.ticket = none ∧
      event = closedEvent event.ticket pos (findClosingDeal current.deals event.ticket) := by
  have hdiff := mem_detectWindowsEvents.mp h
  cases hdiff with
  | closed hold hnew => exact ⟨_, hold, hnew, rfl⟩
  | opened => cases htype
  | modified => cases htype
  | orderCreated => cases htype
  | orderModified => cases htype
  | orderCancelled => cases htype
  | volumeChanged => cases htype
  | dealRecorded => cases htype

/-- With the deals of the bridge, the close of a position that went is reported, and always
without the economics of its last exit. -/
theorem snapshot_close_bare (previous current : Snapshot) (deals : List MtDeal) (ticket : String)
    (pos : PositionRow) (exit : MtDeal)
    (hrows : current.deals = dedupeDeals (deals.map buildDealsDeal))
    (hopen : previous.positions.get? ticket = some pos)
    (hgone : current.positions.get? ticket = none)
    (hexit : lastExit deals ticket = some exit) :
    (∃ event ∈ detectWindowsEvents previous current,
      event.eventType = .tradeClosed ∧ event.ticket = ticket) ∧
    ∀ event ∈ detectWindowsEvents previous current, event.eventType = .tradeClosed →
      event.ticket = ticket → BareClose event ∧ ¬ CarriesExit event exit := by
  have hnumber : toString exit.positionId = ticket := by
    have hmem := List.mem_of_getLast? hexit
    exact (of_decide_eq_true (List.mem_filter.mp hmem).2).2
  constructor
  · exact ⟨_, mem_detectWindowsEvents.mpr (.closed hopen hgone), rfl, rfl⟩
  · intro event hevent htype hticket
    obtain ⟨old, -, -, heq⟩ := tradeClosed_cases hevent htype
    have hnone : findClosingDeal current.deals event.ticket = {} := by
      rw [hrows, hticket, ← hnumber]
      exact findClosingDeal_bridge
    rw [hnone] at heq
    have hbare : BareClose event := by
      rw [heq]
      exact ⟨rfl, rfl, rfl, rfl, rfl⟩
    refine ⟨hbare, fun hcarries => ?_⟩
    have hprice := hcarries.price
    rw [hbare.price] at hprice
    cases hprice

/-- The opening and the closing deal of position 7. -/
def closedPosition : List MtDeal :=
  [{ ticket := 11, dealType := 0, entry := .in, positionId := 7, orderId := 7, symbol := "EURUSD"
     volume := 1, price := 2, profit := 0, commission := 0, swap := 0, fee := 0 },
    { ticket := 12, dealType := 1, entry := .out, positionId := 7, orderId := 8, symbol := "EURUSD"
      volume := 1, price := 3, profit := 1, commission := 0, swap := 0, fee := 0 }]

def beforeClose : Snapshot where
  positions := OrderedDict.empty.set "7" { ticket := some "7", volume := some 1 }

def afterClose : Snapshot where
  deals := dedupeDeals (closedPosition.map buildDealsDeal)

theorem snapshot_close_bare_closed :
    (∃ event ∈ detectWindowsEvents beforeClose afterClose,
      event.eventType = .tradeClosed ∧ event.ticket = "7") ∧
    ∀ event ∈ detectWindowsEvents beforeClose afterClose, event.eventType = .tradeClosed →
      event.ticket = "7" → BareClose event ∧ ¬ CarriesExit event closedPosition[1] :=
  snapshot_close_bare beforeClose afterClose closedPosition "7" _ closedPosition[1] rfl rfl rfl
    (by decide +kernel)

/-- The close of position 7 without the price of its closing deal. -/
theorem afterClose_bare : ∃ event ∈ detectWindowsEvents beforeClose afterClose,
    event.eventType = .tradeClosed ∧ event.ticket = "7" ∧
      ¬ CarriesExit event closedPosition[1] := by
  refine ⟨closedEvent "7" { ticket := some "7", volume := some 1 } {}, by decide +kernel, rfl, rfl,
    fun h => ?_⟩
  cases h.price

end TradeJournalWorker
