import TradeJournalWorker.DiffEvents

namespace TradeJournalWorker

structure PositionLevels where
  volume : Option Rat
  stopLoss : Option Rat
  takeProfit : Option Rat
  deriving DecidableEq, Repr

structure OrderLevels where
  price : Option Rat
  stopLoss : Option Rat
  takeProfit : Option Rat
  deriving DecidableEq, Repr

structure DealEconomics where
  volume : Option Rat
  price : Option Rat
  closePrice : Option Rat
  profit : Option Rat
  commission : Option Rat
  swap : Option Rat
  fee : Option Rat
  deriving DecidableEq, Repr

def PositionRow.levels (row : PositionRow) : PositionLevels :=
  ⟨row.volume, row.stopLoss, row.takeProfit⟩

def OrderRow.levels (row : OrderRow) : OrderLevels := ⟨row.price, row.stopLoss, row.takeProfit⟩

def DealRow.economics (row : DealRow) : DealEconomics :=
  ⟨row.volume, row.price, row.closePrice, row.profit, row.commission, row.swap, row.fee⟩

/-- What is known of one ticket: a position, a pending order, a new deal. -/
structure TicketState where
  position : Option PositionLevels := none
  order : Option OrderLevels := none
  deal : Option DealEconomics := none
  deriving DecidableEq, Repr

/-- What one event says about its ticket. A position that opens under the ticket of a pending
order is the execution of that order, which has no event of its own. -/
def TicketState.apply (state : TicketState) (event : RawEvent) : TicketState :=
  match event.eventType with
  | .tradeOpened =>
    { state with
      position := some ⟨event.volume, event.stopLoss, event.takeProfit⟩
      order := none }
  | .tradeModified =>
    { state with
      position := state.position.map fun position =>
        { position with stopLoss := event.stopLoss, takeProfit := event.takeProfit } }
  | .tradeVolumeChanged =>
    { state with
      position := state.position.map fun position => { position with volume := event.volume } }
  | .tradeClosed => { state with position := none }
  | .tradePartialClosed => state
  | .pendingOrderCreated =>
    { state with order := some ⟨event.price, event.stopLoss, event.takeProfit⟩ }
  | .pendingOrderModified =>
    { state with
      order := state.order.map fun _ => ⟨event.price, event.stopLoss, event.takeProfit⟩ }
  | .pendingOrderCancelled => { state with order := none }
  | .dealRecorded =>
    { state with
      deal := some ⟨event.volume, event.price, event.closePrice, event.profit, event.commission,
        event.swap, event.fee⟩ }

/-- The events one after the other, each on its own ticket. -/
def replay (states : String → TicketState) (events : List RawEvent) : String → TicketState :=
  events.foldl (fun states event =>
    Function.update states event.ticket ((states event.ticket).apply event)) states

/-- The tickets of a snapshot, before any deal is new. -/
def ticketStates (snapshot : Snapshot) (ticket : String) : TicketState :=
  { position := (snapshot.positions.get? ticket).map PositionRow.levels
    order := (snapshot.orders.get? ticket).map OrderRow.levels }

/-- What the tickets have become in the current snapshot. -/
def becomes (previous current : Snapshot) (ticket : String) : TicketState :=
  { ticketStates current ticket with
    deal := if ticket ∈ previous.deals.keys then none
      else (current.deals.get? ticket).map DealRow.economics }

/-- The adapter lists a deal under its own ticket. -/
def DealsKeyed (snapshot : Snapshot) : Prop :=
  ∀ key deal, snapshot.deals.get? key = some deal → deal.ticket.getD key = key

theorem replay_apply (states : String → TicketState) (events : List RawEvent) (ticket : String) :
    replay states events ticket =
      (events.filter fun event => event.ticket = ticket).foldl TicketState.apply (states ticket) := by
  induction events generalizing states with
  | nil => rfl
  | cons event rest ih =>
    have hstep : replay states (event :: rest) = replay (Function.update states event.ticket
      ((states event.ticket).apply event)) rest := rfl
    rw [hstep, ih]
    by_cases hticket : event.ticket = ticket
    · subst hticket
      simp
    · have hne : ticket ≠ event.ticket := fun h => hticket h.symm
      simp [hticket, Function.update_of_ne hne]

section Tickets

variable {previous current : Snapshot} {ticket : String}

theorem nodup_sortedKeys {keys : List String} (h : keys.Nodup) : (sortedKeys keys).Nodup :=
  (List.perm_insertionSort (· ≤ ·) keys).nodup_iff.mpr h

/-- The events of one ticket in a pass that goes through the tickets one by one. -/
theorem filter_pass {keys : List String} {events : String → List RawEvent} (hnodup : keys.Nodup)
    (hown : ∀ key ∈ keys, ∀ event ∈ events key, event.ticket = key)
    (hnone : ticket ∉ keys → events ticket = []) :
    (((sortedKeys keys).flatMap events).filter fun event => event.ticket = ticket) =
      events ticket := by
  have hgeneral : ∀ sorted : List String, sorted.Nodup → (∀ key ∈ sorted, key ∈ keys) →
      ((sorted.flatMap events).filter fun event => event.ticket = ticket) =
        if ticket ∈ sorted then events ticket else [] := by
    intro sorted
    induction sorted with
    | nil => simp
    | cons key rest ih =>
      intro hsorted hmem
      obtain ⟨hfresh, hrest⟩ := List.nodup_cons.mp hsorted
      have htail := ih hrest fun other hother => hmem other (List.mem_cons_of_mem _ hother)
      have hkey := hown key (hmem key List.mem_cons_self)
      rw [List.flatMap_cons, List.filter_append, htail]
      by_cases heq : key = ticket
      · subst heq
        have hall : ((events key).filter fun event => event.ticket = key) = events key :=
          List.filter_eq_self.mpr fun event hevent => decide_eq_true (hkey event hevent)
        rw [hall, if_neg hfresh, if_pos List.mem_cons_self, List.append_nil]
      · have hnil : ((events key).filter fun event => event.ticket = ticket) = [] := by
          rw [List.filter_eq_nil_iff]
          intro event hevent hticket
          exact heq ((hkey event hevent).symm.trans (of_decide_eq_true hticket))
        have hiff : ticket ∈ key :: rest ↔ ticket ∈ rest := by
          rw [List.mem_cons, or_iff_right fun h => heq h.symm]
        rw [hnil, List.nil_append]
        simp only [hiff]
  rw [hgeneral _ (nodup_sortedKeys hnodup) fun key hkey => mem_sortedKeys.mp hkey]
  simp only [mem_sortedKeys]
  split
  · rfl
  next habsent => exact (hnone habsent).symm

/-- The rows of a dictionary give the events of their own tickets, apart from those that the pass
skips. -/
theorem filter_rows_unless {ρ : Type} (rows : OrderedDict String ρ) (skipped : String → Prop)
    [DecidablePred skipped] {events : String → ρ → List RawEvent}
    (hown : ∀ key row, rows.get? key = some row → ∀ event ∈ events key row, event.ticket = key) :
    (((sortedKeys rows.keys).flatMap fun key => if skipped key then []
      else ((rows.get? key).map (events key)).getD []).filter fun event => event.ticket = ticket) =
      if skipped ticket then [] else ((rows.get? ticket).map (events ticket)).getD [] := by
  refine @filter_pass ticket rows.keys (fun key => if skipped key then [] else
    ((rows.get? key).map (events key)).getD []) rows.nodup (fun key hkey event hevent => ?_)
    fun hnone => ?_
  · split at hevent
    · cases hevent
    · obtain ⟨row, hrow⟩ := OrderedDict.exists_get?_of_mem hkey
      rw [hrow] at hevent
      exact hown key row hrow event hevent
  · split
    · rfl
    · rw [OrderedDict.get?_eq_none_iff.mpr hnone]
      rfl

theorem filter_rows {ρ : Type} (rows : OrderedDict String ρ) {events : String → ρ → List RawEvent}
    (hown : ∀ key row, rows.get? key = some row → ∀ event ∈ events key row, event.ticket = key) :
    (((sortedKeys rows.keys).flatMap fun key => ((rows.get? key).map (events key)).getD []).filter
      fun event => event.ticket = ticket) = ((rows.get? ticket).map (events ticket)).getD [] := by
  have h := @filter_rows_unless ticket ρ rows (fun _ => False) _ events hown
  simp only [if_false] at h
  exact h

theorem openedOrModified_ticket (pos : PositionRow) :
    ∀ event ∈ openedOrModified previous ticket pos, event.ticket = ticket := by
  intro event hevent
  unfold openedOrModified at hevent
  split at hevent
  · rw [List.mem_singleton.mp hevent]
    rfl
  · rcases List.mem_append.mp hevent with h | h
    · split at h
      · rw [List.mem_singleton.mp h]
        rfl
      · cases h
    · split at h
      · rw [List.mem_singleton.mp h]
        rfl
      · cases h

theorem createdOrModified_ticket (order : OrderRow) :
    ∀ event ∈ createdOrModified previous ticket order, event.ticket = ticket := by
  intro event hevent
  unfold createdOrModified at hevent
  split at hevent
  · rw [List.mem_singleton.mp hevent]
    rfl
  · split at hevent
    · rw [List.mem_singleton.mp hevent]
      rfl
    · cases hevent

/-- The events of one ticket, pass by pass. -/
def ticketEvents (previous current : Snapshot) (ticket : String) : List RawEvent :=
  ((current.positions.get? ticket).map (openedOrModified previous ticket)).getD [] ++
    (if ticket ∈ current.positions.keys then []
      else ((previous.positions.get? ticket).map fun pos =>
        [closedEvent ticket pos (findClosingDeal current.deals ticket)]).getD []) ++
    (((current.orders.get? ticket).map (createdOrModified previous ticket)).getD [] ++
      if ticket ∈ current.orders.keys ∨ ticket ∈ current.positions.keys then []
      else ((previous.orders.get? ticket).map fun order =>
        [orderEvent .pendingOrderCancelled ticket order]).getD []) ++
    (match previous.positions.get? ticket, current.positions.get? ticket with
      | some old, some new => if old.volume ≠ new.volume then [volumeChangedEvent ticket new old]
        else []
      | _, _ => []) ++
    if ticket ∈ previous.deals.keys then []
      else ((current.deals.get? ticket).map fun deal => [dealRecordedEvent ticket deal]).getD []

theorem filter_volumeChanges : ((detectVolumeChanges previous current).filter fun event =>
    event.ticket = ticket) =
      match previous.positions.get? ticket, current.positions.get? ticket with
      | some old, some new => if old.volume ≠ new.volume then [volumeChangedEvent ticket new old]
        else []
      | _, _ => [] := by
  refine filter_pass (previous.positions.nodup.filter _) (fun key _ event hevent => ?_)
    fun hnone => ?_
  · split at hevent
    · split at hevent
      · rw [List.mem_singleton.mp hevent]
        rfl
      · cases hevent
    · cases hevent
  · split
    next old new hold hnew =>
      have hmem : ∀ {rows : OrderedDict String PositionRow} {row : PositionRow},
          rows.get? ticket = some row → ticket ∈ rows.keys := by
        intro rows row hrow
        exact OrderedDict.isSome_get?_iff.mp (by rw [hrow]; rfl)
      exact absurd (List.mem_filter.mpr ⟨hmem hold, by simpa using hmem hnew⟩) hnone
    next => rfl

theorem filter_newDeals (hkeyed : DealsKeyed current) : ((detectNewDeals previous current).filter
    fun event => event.ticket = ticket) = if ticket ∈ previous.deals.keys then []
      else ((current.deals.get? ticket).map fun deal => [dealRecordedEvent ticket deal]).getD [] := by
  have hpass : detectNewDeals previous current =
      (sortedKeys (current.deals.keys.filter (· ∉ previous.deals.keys))).flatMap fun key =>
        if key ∈ previous.deals.keys then []
        else ((current.deals.get? key).map fun deal => [dealRecordedEvent key deal]).getD [] := by
    unfold detectNewDeals
    apply List.flatMap_congr
    intro key hkey
    have hnew := (List.mem_filter.mp (mem_sortedKeys.mp hkey)).2
    rw [if_neg (of_decide_eq_true hnew)]
  rw [hpass]
  refine @filter_pass ticket _ (fun key => if key ∈ previous.deals.keys then []
    else ((current.deals.get? key).map fun deal => [dealRecordedEvent key deal]).getD [])
    (current.deals.nodup.filter _) (fun key _ event hevent => ?_) fun hnone => ?_
  · split at hevent
    · cases hevent
    · cases hrow : current.deals.get? key with
      | none =>
        rw [hrow] at hevent
        cases hevent
      | some deal =>
        rw [hrow] at hevent
        rw [List.mem_singleton.mp hevent]
        exact hkeyed key deal hrow
  · split
    · rfl
    next hnew =>
      have habsent : ticket ∉ current.deals.keys := by
        intro hmem
        exact hnone (List.mem_filter.mpr ⟨hmem, by simpa using hnew⟩)
      rw [OrderedDict.get?_eq_none_iff.mpr habsent]
      rfl

/-- What a diff says about one ticket. -/
theorem filter_detectWindowsEvents (hkeyed : DealsKeyed current) :
    ((detectWindowsEvents previous current).filter fun event => event.ticket = ticket) =
      ticketEvents previous current ticket := by
  have hopened := @filter_rows ticket _ current.positions (openedOrModified previous)
    fun key row _ => openedOrModified_ticket row
  have hclosed := @filter_rows_unless ticket _ previous.positions (· ∈ current.positions.keys) _
    (fun key pos => [closedEvent key pos (findClosingDeal current.deals key)])
    fun key row _ event hevent => by rw [List.mem_singleton.mp hevent]; rfl
  have hcreated := @filter_rows ticket _ current.orders (createdOrModified previous)
    fun key row _ => createdOrModified_ticket row
  have hcancelled := @filter_rows_unless ticket _ previous.orders
    (fun key => key ∈ current.orders.keys ∨ key ∈ current.positions.keys) _
    (fun key order => [orderEvent .pendingOrderCancelled key order])
    fun key row _ event hevent => by rw [List.mem_singleton.mp hevent]; rfl
  unfold detectWindowsEvents detectEvents detectTradeOpenedAndModified detectTradeClosed
    detectPendingOrderEvents ticketEvents
  simp only [List.filter_append]
  rw [hopened, hclosed, hcreated, hcancelled, filter_volumeChanges, filter_newDeals hkeyed]

/-- A pending order under the ticket of an open position: executed in part. Either it stays
pending while the position opens, or it goes while the position was open already. -/
def PartlyExecuted (previous current : Snapshot) (ticket : String) : Prop :=
  ticket ∈ previous.orders.keys ∧ ticket ∈ current.positions.keys ∧
    (ticket ∈ current.orders.keys ↔ ticket ∉ previous.positions.keys)

/-- The positions after the pass over openings and levels. -/
theorem replay_opened (state : TicketState)
    (hstate : state.position = (previous.positions.get? ticket).map PositionRow.levels) :
    (((current.positions.get? ticket).map (openedOrModified previous ticket)).getD []).foldl
        TicketState.apply state =
      { state with
        position := match previous.positions.get? ticket, current.positions.get? ticket with
          | some old, some new => some ⟨old.volume, new.stopLoss, new.takeProfit⟩
          | none, some new => some new.levels
          | old, none => old.map PositionRow.levels
        order := match previous.positions.get? ticket, current.positions.get? ticket with
          | none, some _ => none
          | _, _ => state.order } := by
  obtain ⟨position, order, deal⟩ := state
  simp only at hstate
  subst hstate
  cases hnew : current.positions.get? ticket with
  | none => cases previous.positions.get? ticket <;> simp
  | some new =>
    cases hold : previous.positions.get? ticket with
    | none => simp [openedOrModified, hold, TicketState.apply, openedEvent, PositionRow.levels]
    | some old =>
      by_cases hstop : new.stopLoss = old.stopLoss
      · by_cases htake : new.takeProfit = old.takeProfit
        · simp [openedOrModified, hold, hstop, htake, PositionRow.levels]
        · simp [openedOrModified, hold, hstop, htake, PositionRow.levels, TicketState.apply,
            modifiedEvent]
      · by_cases htake : new.takeProfit = old.takeProfit
        · simp [openedOrModified, hold, hstop, htake, PositionRow.levels, TicketState.apply,
            modifiedEvent]
        · simp [openedOrModified, hold, hstop, htake, PositionRow.levels, TicketState.apply,
            modifiedEvent]

theorem mem_keys_iff {ρ : Type} {rows : OrderedDict String ρ} :
    ticket ∈ rows.keys ↔ (rows.get? ticket).isSome = true := OrderedDict.isSome_get?_iff.symm

theorem replay_closed (state : TicketState) :
    (if ticket ∈ current.positions.keys then []
      else ((previous.positions.get? ticket).map fun pos =>
        [closedEvent ticket pos (findClosingDeal current.deals ticket)]).getD []).foldl
        TicketState.apply state =
      { state with
        position := match previous.positions.get? ticket, current.positions.get? ticket with
          | some _, none => none
          | _, _ => state.position } := by
  simp only [mem_keys_iff]
  cases current.positions.get? ticket with
  | none =>
    cases previous.positions.get? ticket with
    | none => simp
    | some old => simp [TicketState.apply, closedEvent]
  | some new => cases previous.positions.get? ticket <;> simp

theorem replay_orders (state : TicketState) :
    (((current.orders.get? ticket).map (createdOrModified previous ticket)).getD []).foldl
        TicketState.apply state =
      { state with
        order := match previous.orders.get? ticket, current.orders.get? ticket with
          | none, some new => some new.levels
          | some old, some new =>
            if new.levels = old.levels then state.order else state.order.map fun _ => new.levels
          | _, none => state.order } := by
  cases hnew : current.orders.get? ticket with
  | none => cases previous.orders.get? ticket <;> simp
  | some new =>
    cases hold : previous.orders.get? ticket with
    | none =>
      simp [createdOrModified, hold, TicketState.apply, orderEvent, OrderRow.levels]
    | some old =>
      have hlevels : (new.price ≠ old.price ∨ new.stopLoss ≠ old.stopLoss ∨
          new.takeProfit ≠ old.takeProfit) ↔ ¬ new.levels = old.levels := by
        simp only [OrderRow.levels, OrderLevels.mk.injEq]
        tauto
      have hevents : createdOrModified previous ticket new =
          if new.levels = old.levels then [] else [orderModifiedEvent ticket new old] := by
        unfold createdOrModified
        rw [hold]
        by_cases hsame : new.levels = old.levels
        · exact (if_neg fun h => hlevels.mp h hsame).trans (if_pos hsame).symm
        · exact (if_pos (hlevels.mpr hsame)).trans (if_neg hsame).symm
      rw [Option.map_some, Option.getD_some, hevents]
      by_cases hsame : new.levels = old.levels
      · simp only [if_pos hsame, List.foldl_nil]
      · simp only [if_neg hsame, List.foldl_cons, List.foldl_nil]
        rfl

theorem replay_cancelled (state : TicketState) :
    (if ticket ∈ current.orders.keys ∨ ticket ∈ current.positions.keys then []
      else ((previous.orders.get? ticket).map fun order =>
        [orderEvent .pendingOrderCancelled ticket order]).getD []).foldl TicketState.apply state =
      { state with
        order := match previous.orders.get? ticket, current.orders.get? ticket,
            current.positions.get? ticket with
          | some _, none, none => none
          | _, _, _ => state.order } := by
  simp only [mem_keys_iff]
  cases current.orders.get? ticket with
  | none =>
    cases current.positions.get? ticket with
    | none =>
      cases previous.orders.get? ticket with
      | none => simp
      | some old => simp [TicketState.apply, orderEvent]
    | some pos => cases previous.orders.get? ticket <;> simp
  | some new => cases previous.orders.get? ticket <;> simp

theorem replay_volume (state : TicketState) :
    (match previous.positions.get? ticket, current.positions.get? ticket with
      | some old, some new => if old.volume ≠ new.volume then [volumeChangedEvent ticket new old]
        else []
      | _, _ => []).foldl TicketState.apply state =
      { state with
        position := match previous.positions.get? ticket, current.positions.get? ticket with
          | some old, some new =>
            if old.volume = new.volume then state.position
            else state.position.map fun position => { position with volume := new.volume }
          | _, _ => state.position } := by
  cases previous.positions.get? ticket with
  | none => simp
  | some old =>
    cases current.positions.get? ticket with
    | none => simp
    | some new =>
      by_cases hsame : old.volume = new.volume
      · simp [hsame]
      · simp [hsame, TicketState.apply, volumeChangedEvent]

theorem replay_deals (state : TicketState) (hnone : state.deal = none) :
    (if ticket ∈ previous.deals.keys then []
      else ((current.deals.get? ticket).map fun deal => [dealRecordedEvent ticket deal]).getD []).foldl
        TicketState.apply state =
      { state with
        deal := if ticket ∈ previous.deals.keys then none
          else (current.deals.get? ticket).map DealRow.economics } := by
  obtain ⟨position, order, deal⟩ := state
  simp only at hnone
  subst hnone
  by_cases hold : ticket ∈ previous.deals.keys
  · simp [hold]
  · cases current.deals.get? ticket with
    | none => simp [hold]
    | some deal => simp [hold, TicketState.apply, dealRecordedEvent, DealRow.economics]

/-- What the order of a ticket has become after the replay. -/
def replayedOrder (previous current : Snapshot) (ticket : String) : Option OrderLevels :=
  match previous.orders.get? ticket, current.orders.get? ticket with
  | none, new => new.map OrderRow.levels
  | some _, some new =>
    match previous.positions.get? ticket, current.positions.get? ticket with
    | none, some _ => none
    | _, _ => some new.levels
  | some old, none =>
    match previous.positions.get? ticket, current.positions.get? ticket with
    | some _, some _ => some old.levels
    | _, _ => none

/-- Levels that stay are those of the new row as well. -/
theorem keep_or_new {α β : Type} [DecidableEq α] {old new : α} (f : α → β) :
    (if new = old then f old else f new) = f new := by
  by_cases hsame : new = old
  · rw [if_pos hsame, hsame]
  · rw [if_neg hsame]

theorem keep_or_new_volume {old new : PositionRow} :
    (if old.volume = new.volume then
      some (PositionLevels.mk old.volume new.stopLoss new.takeProfit)
    else some ⟨new.volume, new.stopLoss, new.takeProfit⟩) = some new.levels := by
  by_cases hsame : old.volume = new.volume
  · rw [if_pos hsame, hsame]
    rfl
  · rw [if_neg hsame]
    rfl

/-- The replay of a diff, ticket by ticket. -/
theorem replay_diff (hkeyed : DealsKeyed current) :
    replay (ticketStates previous) (detectWindowsEvents previous current) ticket =
      { becomes previous current ticket with order := replayedOrder previous current ticket } := by
  rw [replay_apply, filter_detectWindowsEvents hkeyed]
  unfold ticketEvents
  simp only [List.foldl_append]
  rw [replay_opened (ticketStates previous ticket) rfl, replay_closed, replay_orders,
    replay_cancelled, replay_volume, replay_deals _ rfl]
  unfold becomes ticketStates replayedOrder
  cases hold : previous.positions.get? ticket with
  | none =>
    cases hnew : current.positions.get? ticket with
    | none =>
      cases previous.orders.get? ticket <;> cases current.orders.get? ticket <;>
        simp only [Option.map_none, Option.map_some, keep_or_new some]
    | some new =>
      cases previous.orders.get? ticket <;> cases current.orders.get? ticket <;>
        simp only [Option.map_none, Option.map_some, ite_self]
  | some old =>
    cases hnew : current.positions.get? ticket with
    | none =>
      cases previous.orders.get? ticket <;> cases current.orders.get? ticket <;>
        simp only [Option.map_none, Option.map_some, keep_or_new some]
    | some new =>
      cases previous.orders.get? ticket <;> cases current.orders.get? ticket <;>
        simp only [Option.map_none, Option.map_some, keep_or_new some, keep_or_new_volume]

theorem replayedOrder_eq_iff :
    replayedOrder previous current ticket = (current.orders.get? ticket).map OrderRow.levels ↔
      ¬ PartlyExecuted previous current ticket := by
  unfold replayedOrder PartlyExecuted
  simp only [mem_keys_iff]
  cases previous.orders.get? ticket with
  | none => simp
  | some oldOrder =>
    cases current.orders.get? ticket with
    | none =>
      cases previous.positions.get? ticket <;> cases current.positions.get? ticket <;> simp
    | some newOrder =>
      cases previous.positions.get? ticket <;> cases current.positions.get? ticket <;> simp

end Tickets

/-- The replay of the diff on the previous snapshot gives the current one, and nothing is
reported of a snapshot that has not changed. -/
def DiffExact (previous current : Snapshot) : Prop :=
  (∀ ticket, replay (ticketStates previous) (detectWindowsEvents previous current) ticket =
    becomes previous current ticket) ∧
  detectWindowsEvents previous previous = [] ∧ detectWindowsEvents current current = []

/-- A diff is exact exactly if no pending order is executed in part. -/
theorem diff_exact_iff (previous current : Snapshot) (hkeyed : DealsKeyed current) :
    DiffExact previous current ↔ ∀ ticket, ¬ PartlyExecuted previous current ticket := by
  unfold DiffExact
  rw [detectWindowsEvents_self, detectWindowsEvents_self]
  simp only [and_true]
  refine forall_congr' fun ticket => ?_
  rw [replay_diff hkeyed, ← replayedOrder_eq_iff]
  constructor
  · intro h
    exact congrArg TicketState.order h
  · intro h
    rw [h]
    rfl

/-- A position and the rest of the pending order it comes from. -/
def partlyFilled : Snapshot where
  positions := OrderedDict.empty.set "7" { ticket := some "7", volume := some 1 }
  orders := OrderedDict.empty.set "7" { ticket := some "7", price := some 2, volume := some 1 }

/-- The same position after the rest of the order was cancelled. -/
def restCancelled : Snapshot := { partlyFilled with orders := ∅ }

theorem diff_exact_iff_partlyFilled : DiffExact partlyFilled restCancelled ↔
    ∀ ticket, ¬ PartlyExecuted partlyFilled restCancelled ticket :=
  diff_exact_iff _ _ fun key deal h => by cases h

/-- Nothing is reported, although an order is gone. -/
theorem restCancelled_unreported : detectWindowsEvents partlyFilled restCancelled = [] ∧
    ¬ DiffExact partlyFilled restCancelled := by
  have hnothing : detectWindowsEvents partlyFilled restCancelled = [] := by decide +kernel
  refine ⟨hnothing, fun h => ?_⟩
  have horder := congrArg TicketState.order (h.1 "7")
  rw [hnothing] at horder
  revert horder
  decide +kernel

end TradeJournalWorker
