import TradeJournalWorker.ExcursionStability
import TradeJournalWorker.RunningPeak
import TradeJournalWorker.TrackedPolls

namespace TradeJournalWorker

open RunningPeak

/-- One observed price of a position, with the open price in force, the sign of its direction
and the symbol point that the observation carries. -/
structure Sighting where
  price : Rat
  openPrice : Rat
  factor : Rat
  point : Option Rat
  deriving DecidableEq, Repr

namespace Sighting

def favorable (sighting : Sighting) : Rat :=
  (sighting.price - sighting.openPrice) * sighting.factor

def adverse (sighting : Sighting) : Rat := -sighting.favorable

def positivePoint (sighting : Sighting) : Option Rat := sighting.point.filter (0 < ·)

end Sighting

/-- What is known of a position. `known` says whether anything was learned of it at all. -/
structure Terms where
  known : Bool := false
  direction : Option String := none
  openPrice : Option Rat := none
  point : Option Rat := none
  deriving DecidableEq, Repr

/-- What has been seen of a position, the newest sighting first. -/
structure Watch extends Terms where
  sightings : List Sighting := []
  deriving DecidableEq, Repr

def RawEvent.opensPosition (ticket : String) (event : RawEvent) : Prop :=
  event.eventType = .tradeOpened ∧ event.ticket ≠ "" ∧ event.ticket = ticket

def RawEvent.closesPosition (ticket : String) (event : RawEvent) : Prop :=
  event.eventType = .tradeClosed ∧ event.ticket ≠ "" ∧ event.ticket = ticket

instance (ticket : String) (event : RawEvent) : Decidable (event.opensPosition ticket) :=
  inferInstanceAs (Decidable (_ ∧ _ ∧ _))

instance (ticket : String) (event : RawEvent) : Decidable (event.closesPosition ticket) :=
  inferInstanceAs (Decidable (_ ∧ _ ∧ _))

/-- A row that says anything of its position. -/
def PositionRow.informs (row : PositionRow) : Bool :=
  row.symbol.isSome || row.direction.isSome || row.openPrice.isSome || row.point.isSome ||
    row.digits.isSome

namespace Terms

/-- The sighting that a price makes under these terms. -/
def sighting (terms : Terms) (price : Option Rat) (direction : Option String)
    (point : Option Rat) : List Sighting :=
  match terms.openPrice, price with
  | some openPrice, some price =>
    [{ price, openPrice, factor := directionFactor direction, point }]
  | _, _ => []

/-- An opening tells what is not known yet. -/
def opening (terms : Terms) (event : RawEvent) : Terms :=
  { terms with
    known := true
    direction := terms.direction.or event.direction
    openPrice := terms.openPrice.or event.openPrice }

/-- What a row tells replaces what was known. -/
def told (terms : Terms) (row : PositionRow) : Terms :=
  { known := terms.known || row.informs
    direction := row.direction.or terms.direction
    openPrice := row.openPrice.or terms.openPrice
    point := row.point.or terms.point }

def rowSighting (terms : Terms) (row : PositionRow) : List Sighting :=
  terms.sighting row.currentPrice terms.direction row.point

/-- The close price is the last observed price. -/
def closeSighting (terms : Terms) (event : RawEvent) : List Sighting :=
  terms.sighting event.closePrice (pyOr terms.direction event.direction) terms.point

end Terms

namespace Watch

def opening (watch : Watch) (event : RawEvent) : Watch :=
  { watch with toTerms := watch.toTerms.opening event }

def row (watch : Watch) (row : PositionRow) : Watch :=
  { toTerms := watch.toTerms.told row
    sightings := (watch.toTerms.told row).rowSighting row ++ watch.sightings }

def closing (watch : Watch) (event : RawEvent) : Watch :=
  { watch with sightings := watch.toTerms.closeSighting event ++ watch.sightings }

def openings (ticket : String) (events : List RawEvent) (watch : Watch) : Watch :=
  events.foldl (fun watch event =>
    if event.opensPosition ticket then watch.opening event else watch) watch

def rows (ticket : String) (snapshot : Snapshot) (watch : Watch) : Watch :=
  snapshot.positions.entries.foldl (fun watch entry =>
    if observedTicket entry.1 entry.2 = ticket then watch.row entry.2 else watch) watch

/-- The watch after the closing events of a batch. -/
def closings (ticket : String) (events : List RawEvent) (watch : Watch) : Watch :=
  events.foldl (fun watch event =>
    if event.closesPosition ticket then watch.closing event else watch) watch

/-- The maximum of zero and the largest distance, once a price was observed. -/
def largest (distance : Sighting → Rat) (watch : Watch) : Option Rat :=
  if watch.sightings = [] then none else some (peak (watch.sightings.map distance))

/-- The largest distance in points as it stood at the last sighting with a positive point. -/
def measured (distance : Sighting → Rat) : List Sighting → Option Rat
  | [] => none
  | sighting :: earlier =>
    match sighting.positivePoint with
    | some point => some (peak ((sighting :: earlier).map distance) / point)
    | none => measured distance earlier

/-- The symbol point that the last sighting carries. -/
def symbolPoint (watch : Watch) : Option Rat := watch.sightings.head?.bind Sighting.positivePoint

/-- The last sighting carries a positive point, or no sighting does. -/
def PointCarried (watch : Watch) : Prop :=
  watch.symbolPoint = none → ∀ sighting ∈ watch.sightings, sighting.positivePoint = none

instance (watch : Watch) : Decidable watch.PointCarried :=
  inferInstanceAs (Decidable (_ → _))

end Watch

/-- The record of the tracker says what was seen of the position. -/
structure Shown (watch : Watch) (state : ExcursionState) : Prop where
  known : watch.known = true ↔ state ≠ {}
  direction : state.direction = watch.direction
  openPrice : state.openPrice = watch.openPrice
  point : state.point = watch.point
  mfe : state.mfePriceDelta = watch.largest Sighting.favorable
  mae : state.maePriceDelta = watch.largest Sighting.adverse
  mfePoints : state.mfePoints = Watch.measured Sighting.favorable watch.sightings
  maePoints : state.maePoints = Watch.measured Sighting.adverse watch.sightings
  samples : state.samples.getD 0 = watch.sightings.length

theorem shown_nothing : Shown {} {} where
  known := by simp
  direction := rfl
  openPrice := rfl
  point := rfl
  mfe := rfl
  mae := rfl
  mfePoints := rfl
  maePoints := rfl
  samples := rfl

theorem largest_getD (distance : Sighting → Rat) (watch : Watch) :
    (watch.largest distance).getD 0 = peak (watch.sightings.map distance) := by
  unfold Watch.largest
  split
  next h => simp [h]
  next => rfl

section States

variable {watch : Watch} {state : ExcursionState}

theorem ne_nothing_of_samples {count : Nat} (h : state.samples = some count) : state ≠ {} := by
  intro hempty
  rw [hempty] at h
  cases h

theorem ne_nothing_of_openPrice {price : Rat} (h : state.openPrice = some price) :
    state ≠ {} := by
  intro hempty
  rw [hempty] at h
  cases h

theorem Shown.opening (h : Shown watch state) (event : RawEvent) :
    Shown (watch.opening event) (state.opened event) where
  known := ⟨fun _ => ne_nothing_of_samples rfl, fun _ => rfl⟩
  direction := congrArg (·.or event.direction) h.direction
  openPrice := congrArg (·.or event.openPrice) h.openPrice
  point := h.point
  mfe := h.mfe
  mae := h.mae
  mfePoints := h.mfePoints
  maePoints := h.maePoints
  samples := h.samples

/-- The delta that `_observe_value` keeps is the peak of the sightings with the new one. -/
theorem raised_delta {distance : Sighting → Rat} {delta : Option Rat}
    (hdelta : delta = watch.largest distance) (sighting : Sighting) :
    (if delta.getD 0 ≤ max 0 (distance sighting) then some (max 0 (distance sighting))
      else delta) = some (peak ((sighting :: watch.sightings).map distance)) := by
  have hkept := peak_update (distance sighting) (watch.sightings.map distance)
  rw [← largest_getD distance watch] at hkept
  rw [hdelta, List.map_cons, ← hkept]
  split
  next => rfl
  next hlow =>
    unfold Watch.largest at hlow ⊢
    split
    next hnone =>
      rw [if_pos hnone] at hlow
      exact absurd (le_max_left 0 (distance sighting)) hlow
    next => rfl

theorem withPoints_eq (state : ExcursionState) (point : Option Rat) :
    state.withPoints point = { state with
      mfePoints := match point.filter (0 < ·) with
        | some point => some (state.mfePriceDelta.getD 0 / point)
        | none => state.mfePoints
      maePoints := match point.filter (0 < ·) with
        | some point => some (state.maePriceDelta.getD 0 / point)
        | none => state.maePoints } := by
  unfold ExcursionState.withPoints
  cases point with
  | none => rfl
  | some point =>
    by_cases hpos : 0 < point
    · have hfilter : (some point).filter (0 < ·) = some point := by simp [Option.filter, hpos]
      simp only [if_pos hpos, hfilter]
    · have hfilter : (some point).filter (0 < ·) = none := by simp [Option.filter, hpos]
      simp only [if_neg hpos, hfilter]

theorem withMoney_eq (state : ExcursionState) (profit : Option Rat) :
    state.withMoney profit = { state with
      mfeMoney := match profit with
        | some profit => some (max (max (state.mfeMoney.getD 0) profit) 0)
        | none => state.mfeMoney
      maeMoney := match profit with
        | some profit => some (max (max (state.maeMoney.getD 0) (-profit)) 0)
        | none => state.maeMoney } := by
  cases profit with
  | none => rfl
  | some profit => rfl

/-- What `_observe_value` does to the excursions, apart from times and money. -/
theorem observeValue_eq (state : ExcursionState) (delta : Rat) (point profit : Option Rat)
    (observedAt : String) :
    ∃ mfeAt maeAt mfeMoney maeMoney,
      let mfe := if state.mfePriceDelta.getD 0 ≤ max 0 delta then some (max 0 delta)
        else state.mfePriceDelta
      let mae := if state.maePriceDelta.getD 0 ≤ max 0 (-delta) then some (max 0 (-delta))
        else state.maePriceDelta
      state.observeValue delta point profit observedAt =
        { ({ state with mfePriceDelta := mfe, maePriceDelta := mae } : ExcursionState).withPoints
            point with
          mfeAt, maeAt, mfeMoney, maeMoney, samples := some (state.samples.getD 0 + 1) } := by
  unfold ExcursionState.observeValue
  by_cases hfavorable : state.mfePriceDelta.getD 0 ≤ max 0 delta
  · by_cases hadverse : state.maePriceDelta.getD 0 ≤ max 0 (-delta)
    · simp only [if_pos hfavorable, if_pos hadverse, withMoney_eq, withPoints_eq]
      exact ⟨_, _, _, _, rfl⟩
    · simp only [if_pos hfavorable, if_neg hadverse, withMoney_eq, withPoints_eq]
      exact ⟨_, _, _, _, rfl⟩
  · by_cases hadverse : state.maePriceDelta.getD 0 ≤ max 0 (-delta)
    · simp only [if_neg hfavorable, if_pos hadverse, withMoney_eq, withPoints_eq]
      exact ⟨_, _, _, _, rfl⟩
    · simp only [if_neg hfavorable, if_neg hadverse, withMoney_eq, withPoints_eq]
      exact ⟨_, _, _, _, rfl⟩

/-- One observed value, with the record of the tracker and what was seen side by side. -/
theorem Shown.sighted (h : Shown watch state) (hknown : watch.known = true) (sighting : Sighting)
    (profit : Option Rat) (observedAt : String) :
    Shown { watch with sightings := sighting :: watch.sightings }
      (state.observeValue sighting.favorable sighting.point profit observedAt) := by
  have hmfe := raised_delta h.mfe sighting
  have hmae := raised_delta h.mae sighting
  have hadverse : -sighting.favorable = sighting.adverse := rfl
  obtain ⟨mfeAt, maeAt, mfeMoney, maeMoney, hnext⟩ :=
    observeValue_eq state sighting.favorable sighting.point profit observedAt
  simp only [hadverse, hmfe, hmae, withPoints_eq, Option.getD_some] at hnext
  rw [hnext]
  constructor
  · exact ⟨fun _ => ne_nothing_of_samples rfl, fun _ => hknown⟩
  · exact h.direction
  · exact h.openPrice
  · exact h.point
  · exact (if_neg (List.cons_ne_nil _ _)).symm
  · exact (if_neg (List.cons_ne_nil _ _)).symm
  · show (match sighting.positivePoint with | some point => _ | none => state.mfePoints) = _
    rw [h.mfePoints]
    rfl
  · show (match sighting.positivePoint with | some point => _ | none => state.maePoints) = _
    rw [h.maePoints]
    rfl
  · show state.samples.getD 0 + 1 = watch.sightings.length + 1
    rw [h.samples]

/-- A new price of a known position enters the record as it enters the watch. -/
theorem Shown.sight (h : Shown watch state) (price : Option Rat) (direction : Option String)
    (point profit : Option Rat) (observedAt : String) :
    Shown { watch with sightings := watch.toTerms.sighting price direction point ++ watch.sightings }
      (match state.openPrice, price with
        | some openPrice, some price =>
          state.observeValue ((price - openPrice) * directionFactor direction) point profit
            observedAt
        | _, _ => state) := by
  unfold Terms.sighting
  rw [h.openPrice]
  cases hprice : watch.openPrice with
  | none => exact h
  | some openPrice =>
    cases price with
    | none => exact h
    | some price =>
      have hknown := h.known.mpr (ne_nothing_of_openPrice (h.openPrice.trans hprice))
      exact h.sighted hknown ⟨price, openPrice, directionFactor direction, point⟩ profit observedAt

theorem fromPosition_nothing (row : PositionRow) :
    state.fromPosition row = {} ↔ state = {} ∧ row.informs = false := by
  unfold ExcursionState.fromPosition PositionRow.informs
  constructor
  · intro h
    simp only [ExcursionState.mk.injEq, Option.or_eq_none_iff] at h
    obtain ⟨⟨hs, hs'⟩, ⟨hd, hd'⟩, ⟨ho, ho'⟩, hb, ⟨hp, hp'⟩, ⟨hg, hg'⟩, hrest⟩ := h
    constructor
    · cases state
      simp only [ExcursionState.mk.injEq]
      exact ⟨hs', hd', ho', hb, hp', hg', hrest⟩
    · simp [hs, hd, ho, hp, hg]
  · intro ⟨hstate, hrow⟩
    simp only [Bool.or_eq_false_iff, Option.isSome_eq_false_iff, Option.isNone_iff_eq_none] at hrow
    obtain ⟨⟨⟨⟨hs, hd⟩, ho⟩, hp⟩, hg⟩ := hrow
    rw [hstate]
    simp [hs, hd, ho, hp, hg]

theorem Shown.told (h : Shown watch state) (row : PositionRow) :
    Shown { watch with toTerms := watch.toTerms.told row } (state.fromPosition row) where
  known := by
    have hknown := h.known
    have hnothing : state.fromPosition row = {} ↔ _ := fromPosition_nothing row
    show (watch.known || row.informs) = true ↔ _
    simp only [Bool.or_eq_true_iff, hknown, ne_eq, hnothing, not_and_or, Bool.not_eq_false]
  direction := congrArg row.direction.or h.direction
  openPrice := congrArg row.openPrice.or h.openPrice
  point := congrArg row.point.or h.point
  mfe := h.mfe
  mae := h.mae
  mfePoints := h.mfePoints
  maePoints := h.maePoints
  samples := h.samples

theorem Shown.closing (h : Shown watch state) (event : RawEvent) (now : String) :
    Shown (watch.closing event) (state.atClose event now) := by
  have hsight := h.sight event.closePrice (pyOr watch.direction event.direction) watch.point
    event.profit ((pyOr (pyOr event.closeTime event.eventTime) (some now)).getD "")
  rw [← h.direction, ← h.point] at hsight
  unfold Watch.closing Terms.closeSighting ExcursionState.atClose
  rw [← h.direction, ← h.point]
  exact hsight

end States

section Batches

variable {watch : Watch} {positions : Excursions} {ticket : String}

theorem Shown.openings (h : Shown watch (stateOf positions ticket)) (events : List RawEvent) :
    Shown (watch.openings ticket events)
      (stateOf (observeOpenEvents positions events).positions ticket) := by
  have hfold : ∀ (events : List RawEvent) (watch : Watch) (state : ExcursionState),
      Shown watch state → Shown (watch.openings ticket events) (openedState ticket events state) := by
    intro events
    induction events with
    | nil => exact fun watch state h => h
    | cons event rest ih =>
      intro watch state h
      apply ih
      show Shown (if event.opensPosition ticket then watch.opening event else watch)
        (if event.opensPosition ticket then state.opened event else state)
      split
      next => exact h.opening event
      next => exact h
  rw [stateOf_observeOpenEvents]
  exact hfold events watch _ h

theorem stateOf_observed_self (now : String) (entry : String × PositionRow) (observed : Observed) :
    stateOf (observePosition now observed entry).positions (observedTicket entry.1 entry.2) =
      let state := (stateOf observed.positions (observedTicket entry.1 entry.2)).fromPosition entry.2
      match state.openPrice, entry.2.currentPrice with
      | some openPrice, some price =>
        state.observeValue ((price - openPrice) * directionFactor state.direction) entry.2.point
          entry.2.floatingProfit now
      | _, _ => state := by
  unfold observePosition
  simp only
  cases ((stateOf observed.positions (observedTicket entry.1 entry.2)).fromPosition
      entry.2).openPrice with
  | none => simp only [stateOf_set, if_true]
  | some openPrice =>
    cases entry.2.currentPrice with
    | none => simp only [stateOf_set, if_true]
    | some price => simp only [stateOf_set, if_true]

theorem Shown.observed (now : String) (entry : String × PositionRow) {observed : Observed}
    (h : Shown watch (stateOf observed.positions ticket)) :
    Shown (if observedTicket entry.1 entry.2 = ticket then watch.row entry.2 else watch)
      (stateOf (observePosition now observed entry).positions ticket) := by
  split
  next hticket =>
    subst hticket
    rw [stateOf_observed_self]
    have htold := h.told entry.2
    have hsight := htold.sight entry.2.currentPrice (entry.2.direction.or watch.direction)
      entry.2.point entry.2.floatingProfit now
    simp only [htold.direction]
    exact hsight
  next hticket =>
    rw [stateOf_observePosition now observed entry hticket]
    exact h

theorem Shown.rows (h : Shown watch (stateOf positions ticket)) (snapshot : Snapshot)
    (now : String) :
    Shown (watch.rows ticket snapshot)
      (stateOf (observeSnapshot positions snapshot now).positions ticket) := by
  have hfold : ∀ (entries : List (String × PositionRow)) (watch : Watch) (observed : Observed),
      Shown watch (stateOf observed.positions ticket) →
      Shown (entries.foldl (fun watch entry =>
          if observedTicket entry.1 entry.2 = ticket then watch.row entry.2 else watch) watch)
        (stateOf (entries.foldl (observePosition now) observed).positions ticket) := by
    intro entries
    induction entries with
    | nil => exact fun watch observed h => h
    | cons entry rest ih => exact fun watch observed h => ih _ _ (h.observed now entry)
  exact hfold _ watch _ h

/-- The closing events up to one of them, as the watch and the tracker take them. -/
theorem Shown.closings (h : Shown watch (stateOf positions ticket)) (sampleMs : Nat)
    (now : String) (events : List RawEvent) :
    Shown (watch.closings ticket events)
      (stateOf (enrichCloseEvents sampleMs now positions events).positions ticket) := by
  have hfold : ∀ (events : List RawEvent) (watch : Watch) (enriched : Enriched),
      Shown watch (stateOf enriched.positions ticket) →
      Shown (watch.closings ticket events)
        (stateOf (events.foldl (enrichCloseEvent sampleMs now) enriched).positions ticket) := by
    intro events
    induction events with
    | nil => exact fun watch enriched h => h
    | cons event rest ih =>
      intro watch enriched h
      apply ih
      unfold enrichCloseEvent
      simp only
      by_cases hcloses : event.closesPosition ticket
      · obtain ⟨htype, hne, hticket⟩ := hcloses
        subst hticket
        rw [if_pos ⟨htype, hne, rfl⟩]
        have hclosing := h.closing event now
        split
        next =>
          simp only [stateOf_set, if_true]
          exact hclosing
        next hunknown =>
          have hnothing : stateOf enriched.positions event.ticket = {} := by
            by_contra hstate
            exact hunknown ⟨htype, hne, hstate⟩
          rw [hnothing] at hclosing ⊢
          exact hclosing
      · rw [if_neg hcloses]
        split
        next hother =>
          have hticket : ticket ≠ event.ticket := by
            intro heq
            exact hcloses ⟨hother.1, hother.2.1, heq.symm⟩
          simp only [stateOf_set, if_neg hticket]
          exact h
        next => exact h
  exact hfold events watch _ h

end Batches

end TradeJournalWorker
