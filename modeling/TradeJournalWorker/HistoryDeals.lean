import TradeJournalWorker.CommissionCosts

namespace TradeJournalWorker

/-- A row of `deals.json` with what its reader and the importer read of it beside the ledger:
the position, the direction and the type as they are spelled, and what `_parse_time` makes of
the time, in microseconds from 1970. -/
structure ExportedDeal extends LedgerRow where
  positionText : String
  directionText : Option String := none
  typeNumber : Option Int := none
  stopLoss : Option Rat := none
  takeProfit : Option Rat := none
  moment : Option Int := none
  positionStripped : positionId = String.ofList (pyStrip positionText)

abbrev ledgerRows (deals : List ExportedDeal) : List LedgerRow := deals.map (·.toLedgerRow)

/-- The rows that the reconstruction of an anchored ledger keeps. -/
def projectedRows (deals : List ExportedDeal) (anchor : LedgerAnchor) :
    List (ExportedDeal × ProjectedDeal) :=
  deals.zipIdx.filterMap fun deal =>
    (projectDeal (ledgerRows deals) anchor deal.1.toLedgerRow deal.2).map (deal.1, ·)

/-- The rows that are kept of a ledger without an anchor, as older bridges wrote it. -/
def legacyRows (deals : List ExportedDeal) : List (ExportedDeal × ProjectedDeal) :=
  (deals.filter fun deal => deal.positionId ≠ "" ∧ deal.positionId ≠ "0" ∧
    deal.symbol.any (fun symbol => pyStrip symbol ≠ []) ∧ deal.entry ∈ validEntries).map
  fun deal => (deal, { row := deal.toLedgerRow, projectAsTrade := true, volume := deal.volume,
                       commission := deal.commission })

/-- `_historical_deal_snapshot`. -/
def historicalDealSnapshot (deals : List ExportedDeal) :
    Option LedgerAnchor → List (ExportedDeal × ProjectedDeal)
  | some anchor => projectedRows deals anchor
  | none => legacyRows deals

/-- `_all_available_window`. -/
def allAvailableWindow (start : Int) : Bool := start ≤ 0

/-- The positions whose opening lies in the window. -/
def eligiblePositions (projected : List (ExportedDeal × ProjectedDeal)) (start stop : Int) :
    List String :=
  (projected.filter fun row => row.2.projectAsTrade ∧
    row.2.historyEventType = some .tradeOpened ∧
    row.1.moment.any fun moment =>
      allAvailableWindow start ∨ (start ≤ moment ∧ moment < stop)).map (·.1.positionText)

/-- The row belongs to the window. Where the rows have event types, that is decided by the
opening of the position, else by the row itself. -/
def keptInWindow (projected : List (ExportedDeal × ProjectedDeal)) (start stop : Int)
    (row : ExportedDeal × ProjectedDeal) : Bool :=
  let annotated := projected.any fun other => other.2.historyEventType.isSome
  let eligible := eligiblePositions projected start stop
  row.2.projectAsTrade ∧
    row.1.moment.any fun moment => (allAvailableWindow start ∨ moment < stop) ∧
      if annotated then row.1.positionText ∈ eligible else start ≤ moment

/-- `history_deals`. -/
def historyDeals (projected : List (ExportedDeal × ProjectedDeal)) (start stop : Int) :
    List (ExportedDeal × ProjectedDeal) :=
  projected.filter (keptInWindow projected start stop)

/-- The start of the `all_available` mode. -/
def allAvailableStart : Int := 0

theorem allAvailable_start : allAvailableWindow allAvailableStart = true := rfl

theorem map_projectedRows (deals : List ExportedDeal) (anchor : LedgerAnchor) :
    (projectedRows deals anchor).map Prod.snd =
      reconstructTradeDeals (ledgerRows deals) anchor := by
  unfold projectedRows reconstructTradeDeals ledgerRows
  rw [List.zipIdx_map, List.filterMap_map, List.map_filterMap]
  apply List.filterMap_congr
  intro deal _
  simp [Option.map_map, Function.comp_def]

section Emission

variable {deals : List ExportedDeal} {anchor : LedgerAnchor} {positionId : String}

theorem mem_projectedRows {row : ExportedDeal × ProjectedDeal} :
    row ∈ projectedRows deals anchor ↔ ∃ index, deals[index]? = some row.1 ∧
      projectDeal (ledgerRows deals) anchor row.1.toLedgerRow index = some row.2 := by
  unfold projectedRows
  rw [List.mem_filterMap]
  constructor
  · intro h
    obtain ⟨⟨deal, index⟩, hmem, hproject⟩ := h
    obtain ⟨item, hitem, heq⟩ := Option.map_eq_some_iff.mp hproject
    subst heq
    exact ⟨index, List.mem_zipIdx_iff_getElem?.mp hmem, hitem⟩
  · intro h
    obtain ⟨index, hget, hproject⟩ := h
    exact ⟨(row.1, index), List.mem_zipIdx_iff_getElem?.mpr hget, by rw [hproject]; rfl⟩

theorem getElem?_ledgerRows {index : Nat} {deal : ExportedDeal} (h : deals[index]? = some deal) :
    (ledgerRows deals)[index]? = some deal.toLedgerRow := by
  rw [List.getElem?_map, h]
  rfl

/-- The opening of a position, if the importer is shown it. -/
def ShownOpening (deals : List ExportedDeal) (positionId : String) (deal : ExportedDeal) : Prop :=
  deal.positionId = positionId ∧ UsableSymbol deal.toLedgerRow ∧ deal.moment.isSome = true ∧
    ∃ index, deals[index]? = some deal ∧ FirstEntry (ledgerRows deals) index deal.toLedgerRow

section Rows

variable {rows : List LedgerRow} {row : LedgerRow} {index : Nat} {item : ProjectedDeal}

/-- The marked rows are those of coherent positions. -/
theorem projectAsTrade_iff (hget : rows[index]? = some row)
    (hproject : projectDeal rows anchor row index = some item) :
    item.projectAsTrade = true ↔ CoherentPosition rows row.positionId := by
  obtain ⟨hposition, hvalid⟩ := projectable_of_projectDeal hproject
  have hnone : (analysePosition rows row.positionId).unsafeReason.isNone = true ↔
      CoherentPosition rows row.positionId := by
    rw [← safePosition_iff_coherent, Option.isNone_iff_eq_none]
    rfl
  rcases validEntries_cases hvalid with hopen | hleave
  · rw [(projectDeal_entry hproject hopen).1]
    exact hnone
  · have hexit := projectDeal_exit hproject hleave
    by_cases hreversal : row.entry = "INOUT"
    · rw [if_pos hreversal] at hexit
      rw [hexit.1]
      constructor
      · intro h
        cases h
      · intro hcoherent
        exact absurd hreversal
          (hcoherent.noReversal row (List.mem_of_getElem? hget) hposition rfl)
    · rw [if_neg hreversal] at hexit
      rw [hexit.1]
      exact hnone

/-- The openings of coherent positions are their first entries. -/
theorem tradeOpened_iff (hget : rows[index]? = some row)
    (hproject : projectDeal rows anchor row index = some item)
    (hcoherent : CoherentPosition rows row.positionId) :
    item.historyEventType = some .tradeOpened ↔ FirstEntry rows index row := by
  have hrow : item.row = row := projectDeal_row hproject
  have hitem : projectedAt rows anchor index = some item := by
    rw [projectedAt_iff, hrow]
    exact ⟨hget, hproject⟩
  have hsafe := safePosition_iff_coherent.mpr hcoherent
  have hkind := projectedAt_kind hitem
  rw [hrow] at hkind
  rcases hkind with hentry | hexit
  · rcases (entry_exact hsafe hitem (hrow ▸ hentry)).2.2 with ⟨hfirst, htype, -⟩ | ⟨hlater, htype, -⟩
    · rw [hrow] at hfirst
      exact iff_of_true htype hfirst
    · rw [hrow] at hlater
      rw [htype]
      exact iff_of_false (by simp) hlater
  · have htype := exit_exact hsafe hitem (hrow ▸ hexit)
    refine iff_of_false ?_ fun hfirst => not_exit_of_entry hfirst.entry hexit
    rw [htype]
    split <;> simp

/-- Some event type is there on every marked row. -/
theorem historyEventType_isSome (hget : rows[index]? = some row)
    (hproject : projectDeal rows anchor row index = some item)
    (hcoherent : CoherentPosition rows row.positionId) : item.historyEventType.isSome = true := by
  have hrow : item.row = row := projectDeal_row hproject
  have hitem : projectedAt rows anchor index = some item := by
    rw [projectedAt_iff, hrow]
    exact ⟨hget, hproject⟩
  have hsafe := safePosition_iff_coherent.mpr hcoherent
  have hkind := projectedAt_kind hitem
  rw [hrow] at hkind
  rcases hkind with hentry | hexit
  · rcases (entry_exact hsafe hitem (hrow ▸ hentry)).2.2 with ⟨-, htype, -⟩ | ⟨-, htype, -⟩
    · rw [htype]
      rfl
    · rw [htype]
      rfl
  · rw [exit_exact hsafe hitem (hrow ▸ hexit)]
    rfl

end Rows

/-- The positions whose opening the importer is shown, by the spelling of their id there. -/
theorem mem_eligiblePositions {text : String} {stop : Int} :
    text ∈ eligiblePositions (projectedRows deals anchor) allAvailableStart stop ↔
      ∃ deal, deal.positionText = text ∧
        CoherentPosition (ledgerRows deals) deal.positionId ∧
        ShownOpening deals deal.positionId deal := by
  unfold eligiblePositions
  rw [List.mem_map]
  simp only [allAvailable_start, true_or, decide_true, List.mem_filter, decide_eq_true_eq]
  constructor
  · intro h
    obtain ⟨row, ⟨hrow, hmarked, htype, hmoment⟩, htext⟩ := h
    obtain ⟨index, hget, hproject⟩ := mem_projectedRows.mp hrow
    have hledger := getElem?_ledgerRows hget
    have hcoherent := (projectAsTrade_iff hledger hproject).mp hmarked
    have hsymbol : UsableSymbol row.1.toLedgerRow := by
      unfold projectDeal at hproject
      split at hproject
      next h => exact (of_decide_eq_true h).2.1
      next => cases hproject
    refine ⟨row.1, htext, hcoherent, rfl, hsymbol, ?_, index, hget,
      (tradeOpened_iff hledger hproject hcoherent).mp htype⟩
    cases hcase : row.1.moment with
    | none =>
      rw [hcase] at hmoment
      cases hmoment
    | some moment => rfl
  · intro h
    obtain ⟨deal, htext, hcoherent, -, hsymbol, hmoment, index, hget, hfirst⟩ := h
    have hledger := getElem?_ledgerRows hget
    obtain ⟨item, hproject⟩ := @projectDeal_isSome (ledgerRows deals) anchor deal.toLedgerRow index
      (projectable_of_entry hfirst.entry hsymbol)
    refine ⟨(deal, item), ⟨mem_projectedRows.mpr ⟨index, hget, hproject⟩,
      (projectAsTrade_iff hledger hproject).mpr hcoherent,
      (tradeOpened_iff hledger hproject hcoherent).mpr hfirst, ?_⟩, htext⟩
    obtain ⟨moment, heq⟩ := Option.isSome_iff_exists.mp hmoment
    simp [heq]

/-- The rows that the importer is shown. -/
theorem mem_historyDeals {row : ExportedDeal × ProjectedDeal} {stop : Int} :
    row ∈ historyDeals (projectedRows deals anchor) allAvailableStart stop ↔
      row ∈ projectedRows deals anchor ∧
        CoherentPosition (ledgerRows deals) row.1.positionId ∧ row.1.moment.isSome = true ∧
        ∃ opening, ShownOpening deals row.1.positionId opening ∧
          row.1.positionText = opening.positionText := by
  unfold historyDeals keptInWindow
  rw [List.mem_filter]
  refine and_congr_right fun hrow => ?_
  obtain ⟨index, hget, hproject⟩ := mem_projectedRows.mp hrow
  have hledger := getElem?_ledgerRows hget
  rw [decide_eq_true_eq, projectAsTrade_iff hledger hproject]
  refine and_congr_right fun hcoherent => ?_
  -- the row itself has an event type, so the ledger is annotated
  have hannotated : ((projectedRows deals anchor).any fun other =>
      other.2.historyEventType.isSome) = true :=
    List.any_eq_true.mpr ⟨row, hrow, historyEventType_isSome hledger hproject hcoherent⟩
  have heligible : row.1.positionText ∈
      eligiblePositions (projectedRows deals anchor) allAvailableStart stop ↔
      ∃ opening, ShownOpening deals row.1.positionId opening ∧
        row.1.positionText = opening.positionText := by
    rw [mem_eligiblePositions]
    constructor
    · intro h
      obtain ⟨opening, htext, -, hshown⟩ := h
      have hid : opening.positionId = row.1.positionId := by
        rw [opening.positionStripped, row.1.positionStripped, htext]
      exact ⟨opening, hid ▸ hshown, htext.symm⟩
    · intro h
      obtain ⟨opening, hshown, htext⟩ := h
      have hid : opening.positionId = row.1.positionId := hshown.1
      exact ⟨opening, htext.symm, hid ▸ hcoherent, hid ▸ hshown⟩
  rw [hannotated]
  cases hmoment : row.1.moment with
  | none => simp
  | some moment =>
    have hall : allAvailableWindow allAvailableStart = true ∨ moment < stop :=
      Or.inl allAvailable_start
    simp [hall, heligible]

end Emission

/-- A list that keeps as many entries as another filter of the same list keeps them all. -/
theorem map_filter_eq_iff {α β : Type} {f : α → β} {xs : List α} {p q : α → Bool}
    (himp : ∀ x ∈ xs, p x = true → q x = true) :
    (xs.filter p).map f = (xs.filter q).map f ↔ ∀ x ∈ xs, q x = true → p x = true := by
  constructor
  · intro h
    have hlength := congrArg List.length h
    rw [List.length_map, List.length_map] at hlength
    have htwice : (xs.filter q).filter p = xs.filter p := by
      rw [List.filter_filter]
      apply List.filter_congr
      intro x hx
      cases hcase : p x with
      | false => rfl
      | true => rw [himp x hx hcase, Bool.and_self]
    have hsub : List.Sublist (xs.filter p) (xs.filter q) := htwice ▸ List.filter_sublist
    have heq := hsub.eq_of_length hlength
    intro x hx hq
    have hmem : x ∈ xs.filter p := heq ▸ List.mem_filter.mpr ⟨hx, hq⟩
    exact (List.mem_filter.mp hmem).2
  · intro h
    have heq : xs.filter p = xs.filter q :=
      List.filter_congr fun x hx => Bool.eq_iff_iff.mpr ⟨himp x hx, h x hx⟩
    rw [heq]

section AllOrNothing

variable {deals : List ExportedDeal} {anchor : LedgerAnchor} {positionId : String} {stop : Int}

/-- What the importer is shown of an anchored ledger in the mode `all_available`. -/
def shownDeals (deals : List ExportedDeal) (anchor : LedgerAnchor) (stop : Int) :
    List ExportedDeal :=
  (historyDeals (historicalDealSnapshot deals (some anchor)) allAvailableStart stop).map Prod.fst

def dealsOf (positionId : String) (deals : List ExportedDeal) : List ExportedDeal :=
  deals.filter fun deal => FillOf positionId deal.toLedgerRow

/-- The importer is shown all fills of the position or none. -/
def AllOrNothing (deals : List ExportedDeal) (anchor : LedgerAnchor) (stop : Int)
    (positionId : String) : Prop :=
  dealsOf positionId (shownDeals deals anchor stop) = dealsOf positionId deals ∨
    dealsOf positionId (shownDeals deals anchor stop) = []

/-- The opening of the position is hidden from the importer. -/
def OpeningHidden (deals : List ExportedDeal) (positionId : String) : Prop :=
  ¬ CoherentPosition (ledgerRows deals) positionId ∨
    ∀ deal, ¬ ShownOpening deals positionId deal

/-- Every fill of the position has a symbol, a known entry and a readable time, and spells the
position as its opening does. -/
def FillsReadable (deals : List ExportedDeal) (positionId : String) : Prop :=
  ∀ deal ∈ deals, FillOf positionId deal.toLedgerRow →
    UsableSymbol deal.toLedgerRow ∧ deal.entry ∈ validEntries ∧ deal.moment.isSome = true ∧
      ∀ opening, ShownOpening deals positionId opening →
        deal.positionText = opening.positionText

/-- The row at this place is shown to the importer. -/
def shownAt (deals : List ExportedDeal) (anchor : LedgerAnchor) (stop : Int)
    (fill : ExportedDeal × Nat) : Bool :=
  (projectDeal (ledgerRows deals) anchor fill.1.toLedgerRow fill.2).any fun item =>
    keptInWindow (projectedRows deals anchor) allAvailableStart stop (fill.1, item)

theorem filter_filterMap_fst {α β ι : Type} (xs : List (α × ι)) (f : α × ι → Option β)
    (keep : α × β → Bool) :
    ((xs.filterMap fun x => (f x).map (x.1, ·)).filter keep).map Prod.fst =
      (xs.filter fun x => (f x).any fun y => keep (x.1, y)).map Prod.fst := by
  induction xs with
  | nil => rfl
  | cons x rest ih =>
    cases hcase : f x with
    | none => simp [hcase, ih]
    | some y =>
      by_cases hkeep : keep (x.1, y) = true
      · simp [hcase, hkeep, ih]
      · simp [hcase, hkeep, ih]

theorem shownDeals_eq : shownDeals deals anchor stop =
    (deals.zipIdx.filter (shownAt deals anchor stop)).map Prod.fst :=
  filter_filterMap_fst deals.zipIdx _ _

/-- Which fills of a ledger are shown. -/
theorem shownAt_iff {deal : ExportedDeal} {index : Nat} (hget : deals[index]? = some deal)
    (hfill : FillOf positionId deal.toLedgerRow) :
    shownAt deals anchor stop (deal, index) = true ↔
      (UsableSymbol deal.toLedgerRow ∧ deal.entry ∈ validEntries) ∧
        CoherentPosition (ledgerRows deals) positionId ∧ deal.moment.isSome = true ∧
        ∃ opening, ShownOpening deals positionId opening ∧
          deal.positionText = opening.positionText := by
  have hid : deal.positionId = positionId := hfill.2
  have hproject : projectable deal.toLedgerRow = true ↔
      UsableSymbol deal.toLedgerRow ∧ deal.entry ∈ validEntries := by
    unfold projectable
    rw [decide_eq_true_eq, and_iff_right hfill.1]
    rfl
  have hkept : ∀ item, projectDeal (ledgerRows deals) anchor deal.toLedgerRow index = some item →
      (keptInWindow (projectedRows deals anchor) allAvailableStart stop (deal, item) = true ↔
        CoherentPosition (ledgerRows deals) positionId ∧ deal.moment.isSome = true ∧
          ∃ opening, ShownOpening deals positionId opening ∧
            deal.positionText = opening.positionText) := by
    intro item hitem
    have hrow : (deal, item) ∈ projectedRows deals anchor :=
      mem_projectedRows.mpr ⟨index, hget, hitem⟩
    have hmem := @mem_historyDeals deals anchor (deal, item) stop
    unfold historyDeals at hmem
    rw [List.mem_filter, and_iff_right hrow, and_iff_right hrow] at hmem
    rw [hmem, hid]
  unfold shownAt
  by_cases hcase : projectable deal.toLedgerRow = true
  · obtain ⟨item, hitem⟩ :=
      @projectDeal_isSome (ledgerRows deals) anchor deal.toLedgerRow index hcase
    rw [hitem, and_iff_right (hproject.mp hcase)]
    exact hkept item hitem
  · have hnone : projectDeal (ledgerRows deals) anchor deal.toLedgerRow index = none :=
      if_neg hcase
    rw [hnone]
    constructor
    · intro h
      cases h
    · intro h
      exact absurd (hproject.mpr h.1) hcase

theorem dealsOf_eq : dealsOf positionId deals =
    (deals.zipIdx.filter fun fill => FillOf positionId fill.1.toLedgerRow).map Prod.fst := by
  unfold dealsOf
  conv_lhs => rw [← List.zipIdx_map_fst 0 deals]
  rw [List.filter_map]
  rfl

theorem dealsOf_shownDeals : dealsOf positionId (shownDeals deals anchor stop) =
    (deals.zipIdx.filter fun fill => shownAt deals anchor stop fill &&
      decide (FillOf positionId fill.1.toLedgerRow)).map Prod.fst := by
  unfold dealsOf
  rw [shownDeals_eq, List.filter_map, List.filter_filter]
  congr 1
  apply List.filter_congr
  intro fill _
  exact Bool.and_comm _ _

theorem firstEntry_unique {rows : List LedgerRow} {one other : Nat} {row row' : LedgerRow}
    (hone : FirstEntry rows one row) (hother : FirstEntry rows other row')
    (hid : row.positionId = row'.positionId) : one = other := by
  rcases Nat.lt_trichotomy one other with hlt | heq | hgt
  · exact absurd (hid ▸ hone.entry) (hother.first one row hlt hone.here)
  · exact heq
  · exact absurd (hid ▸ hother.entry) (hone.first other row' hgt hother.here)

theorem ShownOpening.unique {one other : ExportedDeal} (hone : ShownOpening deals positionId one)
    (hother : ShownOpening deals positionId other) : one = other := by
  obtain ⟨hid, -, -, index, hget, hfirst⟩ := hone
  obtain ⟨hid', -, -, index', hget', hfirst'⟩ := hother
  have heq := firstEntry_unique hfirst hfirst' (hid.trans hid'.symm)
  rw [heq] at hget
  exact Option.some.inj (hget.symm.trans hget')

/-- The opening that is not hidden is shown itself. -/
theorem opening_shownAt {opening : ExportedDeal}
    (hcoherent : CoherentPosition (ledgerRows deals) positionId)
    (hopening : ShownOpening deals positionId opening) :
    ∃ index, deals[index]? = some opening ∧ FillOf positionId opening.toLedgerRow ∧
      shownAt deals anchor stop (opening, index) = true := by
  have hshown := hopening
  obtain ⟨hid, hsymbol, hmoment, index, hget, hfirst⟩ := hshown
  have hfill : FillOf positionId opening.toLedgerRow := ⟨hfirst.entry.1, hid⟩
  exact ⟨index, hget, hfill, (shownAt_iff hget hfill).mpr
    ⟨⟨hsymbol, openEntries_valid hfirst.entry.2.2⟩, hcoherent, hmoment, opening, hopening, rfl⟩⟩

theorem dealsOf_eq_nil_iff : dealsOf positionId (shownDeals deals anchor stop) = [] ↔
    OpeningHidden deals positionId := by
  rw [dealsOf_shownDeals, List.map_eq_nil_iff, List.filter_eq_nil_iff]
  constructor
  · intro h
    by_contra hshown
    obtain ⟨hcoherent, hopening⟩ := not_or.mp hshown
    obtain ⟨opening, hopening⟩ := not_forall_not.mp hopening
    obtain ⟨index, hget, hfill, hat⟩ :=
      @opening_shownAt deals anchor positionId stop opening (not_not.mp hcoherent) hopening
    exact h (opening, index) (List.mem_zipIdx_iff_getElem?.mpr hget) (by simp [hat, hfill])
  · intro h fill hfill hboth
    obtain ⟨hat, hof⟩ := Bool.and_eq_true_iff.mp hboth
    obtain ⟨-, hcoherent, -, opening, hopening, -⟩ :=
      (shownAt_iff (List.mem_zipIdx_iff_getElem?.mp hfill) (of_decide_eq_true hof)).mp hat
    rcases h with hbroken | hnone
    · exact hbroken hcoherent
    · exact hnone opening hopening

theorem dealsOf_eq_all_iff (hshown : ¬ OpeningHidden deals positionId) :
    dealsOf positionId (shownDeals deals anchor stop) = dealsOf positionId deals ↔
      FillsReadable deals positionId := by
  obtain ⟨hcoherent, hopening⟩ := not_or.mp hshown
  obtain ⟨opening, hopening⟩ := not_forall_not.mp hopening
  rw [dealsOf_shownDeals, dealsOf_eq,
    map_filter_eq_iff (fun fill _ h => (Bool.and_eq_true_iff.mp h).2)]
  constructor
  · intro h deal hdeal hfill
    obtain ⟨index, hget⟩ := List.mem_iff_getElem?.mp hdeal
    have hboth := h (deal, index) (List.mem_zipIdx_iff_getElem?.mpr hget) (by simp [hfill])
    obtain ⟨⟨hsymbol, hvalid⟩, -, hmoment, other, hother, htext⟩ :=
      (shownAt_iff hget hfill).mp (Bool.and_eq_true_iff.mp hboth).1
    exact ⟨hsymbol, hvalid, hmoment, fun third hthird => (hother.unique hthird) ▸ htext⟩
  · intro h fill hfill hof
    have hget := List.mem_zipIdx_iff_getElem?.mp hfill
    have hfillOf := of_decide_eq_true hof
    obtain ⟨hsymbol, hvalid, hmoment, htext⟩ := h fill.1 (List.mem_of_getElem? hget) hfillOf
    rw [hof, Bool.and_true]
    exact (shownAt_iff hget hfillOf).mpr ⟨⟨hsymbol, hvalid⟩, not_not.mp hcoherent, hmoment,
      opening, hopening, htext opening hopening⟩

/-- A position is shown whole or not at all exactly if its opening is hidden or all its fills are
readable. -/
theorem all_or_nothing_iff (deals : List ExportedDeal) (anchor : LedgerAnchor) (stop : Int)
    (positionId : String) : AllOrNothing deals anchor stop positionId ↔
      OpeningHidden deals positionId ∨ FillsReadable deals positionId := by
  unfold AllOrNothing
  rw [dealsOf_eq_nil_iff]
  by_cases hhidden : OpeningHidden deals positionId
  · exact iff_of_true (Or.inr hhidden) (Or.inl hhidden)
  · rw [dealsOf_eq_all_iff hhidden, or_iff_left hhidden, or_iff_right hhidden]

end AllOrNothing

/-- A position whose partial exit has no symbol in the export. -/
def exitWithoutSymbol : List ExportedDeal :=
  let opening : LedgerRow :=
    { ticket := some "11", dealType := some 0, positionId := "7", symbol := some "EURUSD"
      direction := "buy", entry := "IN", volume := some 2, price := some 1, profit := some 0
      commission := some 0, swap := some 0, fee := some 0 }
  let partialExit : LedgerRow :=
    { opening with ticket := some "12", dealType := some 1, entry := "OUT", symbol := some ""
                   volume := some 1 }
  [{ opening with positionText := "7", moment := some 1, positionStripped := by decide },
    { partialExit with positionText := "7", moment := some 2, positionStripped := by decide }]

/-- Its opening is imported and its exit is lost. -/
theorem exitWithoutSymbol_torn :
    ¬ AllOrNothing exitWithoutSymbol { balance := some 10, credit := some 0, coherent := true } 3
      "7" := by
  intro h
  have hshown : (dealsOf "7" (shownDeals exitWithoutSymbol
      { balance := some 10, credit := some 0, coherent := true } 3)).length = 1 := by
    decide +kernel
  have htwo : (dealsOf "7" exitWithoutSymbol).length = 2 := by decide +kernel
  rcases h with hall | hnone
  · rw [hall, htwo] at hshown
    cases hshown
  · rw [hnone] at hshown
    cases hshown

end TradeJournalWorker
