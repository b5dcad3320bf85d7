import TradeJournalWorker.FirstOccurrences
import TradeJournalWorker.PositionLifecycle

namespace TradeJournalWorker

open FirstOccurrences

/-- The row is a fill of this position. -/
def FillOf (positionId : String) (row : LedgerRow) : Prop :=
  row.ofPosition = true ∧ row.positionId = positionId

instance (positionId : String) (row : LedgerRow) : Decidable (FillOf positionId row) :=
  inferInstanceAs (Decidable (_ ∧ _))

/-- The row is a dedicated commission deal. -/
def LedgerRow.isSeparate (row : LedgerRow) : Bool :=
  row.dealType.any (· ∈ separateCommissionDealTypes)

/-- A dedicated commission row belongs to the position it names. If it names none with fills, it
belongs to the position that owns every fill of its order. -/
inductive LinkedTo (rows : List LedgerRow) (row : LedgerRow) : String → Prop
  | position (hfill : ∃ fill ∈ rows, FillOf row.positionId fill) :
      LinkedTo rows row row.positionId
  | order {positionId : String} (hnone : ∀ fill ∈ rows, ¬ FillOf row.positionId fill)
      (horder : row.orderId ≠ "" ∧ row.orderId ≠ "0")
      (hfill : ∃ fill ∈ rows, FillOf positionId fill ∧ fill.orderId = row.orderId)
      (honly : ∀ fill ∈ rows, fill.ofPosition = true → fill.orderId = row.orderId →
        fill.positionId = positionId) :
      LinkedTo rows row positionId

theorem hasPosition_iff {rows : List LedgerRow} {positionId : String} :
    hasPosition rows positionId = true ↔ ∃ fill ∈ rows, FillOf positionId fill := by
  simp [hasPosition, FillOf]

theorem orderPositions_iff {rows : List LedgerRow} {orderId positionId : String} :
    orderPositions rows orderId = [positionId] ↔ (orderId ≠ "" ∧ orderId ≠ "0") ∧
      (∃ fill ∈ rows, FillOf positionId fill ∧ fill.orderId = orderId) ∧
      ∀ fill ∈ rows, fill.ofPosition = true → fill.orderId = orderId →
        fill.positionId = positionId := by
  unfold orderPositions
  by_cases horder : orderId = "" ∨ orderId = "0"
  · rw [if_pos horder]
    constructor
    · intro h
      cases h
    · intro h
      rcases horder with heq | heq
      · exact absurd heq h.1.1
      · exact absurd heq h.1.2
  · rw [if_neg horder, dedup_eq_singleton]
    obtain ⟨hblank, hzero⟩ := not_or.mp horder
    simp only [List.mem_map, List.mem_filter, Bool.and_eq_true, decide_eq_true_eq, FillOf]
    constructor
    · intro h
      obtain ⟨⟨fill, ⟨hmem, hof, hid⟩, hposition⟩, honly⟩ := h
      exact ⟨⟨hblank, hzero⟩, ⟨fill, hmem, ⟨hof, hposition⟩, hid⟩,
        fun other hother hofOther hidOther => honly _ ⟨other, ⟨hother, hofOther, hidOther⟩, rfl⟩⟩
    · intro h
      obtain ⟨-, ⟨fill, hmem, ⟨hof, hposition⟩, hid⟩, honly⟩ := h
      refine ⟨⟨fill, ⟨hmem, hof, hid⟩, hposition⟩, ?_⟩
      intro text htext
      obtain ⟨other, ⟨hother, hofOther, hidOther⟩, heq⟩ := htext
      exact heq ▸ honly other hother hofOther hidOther

theorem commissionTarget_iff {rows : List LedgerRow} {row : LedgerRow} {positionId : String} :
    commissionTarget rows row = some positionId ↔ LinkedTo rows row positionId := by
  unfold commissionTarget
  by_cases hown : hasPosition rows row.positionId = true
  · have hfill := hasPosition_iff.mp hown
    rw [if_pos hown]
    constructor
    · intro h
      cases h
      exact .position hfill
    · intro h
      cases h with
      | position _ => rfl
      | order hnone _ _ _ =>
        obtain ⟨fill, hmem, hof⟩ := hfill
        exact absurd hof (hnone fill hmem)
  · have hnone : ∀ fill ∈ rows, ¬ FillOf row.positionId fill := by
      intro fill hmem hof
      exact hown (hasPosition_iff.mpr ⟨fill, hmem, hof⟩)
    rw [if_neg hown]
    constructor
    · intro h
      split at h
      next other horder =>
        cases h
        obtain ⟨hid, hfill, honly⟩ := orderPositions_iff.mp horder
        exact .order hnone hid hfill honly
      next => cases h
    · intro h
      cases h with
      | position hfill =>
        obtain ⟨fill, hmem, hof⟩ := hfill
        exact absurd hof (hnone fill hmem)
      | order _ hid hfill honly =>
        rw [orderPositions_iff.mpr ⟨hid, hfill, honly⟩]

instance (rows : List LedgerRow) (row : LedgerRow) (positionId : String) :
    Decidable (LinkedTo rows row positionId) :=
  decidable_of_iff _ commissionTarget_iff

/-- No row is linked to two positions. -/
theorem LinkedTo.unique {rows : List LedgerRow} {row : LedgerRow} {one other : String}
    (hone : LinkedTo rows row one) (hother : LinkedTo rows row other) : other = one := by
  have h := (commissionTarget_iff.mpr hother).symm.trans (commissionTarget_iff.mpr hone)
  exact Option.some.inj h

theorem LinkedTo.hasFills {rows : List LedgerRow} {row : LedgerRow} {positionId : String}
    (h : LinkedTo rows row positionId) : ∃ fill ∈ rows, FillOf positionId fill := by
  cases h with
  | position hfill => exact hfill
  | order _ _ hfill _ =>
    obtain ⟨fill, hmem, hof, -⟩ := hfill
    exact ⟨fill, hmem, hof⟩

/-- Commission and fee of a fill. -/
def fillCost (row : LedgerRow) : Rat := row.commission.getD 0 + row.fee.getD 0

/-- Both costs of the fill are in the ledger. -/
def CostKnown (row : LedgerRow) : Prop := row.commission.isSome = true ∧ row.fee.isSome = true

def fillCosts (rows : List LedgerRow) (positionId : String) : Rat :=
  ((rows.filter fun row => FillOf positionId row).map fillCost).sum

/-- The dedicated commission rows of a position. -/
def linkedCosts (ledger rows : List LedgerRow) (positionId : String) : Rat :=
  ((rows.filter fun row => row.isSeparate ∧ LinkedTo ledger row positionId).map
    fun row => row.total.getD 0).sum

/-- Whether a dedicated commission row leaves the accounts resolved. -/
def Resolved (rows : List LedgerRow) (row : LedgerRow) : Prop :=
  row.isSeparate = true → ∃ amount, row.total = some amount ∧
    (amount ≠ 0 → ∃ target, LinkedTo rows row target)

namespace PositionCosts

/-- What is on the account of a position. -/
def owed (costs : PositionCosts) (positionId : String) : Rat :=
  (costs.amount.get? positionId).getD 0

/-- Nothing is missing on the account so far. -/
def whole (costs : PositionCosts) (positionId : String) : Bool :=
  (costs.complete.get? positionId).getD true

variable {costs : PositionCosts} {row : LedgerRow} {positionId : String}

theorem owed_charge (target : String) (amount : Rat) :
    ((costs.charge target amount).get? positionId).getD 0 =
      costs.owed positionId + if target = positionId then amount else 0 := by
  unfold charge owed
  rw [OrderedDict.get?_set]
  by_cases htarget : positionId = target
  · subst htarget
    simp
  · have hne : target ≠ positionId := fun h => htarget h.symm
    simp [htarget, hne]

theorem whole_set (target : String) (value : Bool) :
    ((costs.complete.set target value).get? positionId).getD true =
      if target = positionId then value else costs.whole positionId := by
  unfold whole
  rw [OrderedDict.get?_set]
  by_cases htarget : positionId = target
  · subst htarget
    simp
  · have hne : target ≠ positionId := fun h => htarget h.symm
    simp [htarget, hne]

/-- A fill leaves the account whole only if both its costs are known, and they are what it adds. -/
theorem fill_spec (h : (costs.fill row).whole positionId = true) :
    costs.whole positionId = true ∧ (FillOf positionId row → CostKnown row) ∧
      (costs.fill row).owed positionId =
        costs.owed positionId + if FillOf positionId row then fillCost row else 0 := by
  unfold fill at h ⊢
  by_cases hof : row.ofPosition = true
  · rw [if_pos hof] at h ⊢
    cases hcommission : row.commission with
    | none =>
      simp only [hcommission, whole] at h
      rw [whole_set] at h
      by_cases htarget : row.positionId = positionId
      · simp [htarget] at h
      · rw [if_neg htarget] at h
        have hother : ¬ FillOf positionId row := fun hfill => htarget hfill.2
        refine ⟨h, fun hfill => absurd hfill hother, ?_⟩
        simp [hother, owed]
    | some commission =>
      cases hfee : row.fee with
      | none =>
        simp only [hcommission, hfee, whole] at h
        rw [whole_set] at h
        by_cases htarget : row.positionId = positionId
        · simp [htarget] at h
        · rw [if_neg htarget] at h
          have hother : ¬ FillOf positionId row := fun hfill => htarget hfill.2
          refine ⟨h, fun hfill => absurd hfill hother, ?_⟩
          simp [hother, owed]
      | some fee =>
        simp only [hcommission, hfee, whole] at h
        rw [whole_set] at h
        have hwhole : costs.whole positionId = true := by
          by_cases htarget : row.positionId = positionId
          · rw [if_pos htarget, htarget] at h
            exact h
          · rw [if_neg htarget] at h
            exact h
        refine ⟨hwhole, fun _ => by simp [CostKnown, hcommission, hfee], ?_⟩
        have howed : ((costs.charge row.positionId (commission + fee)).get? positionId).getD 0 =
            costs.owed positionId +
              if row.positionId = positionId then commission + fee else 0 := owed_charge _ _
        have hfill : FillOf positionId row ↔ row.positionId = positionId := by
          simp [FillOf, hof]
        simp only [fillCost, hcommission, hfee, Option.getD_some, hfill]
        exact howed
  · rw [if_neg hof] at h ⊢
    have hother : ¬ FillOf positionId row := fun hfill => hof hfill.1
    refine ⟨h, fun hfill => absurd hfill hother, ?_⟩
    simp [hother]

/-- The accounts behind all fills of a ledger. -/
theorem fills_spec (rows : List LedgerRow) (costs : PositionCosts)
    (h : (rows.foldl fill costs).whole positionId = true) :
    costs.whole positionId = true ∧ (∀ row ∈ rows, FillOf positionId row → CostKnown row) ∧
      (rows.foldl fill costs).owed positionId = costs.owed positionId + fillCosts rows positionId := by
  induction rows generalizing costs with
  | nil => exact ⟨h, by simp, by simp [fillCosts]⟩
  | cons row rest ih =>
    obtain ⟨hnext, hknown, hrest⟩ := ih (costs.fill row) h
    obtain ⟨hwhole, hrow, howed⟩ := fill_spec hnext
    refine ⟨hwhole, ?_, ?_⟩
    · intro other hother
      rcases List.mem_cons.mp hother with heq | hmem
      · subst heq
        exact hrow
      · exact hknown other hmem
    · rw [List.foldl_cons, hrest, howed]
      by_cases hfill : FillOf positionId row
      · simp [fillCosts, hfill, add_assoc]
      · simp [fillCosts, hfill]

/-- A dedicated commission row is charged to the position it is linked to, or to none at all. -/
theorem separate_spec (rows : List LedgerRow) (h : (costs.separate rows row).unresolved = false) :
    costs.unresolved = false ∧ Resolved rows row ∧
      (costs.separate rows row).whole positionId = costs.whole positionId ∧
      (costs.separate rows row).owed positionId = costs.owed positionId +
        if row.isSeparate ∧ LinkedTo rows row positionId then row.total.getD 0 else 0 := by
  unfold separate at h ⊢
  have hdef : row.dealType.any (· ∈ separateCommissionDealTypes) = row.isSeparate := rfl
  rw [hdef] at h ⊢
  by_cases hseparate : row.isSeparate = true
  · rw [if_pos hseparate] at h ⊢
    cases htotal : row.total with
    | none => simp [htotal] at h
    | some amount =>
      by_cases hzero : amount = 0
      · simp only [htotal, hzero, if_true] at h ⊢
        exact ⟨h, fun _ => ⟨0, by rw [htotal, hzero], by simp⟩, by simp, by simp⟩
      · cases htarget : commissionTarget rows row with
        | none => simp [htotal, hzero, htarget] at h
        | some target =>
          simp only [htotal, hzero, htarget, if_false] at h ⊢
          have hlinked : LinkedTo rows row target := commissionTarget_iff.mp htarget
          have hiff : LinkedTo rows row positionId ↔ target = positionId := by
            constructor
            · intro hother
              exact hother.unique hlinked
            · intro heq
              exact heq ▸ hlinked
          refine ⟨h, fun _ => ⟨amount, htotal, fun _ => ⟨target, hlinked⟩⟩, ?_, ?_⟩
          · refine (whole_set target _).trans ?_
            by_cases heq : target = positionId
            · rw [if_pos heq, heq]
              rfl
            · rw [if_neg heq]
          · refine (owed_charge target amount).trans ?_
            simp [hseparate, hiff]
  · rw [if_neg hseparate] at h ⊢
    exact ⟨h, fun hrow => absurd hrow hseparate, rfl, by simp [hseparate]⟩

/-- The accounts behind all dedicated commission rows. -/
theorem separates_spec (ledger rows : List LedgerRow) (costs : PositionCosts)
    (h : (rows.foldl (separate ledger) costs).unresolved = false) :
    costs.unresolved = false ∧ (∀ row ∈ rows, Resolved ledger row) ∧
      (rows.foldl (separate ledger) costs).whole positionId = costs.whole positionId ∧
      (rows.foldl (separate ledger) costs).owed positionId =
        costs.owed positionId + linkedCosts ledger rows positionId := by
  induction rows generalizing costs with
  | nil => exact ⟨h, by simp, rfl, by simp [linkedCosts]⟩
  | cons row rest ih =>
    obtain ⟨hnext, hresolved, hrestWhole, hrestOwed⟩ := ih (costs.separate ledger row) h
    obtain ⟨hunresolved, hrow, hwhole, howed⟩ :=
      @separate_spec costs row positionId ledger hnext
    refine ⟨hunresolved, ?_, hrestWhole.trans hwhole, ?_⟩
    · intro other hother
      rcases List.mem_cons.mp hother with heq | hmem
      · subst heq
        exact hrow
      · exact hresolved other hmem
    · rw [List.foldl_cons, hrestOwed, howed]
      by_cases hlinked : row.isSeparate ∧ LinkedTo ledger row positionId
      · simp [linkedCosts, hlinked, add_assoc]
      · simp [linkedCosts, hlinked]

end PositionCosts

section Conservation

variable {rows : List LedgerRow} {anchor : LedgerAnchor} {row : LedgerRow} {index : Nat}
  {item : ProjectedDeal}

@[simp] theorem projectCosts_open : (projectCosts row item).commissionComplete =
    item.commissionComplete := by
  unfold projectCosts
  split <;> simp

@[simp] theorem projectBalance_open (before : BalanceBefore) (unsafeReason : Option String) :
    (projectBalance before unsafeReason item).commissionComplete = item.commissionComplete := by
  unfold projectBalance
  split
  · simp
  · split <;> simp
  · simp

@[simp] theorem projectOpening_open (before : BalanceBefore) (analysis : PositionAnalysis) :
    (projectOpening before analysis index item).commissionComplete = item.commissionComplete := by
  unfold projectOpening
  dsimp only
  split <;> simp

@[simp] theorem projectExit_open (analysis : PositionAnalysis) :
    (projectExit row analysis index item).commissionComplete = item.commissionComplete := by
  unfold projectExit
  split
  · simp
  · split <;> simp

theorem projectTotal_complete {positionId : String} (hopen : item.commissionComplete = none)
    (h : (projectTotal rows positionId item).commissionComplete = some true) :
    costsComplete rows positionId = true ∧
      (projectTotal rows positionId item).totalCommission =
        some ((positionCosts rows).owed positionId) := by
  unfold projectTotal at h ⊢
  split at h
  next hclosed =>
    have hcomplete : costsComplete rows positionId = true := Option.some.inj h
    simp [hclosed, hcomplete, PositionCosts.owed]
  next =>
    rw [hopen] at h
    cases h

/-- A row is marked complete only by the costs of its own position. -/
theorem projectDeal_complete (hproject : projectDeal rows anchor row index = some item)
    (h : item.commissionComplete = some true) :
    FillOf item.row.positionId row ∧ costsComplete rows item.row.positionId = true ∧
      item.totalCommission = some ((positionCosts rows).owed item.row.positionId) := by
  have hfill : FillOf item.row.positionId row :=
    ⟨(projectable_of_projectDeal hproject).1, by rw [projectDeal_row hproject]⟩
  rw [projectDeal_row hproject]
  unfold projectDeal at hproject
  split at hproject
  next =>
    cases hproject
    refine ⟨⟨hfill.1, rfl⟩, projectTotal_complete ?_ h⟩
    split <;> simp
  next => cases hproject

theorem costsComplete_resolved {positionId : String} (hfill : ∃ fill ∈ rows, FillOf positionId fill)
    (h : costsComplete rows positionId = true) :
    (positionCosts rows).unresolved = false ∧ (positionCosts rows).whole positionId = true := by
  unfold costsComplete at h
  dsimp only at h
  split at h
  next => cases h
  next hcond =>
    have hposition := hasPosition_iff.mpr hfill
    have hunresolved : (positionCosts rows).unresolved = false := by
      by_contra hne
      exact hcond ⟨by simpa using hne, hposition⟩
    refine ⟨hunresolved, ?_⟩
    unfold PositionCosts.whole
    cases hget : (positionCosts rows).complete.get? positionId with
    | none => rfl
    | some value =>
      rw [hget] at h
      exact h

/-- What a complete account of a position says about the ledger. -/
theorem positionCosts_spec {positionId : String}
    (hunresolved : (positionCosts rows).unresolved = false)
    (hwhole : (positionCosts rows).whole positionId = true) :
    (∀ row ∈ rows, Resolved rows row) ∧ (∀ row ∈ rows, FillOf positionId row → CostKnown row) ∧
      (positionCosts rows).owed positionId =
        fillCosts rows positionId + linkedCosts rows rows positionId := by
  obtain ⟨-, hresolved, hsame, howed⟩ :=
    @PositionCosts.separates_spec positionId rows rows _ hunresolved
  have hfillsWhole : (rows.foldl PositionCosts.fill {}).whole positionId = true :=
    hsame.symm.trans hwhole
  obtain ⟨-, hknown, hfills⟩ := PositionCosts.fills_spec rows {} hfillsWhole
  refine ⟨hresolved, hknown, howed.trans ?_⟩
  have hstart : ({} : PositionCosts).owed positionId = 0 := rfl
  rw [hfills, hstart, zero_add]

theorem complete_spec (hitem : item ∈ reconstructTradeDeals rows anchor)
    (h : item.commissionComplete = some true) :
    (∀ row ∈ rows, Resolved rows row) ∧
      (∀ row ∈ rows, FillOf item.row.positionId row → CostKnown row) ∧
      item.totalCommission = some (fillCosts rows item.row.positionId +
        linkedCosts rows rows item.row.positionId) := by
  obtain ⟨index, hat⟩ := mem_reconstructTradeDeals.mp hitem
  obtain ⟨hget, hproject⟩ := projectedAt_iff.mp hat
  obtain ⟨hfill, hcomplete, htotal⟩ := projectDeal_complete hproject h
  obtain ⟨hunresolved, hwhole⟩ :=
    costsComplete_resolved ⟨item.row, List.mem_of_getElem? hget, hfill⟩ hcomplete
  obtain ⟨hresolved, hknown, howed⟩ := positionCosts_spec hunresolved hwhole
  exact ⟨hresolved, hknown, by rw [htotal, howed]⟩

/-- The costs of a closed position are those of its fills and of the dedicated commission rows
linked to it, and no such row is lost while a position is marked complete. -/
theorem costs_conserved (rows : List LedgerRow) (anchor : LedgerAnchor) :
    (∀ item ∈ reconstructTradeDeals rows anchor, item.historyEventType = some .tradeClosed →
      item.commissionComplete = some true →
      (∀ row ∈ rows, FillOf item.row.positionId row → CostKnown row) ∧
        item.totalCommission = some (fillCosts rows item.row.positionId +
          linkedCosts rows rows item.row.positionId)) ∧
    ∀ row ∈ rows, row.isSeparate = true → row.total ≠ some 0 →
      (row.total.isSome = true ∧ ∃! positionId, LinkedTo rows row positionId) ∨
        ∀ item ∈ reconstructTradeDeals rows anchor, item.commissionComplete ≠ some true := by
  constructor
  · intro item hitem _ hcomplete
    exact (complete_spec hitem hcomplete).2
  · intro row hrow hseparate hamount
    by_cases hany : ∃ item ∈ reconstructTradeDeals rows anchor, item.commissionComplete = some true
    · left
      obtain ⟨item, hitem, hcomplete⟩ := hany
      obtain ⟨amount, htotal, hlink⟩ := (complete_spec hitem hcomplete).1 row hrow hseparate
      have hne : amount ≠ 0 := by
        intro hzero
        exact hamount (by rw [htotal, hzero])
      obtain ⟨target, hlinked⟩ := hlink hne
      exact ⟨by simp [htotal], target, hlinked, fun other hother => hlinked.unique hother⟩
    · right
      intro item hitem hcomplete
      exact hany ⟨item, hitem, hcomplete⟩

end Conservation

end TradeJournalWorker
