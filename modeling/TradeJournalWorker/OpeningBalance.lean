import Mathlib.Tactic.Linarith
import TradeJournalWorker.BalanceAgreement

namespace TradeJournalWorker

/-- The row tells completely what it did to the account. -/
def EconomicsKnown (row : LedgerRow) : Prop :=
  (∀ field ∈ row.economics, field.isSome = true) ∧
    ∃ dealType, row.dealType = some dealType ∧
      (dealType = creditDealType ∨ dealType ∈ knownBalanceDealTypes)

/-- What a row does to the balance. Credit is kept apart from it. -/
def rowEffect (row : LedgerRow) : Rat :=
  if row.dealType = some creditDealType then 0 else (row.economics.map (·.getD 0)).sum

/-- `anchor_valid`. -/
def LedgerAnchor.Coherent (anchor : LedgerAnchor) : Prop :=
  anchor.balance.isSome = true ∧ anchor.credit.isSome = true ∧ anchor.coherent = true

def UsableSymbol (row : LedgerRow) : Prop := row.symbol.any (fun symbol => pyStrip symbol ≠ [])

/-- The position is not in `unsafe_position`. -/
def SafePosition (rows : List LedgerRow) (positionId : String) : Prop :=
  (analysePosition rows positionId).unsafeReason = none

/-- The row opens volume of the position. -/
def EntryOf (positionId : String) (row : LedgerRow) : Prop :=
  row.ofPosition = true ∧ row.positionId = positionId ∧ row.entry ∈ openEntries

/-- The row is the first of the ledger that opens volume of its position. -/
structure FirstEntry (rows : List LedgerRow) (index : Nat) (row : LedgerRow) : Prop where
  here : rows[index]? = some row
  entry : EntryOf row.positionId row
  first : ∀ j other, j < index → rows[j]? = some other → ¬ EntryOf row.positionId other

/-- What the reconstruction makes of the row at this index. -/
def projectedAt (rows : List LedgerRow) (anchor : LedgerAnchor) (index : Nat) :
    Option ProjectedDeal :=
  rows[index]?.bind fun row => projectDeal rows anchor row index

def openingBalance (rows : List LedgerRow) (anchor : LedgerAnchor) (index : Nat) : Option Rat :=
  (projectedAt rows anchor index).bind ProjectedDeal.balanceBeforeOpen

/-- The row with nothing left of what it did to the account. -/
def LedgerRow.withoutEconomics (row : LedgerRow) : LedgerRow :=
  { row with profit := none, commission := none, swap := none, fee := none }

theorem mem_reconstructTradeDeals {rows : List LedgerRow} {anchor : LedgerAnchor}
    {item : ProjectedDeal} : item ∈ reconstructTradeDeals rows anchor ↔
      ∃ index, projectedAt rows anchor index = some item := by
  unfold reconstructTradeDeals projectedAt
  rw [List.mem_filterMap]
  constructor
  · intro h
    obtain ⟨⟨row, index⟩, hmem, hproject⟩ := h
    have hget : rows[index]? = some row := List.mem_zipIdx_iff_getElem?.mp hmem
    exact ⟨index, by rw [hget]; exact hproject⟩
  · intro h
    obtain ⟨index, h⟩ := h
    obtain ⟨row, hget, hproject⟩ := Option.bind_eq_some_iff.mp h
    exact ⟨(row, index), List.mem_zipIdx_iff_getElem?.mpr hget, hproject⟩

section Effects

theorem total_eq {row : LedgerRow} {total : Rat} (h : row.total = some total) :
    (∀ field ∈ row.economics, field.isSome = true) ∧
      total = (row.economics.map (·.getD 0)).sum := by
  unfold LedgerRow.total at h
  obtain ⟨profit, hprofit, h⟩ := Option.bind_eq_some_iff.mp h
  obtain ⟨commission, hcommission, h⟩ := Option.bind_eq_some_iff.mp h
  obtain ⟨swap, hswap, h⟩ := Option.bind_eq_some_iff.mp h
  obtain ⟨fee, hfee, h⟩ := Option.bind_eq_some_iff.mp h
  cases h
  constructor
  · simp [LedgerRow.economics, hprofit, hcommission, hswap, hfee]
  · simp only [LedgerRow.economics, hprofit, hcommission, hswap, hfee, List.map_cons, List.map_nil,
      Option.getD_some, List.sum_cons, List.sum_nil]
    ring

theorem total_isSome {row : LedgerRow} (h : ∀ field ∈ row.economics, field.isSome = true) :
    ∃ total, row.total = some total := by
  simp only [LedgerRow.economics, List.mem_cons, List.not_mem_nil, or_false, forall_eq_or_imp,
    forall_eq] at h
  obtain ⟨hprofit, hcommission, hswap, hfee⟩ := h
  obtain ⟨profit, hprofit⟩ := Option.isSome_iff_exists.mp hprofit
  obtain ⟨commission, hcommission⟩ := Option.isSome_iff_exists.mp hcommission
  obtain ⟨swap, hswap⟩ := Option.isSome_iff_exists.mp hswap
  obtain ⟨fee, hfee⟩ := Option.isSome_iff_exists.mp hfee
  exact ⟨profit + commission + swap + fee, by
    simp [LedgerRow.total, hprofit, hcommission, hswap, hfee]⟩

theorem effect_eq_some {row : LedgerRow} {balance credit : Rat}
    (h : effect row = some (balance, credit)) : EconomicsKnown row ∧ balance = rowEffect row := by
  unfold effect at h
  obtain ⟨dealType, htype, h⟩ := Option.bind_eq_some_iff.mp h
  obtain ⟨total, htotal, h⟩ := Option.bind_eq_some_iff.mp h
  obtain ⟨hfields, hsum⟩ := total_eq htotal
  unfold rowEffect
  split at h
  next hcredit =>
    cases h
    exact ⟨⟨hfields, dealType, htype, Or.inl hcredit⟩, by rw [htype, hcredit, if_pos rfl]⟩
  next hcredit =>
    split at h
    next hknown =>
      cases h
      have hne : row.dealType ≠ some creditDealType := by
        intro heq
        exact hcredit (Option.some.inj (htype.symm.trans heq))
      exact ⟨⟨hfields, dealType, htype, Or.inr hknown⟩, by rw [if_neg hne, hsum]⟩
    next => cases h

theorem effect_isSome_iff {row : LedgerRow} : (effect row).isSome = true ↔ EconomicsKnown row := by
  constructor
  · intro h
    obtain ⟨⟨balance, credit⟩, heffect⟩ := Option.isSome_iff_exists.mp h
    exact (effect_eq_some heffect).1
  · intro h
    obtain ⟨hfields, dealType, htype, hkind⟩ := h
    obtain ⟨total, htotal⟩ := total_isSome hfields
    unfold effect
    simp only [htype, htotal, Option.bind_eq_bind, Option.bind_some]
    split
    · rfl
    · have hknown : dealType ∈ knownBalanceDealTypes := by
        rcases hkind with hcredit | hknown
        · contradiction
        · exact hknown
      rw [if_pos hknown]
      rfl

end Effects

section Walk

/-- The walk knows the balance before a row exactly when it knows all rows from there on. -/
structure KnownBack (ledger : List LedgerRow) (walk : LedgerWalk) : Prop where
  known : walk.ledgerKnown = true ↔ ∀ row ∈ ledger, EconomicsKnown row
  length : walk.before.length = ledger.length
  before : ∀ (i : Nat) (entry : BalanceBefore), walk.before[i]? = some entry →
    (entry.value.isSome = true ↔ ∀ row ∈ ledger.drop i, EconomicsKnown row)

theorem knownBack_step {row : LedgerRow} {ledger : List LedgerRow} {walk : LedgerWalk}
    (hwalk : KnownBack ledger walk) : KnownBack (row :: ledger) (walk.back row) := by
  have hlater : ∀ (first entry : BalanceBefore) (i : Nat),
      (first.value.isSome = true ↔ ∀ other ∈ row :: ledger, EconomicsKnown other) →
      (first :: walk.before)[i]? = some entry →
      (entry.value.isSome = true ↔ ∀ other ∈ (row :: ledger).drop i, EconomicsKnown other) := by
    intro first entry i hfirst hget
    cases i with
    | zero =>
      cases Option.some.inj hget
      exact hfirst
    | succ i => exact hwalk.before i entry hget
  have hlength := hwalk.length
  cases heffect : effect row with
  | none =>
    have hunknown : ¬ ∀ other ∈ row :: ledger, EconomicsKnown other := by
      intro h
      have hsome := effect_isSome_iff.mpr (h row (by simp))
      rw [heffect] at hsome
      contradiction
    simp only [LedgerWalk.back, heffect]
    refine ⟨iff_of_false (by simp) hunknown, by simp [hlength], fun i entry hget => ?_⟩
    exact hlater _ entry i (iff_of_false (by simp) hunknown) hget
  | some effects =>
    obtain ⟨balanceEffect, creditEffect⟩ := effects
    have hrow := (effect_eq_some heffect).1
    have hall : (∀ other ∈ row :: ledger, EconomicsKnown other) ↔ walk.ledgerKnown = true := by
      rw [hwalk.known, List.forall_mem_cons]
      exact ⟨fun h => h.2, fun h => ⟨hrow, h⟩⟩
    simp only [LedgerWalk.back, heffect]
    split
    next hknown =>
      refine ⟨hall.symm, by simp [hlength], fun i entry hget => ?_⟩
      exact hlater _ entry i (by simp only [Option.isSome_some, true_iff]; exact hall.mpr hknown)
        hget
    next hknown =>
      have hunknown : ¬ ∀ other ∈ row :: ledger, EconomicsKnown other := by
        intro h
        exact hknown (hall.mp h)
      refine ⟨hall.symm, by simp [hlength], fun i entry hget => ?_⟩
      exact hlater _ entry i (iff_of_false (by simp) hunknown) hget

theorem knownBack (balance credit : Rat) (ledger : List LedgerRow) :
    KnownBack ledger
      (ledger.foldr LedgerWalk.back { runningBalance := balance, runningCredit := credit }) := by
  induction ledger with
  | nil => exact ⟨by simp, rfl, by simp⟩
  | cons row rest ih =>
    rw [List.foldr_cons]
    exact knownBack_step ih

/-- The balance before a row, all cases at once. -/
theorem balancesBefore_iff {rows : List LedgerRow} {anchor : LedgerAnchor} {index : Nat}
    {row : LedgerRow} (hget : rows[index]? = some row) (reason : BalanceBefore)
    (value : Rat) : ((balancesBefore rows anchor).getD index reason).value = some value ↔
      anchor.Coherent ∧ (∀ other ∈ rows.drop index, EconomicsKnown other) ∧
        ∃ balance, anchor.balance = some balance ∧
          value = balance - ((rows.drop index).map rowEffect).sum := by
  have hindex : index < rows.length := (List.getElem?_eq_some_iff.mp hget).1
  rw [List.getD_eq_getElem?_getD]
  cases hcase : (balancesBefore rows anchor)[index]? with
  | none =>
    have hlength : (balancesBefore rows anchor).length = rows.length := by
      unfold balancesBefore
      split
      · exact (knownBack _ _ rows).length
      · simp
    have := List.getElem?_eq_none_iff.mp hcase
    omega
  | some entry =>
    rw [Option.getD_some]
    have hsum : ∀ found, entry.value = some found → ∃ balance, anchor.balance = some balance ∧
        found = balance - ((rows.drop index).map rowEffect).sum := by
      intro found hfound
      have hrows : balancesBefore (rows.map fun row => row) anchor = balancesBefore rows anchor := by
        rw [List.map_id']
      exact balancesBefore_value (fun deal b c heffect => (effect_eq_some heffect).2.symm)
        (by rw [hrows]; exact hcase) hfound
    have hknown : entry.value.isSome = true ↔
        anchor.Coherent ∧ ∀ other ∈ rows.drop index, EconomicsKnown other := by
      unfold balancesBefore at hcase
      split at hcase
      next balance credit hbalance hcredit hcoherent =>
        have hanchor : anchor.Coherent := ⟨by simp [hbalance], by simp [hcredit], hcoherent⟩
        rw [(knownBack balance credit rows).before index entry hcase]
        exact ⟨fun h => ⟨hanchor, h⟩, fun h => h.2⟩
      next hanchor =>
        rw [List.getElem?_map, hget] at hcase
        cases hcase
        constructor
        · intro h
          cases h
        · intro h
          obtain ⟨⟨hbalance, hcredit, hcoherent⟩, -⟩ := h
          obtain ⟨balance, hbalance⟩ := Option.isSome_iff_exists.mp hbalance
          obtain ⟨credit, hcredit⟩ := Option.isSome_iff_exists.mp hcredit
          exact absurd hcoherent (hanchor balance credit hbalance hcredit)
    constructor
    · intro h
      obtain ⟨hcoherent, hall⟩ := hknown.mp (by rw [h]; rfl)
      exact ⟨hcoherent, hall, hsum value h⟩
    · intro h
      obtain ⟨hcoherent, hall, balance, hbalance, hvalue⟩ := h
      obtain ⟨found, hfound⟩ := Option.isSome_iff_exists.mp (hknown.mpr ⟨hcoherent, hall⟩)
      obtain ⟨balance', hbalance', hfound'⟩ := hsum found hfound
      have heq : balance' = balance := Option.some.inj (hbalance'.symm.trans hbalance)
      rw [hfound, hfound', hvalue, heq]

end Walk

section FirstEntries

variable {rows : List LedgerRow} {anchor : LedgerAnchor} {row : LedgerRow} {index : Nat}

/-- The entries of a position with their places, in the order of the ledger. -/
def entryFills (rows : List LedgerRow) (positionId : String) : List (LedgerRow × Nat) :=
  (positionFills rows positionId).filter fun fill => fill.1.entry ∈ openEntries

theorem mem_positionFills {positionId : String} {fill : LedgerRow × Nat} :
    fill ∈ positionFills rows positionId ↔ rows[fill.2]? = some fill.1 ∧
      fill.1.ofPosition = true ∧ fill.1.positionId = positionId := by
  unfold positionFills
  rw [List.mem_filter, List.mem_zipIdx_iff_getElem?]
  simp

theorem mem_entryFills {positionId : String} {fill : LedgerRow × Nat} :
    fill ∈ entryFills rows positionId ↔
      rows[fill.2]? = some fill.1 ∧ EntryOf positionId fill.1 := by
  unfold entryFills
  rw [List.mem_filter, mem_positionFills, EntryOf]
  simp only [decide_eq_true_eq]
  tauto

theorem pairwise_entryFills (rows : List LedgerRow) (positionId : String) :
    (entryFills rows positionId).Pairwise fun left right => left.2 < right.2 := by
  have hzip : rows.zipIdx.Pairwise fun left right => left.2 < right.2 := by
    have hmap : (rows.zipIdx.map Prod.snd).Pairwise (· < ·) := by
      rw [List.zipIdx_map_snd, ← List.range_eq_range']
      exact List.pairwise_lt_range
    exact List.pairwise_map.mp hmap
  exact (hzip.filter _).filter _

/-- The first of the entries is the first entry. -/
theorem firstEntry_iff : FirstEntry rows index row ↔
    (entryFills rows row.positionId).head? = some (row, index) := by
  constructor
  · intro h
    have hmem : (row, index) ∈ entryFills rows row.positionId :=
      mem_entryFills.mpr ⟨h.here, h.entry⟩
    cases hfills : entryFills rows row.positionId with
    | nil =>
      rw [hfills] at hmem
      contradiction
    | cons first rest =>
      rw [hfills] at hmem
      have hfirst := mem_entryFills.mp (hfills ▸ List.mem_cons_self)
      rcases List.mem_cons.mp hmem with heq | hrest
      · rw [heq]
        rfl
      · have hsorted := pairwise_entryFills rows row.positionId
        rw [hfills] at hsorted
        have hlt : first.2 < index := (List.pairwise_cons.mp hsorted).1 _ hrest
        exact absurd hfirst.2 (h.first first.2 first.1 hlt hfirst.1)
  · intro h
    obtain ⟨hget, hentry⟩ := mem_entryFills.mp (List.mem_of_mem_head? h)
    refine ⟨hget, hentry, fun j other hlt hother hothers => ?_⟩
    have hmem : (other, j) ∈ entryFills rows row.positionId :=
      mem_entryFills.mpr ⟨hother, hothers⟩
    have hsorted := pairwise_entryFills rows row.positionId
    cases hfills : entryFills rows row.positionId with
    | nil =>
      rw [hfills] at h
      cases h
    | cons first rest =>
      rw [hfills] at h hmem hsorted
      cases h
      rcases List.mem_cons.mp hmem with heq | hrest
      · cases heq
        omega
      · have hlater : index < j := (List.pairwise_cons.mp hsorted).1 _ hrest
        omega

end FirstEntries

section Safety

variable {rows : List LedgerRow} {positionId : String}

/-- All that `reconstruct_trade_deals` checks of a position. -/
structure CheckedPosition (rows : List LedgerRow) (positionId : String) : Prop where
  opened : ∃ fill, fill ∈ entryFills rows positionId
  identified : ∀ fill ∈ positionFills rows positionId, (ledgerTicket fill.1).isSome = true
  noReversal : ∀ fill ∈ positionFills rows positionId, fill.1.entry ≠ "INOUT"
  oneDirection : ∃ direction, ∀ fill ∈ entryFills rows positionId, fill.1.direction = direction
  entryVolume : ∀ fill ∈ entryFills rows positionId, positiveVolume fill.1 = true
  entryPrice : ∀ fill ∈ entryFills rows positionId, fill.1.price.isSome = true
  entryEconomics : ∀ fill ∈ entryFills rows positionId,
    ∀ field ∈ fill.1.economics, field.isSome = true
  exitVolume : ∀ fill ∈ positionFills rows positionId, fill.1.entry ∈ exitEntries →
    positiveVolume fill.1 = true
  walked : (walkPosition {} (positionFills rows positionId)).unsafeReason = none

theorem dedup_length_eq_one {texts : List String} :
    texts.dedup.length = 1 ↔ texts ≠ [] ∧ ∃ text, ∀ other ∈ texts, other = text := by
  constructor
  · intro h
    obtain ⟨text, htext⟩ := List.length_eq_one_iff.mp h
    constructor
    · intro hnil
      rw [hnil] at htext
      cases htext
    · refine ⟨text, fun other hother => ?_⟩
      have hmem := List.mem_dedup.mpr hother
      rw [htext] at hmem
      exact List.mem_singleton.mp hmem
  · intro h
    obtain ⟨hne, text, hall⟩ := h
    obtain ⟨other, hother⟩ := List.exists_mem_of_ne_nil texts hne
    have hsub : texts.dedup ⊆ [text] := fun other hother => by
      rw [List.mem_singleton]
      exact hall other (List.mem_dedup.mp hother)
    have hle : texts.dedup.length ≤ 1 :=
      (List.subperm_of_subset (List.nodup_dedup texts) hsub).length_le
    have hpos : 0 < texts.dedup.length := List.length_pos_of_mem (List.mem_dedup.mpr hother)
    omega

theorem openingsComplete_iff {openings : List LedgerRow} : openingsComplete openings = true ↔
    openings ≠ [] ∧ (∃ direction, ∀ row ∈ openings, row.direction = direction) ∧
      (∀ row ∈ openings, positiveVolume row = true) ∧ (∀ row ∈ openings, row.price.isSome = true) ∧
      ∀ row ∈ openings, ∀ field ∈ row.economics, field.isSome = true := by
  unfold openingsComplete
  rw [decide_eq_true_eq, dedup_length_eq_one]
  simp only [List.all_eq_true, ne_eq, List.map_eq_nil_iff, List.mem_map, forall_exists_index,
    and_imp, forall_apply_eq_imp_iff₂, and_assoc]

theorem safePosition_iff : SafePosition rows positionId ↔ CheckedPosition rows positionId := by
  have hcomplete := @openingsComplete_iff ((entryFills rows positionId).map Prod.fst)
  simp only [List.mem_map, forall_exists_index, and_imp, forall_apply_eq_imp_iff₂, ne_eq,
    List.map_eq_nil_iff] at hcomplete
  cases hcase : entryFills rows positionId with
  | nil =>
    have hfills : ((positionFills rows positionId).filter fun fill =>
        fill.1.entry ∈ openEntries) = [] := hcase
    unfold SafePosition analysePosition
    simp only [hfills]
    constructor
    · intro h
      cases h
    · intro h
      obtain ⟨fill, hfill⟩ := h.opened
      rw [hcase] at hfill
      contradiction
  | cons opening openings =>
    have hfills : ((positionFills rows positionId).filter fun fill =>
        fill.1.entry ∈ openEntries) = opening :: openings := hcase
    have hopened : ∃ fill, fill ∈ entryFills rows positionId := ⟨opening, by simp [hcase]⟩
    have hne : ¬ entryFills rows positionId = [] := by simp [hcase]
    rw [hcase] at hcomplete
    unfold SafePosition analysePosition
    simp only [hfills]
    split
    next hticket =>
      refine iff_of_false (by simp) fun h => ?_
      obtain ⟨fill, hfill, hnone⟩ := List.any_eq_true.mp hticket
      have hsome := h.identified fill hfill
      rw [Option.isNone_iff_eq_none.mp hnone] at hsome
      cases hsome
    next hticket =>
      split
      next hinout =>
        refine iff_of_false (by simp) fun h => ?_
        obtain ⟨fill, hfill, hentry⟩ := List.any_eq_true.mp hinout
        exact h.noReversal fill hfill (of_decide_eq_true hentry)
      next hinout =>
        split
        next hopenings =>
          refine iff_of_false (by simp) fun h => hopenings (hcomplete.mpr ?_)
          rw [← hcase]
          exact ⟨hne, h.oneDirection, h.entryVolume, h.entryPrice, h.entryEconomics⟩
        next hopenings =>
          rw [not_not, hcomplete, ← hcase] at hopenings
          obtain ⟨-, hdirection, hvolume, hprice, heconomics⟩ := hopenings
          split
          next hexits =>
            refine iff_of_false (by simp) fun h => hexits (List.all_eq_true.mpr fun fill hfill => ?_)
            obtain ⟨hfill, hentry⟩ := List.mem_filter.mp hfill
            exact h.exitVolume fill hfill (of_decide_eq_true hentry)
          next hexits =>
            rw [not_not, List.all_eq_true] at hexits
            constructor
            · intro hwalked
              refine ⟨hopened, fun fill hfill => ?_, fun fill hfill hentry => ?_, hdirection,
                hvolume, hprice, heconomics, fun fill hfill hentry => ?_, hwalked⟩
              · rw [← Option.not_isNone, Bool.not_eq_true']
                by_contra hnone
                exact hticket (List.any_eq_true.mpr ⟨fill, hfill, by simpa using hnone⟩)
              · exact hinout (List.any_eq_true.mpr ⟨fill, hfill, by simpa using hentry⟩)
              · exact hexits fill (List.mem_filter.mpr ⟨hfill, by simpa using hentry⟩)
            · intro h
              exact h.walked

/-- The index that the reconstruction keeps is that of the first entry. -/
theorem firstOpenIndex_eq (rows : List LedgerRow) (positionId : String) :
    (analysePosition rows positionId).firstOpenIndex =
      if (positionFills rows positionId).any fun fill => (ledgerTicket fill.1).isNone then none
      else (entryFills rows positionId).head?.map Prod.snd := by
  cases hcase : entryFills rows positionId with
  | nil =>
    have hfills : ((positionFills rows positionId).filter fun fill =>
        fill.1.entry ∈ openEntries) = [] := hcase
    unfold analysePosition
    simp only [hfills]
    split <;> rfl
  | cons opening openings =>
    have hfills : ((positionFills rows positionId).filter fun fill =>
        fill.1.entry ∈ openEntries) = opening :: openings := hcase
    unfold analysePosition
    simp only [hfills]
    repeat' split
    all_goals rfl

end Safety

section Attached

variable {rows : List LedgerRow} {anchor : LedgerAnchor} {row : LedgerRow} {index : Nat}
  {value : Rat}

theorem projectOpening_iff {before : BalanceBefore} {analysis : PositionAnalysis}
    {item : ProjectedDeal} (hitem : item.balanceBeforeOpen = none) :
    (projectOpening before analysis index item).balanceBeforeOpen = some value ↔
      analysis.firstOpenIndex = some index ∧ analysis.unsafeReason = none ∧
        before.value = some value ∧ 0 < value := by
  unfold projectOpening
  simp only
  split
  next hfirst =>
    cases hreason : analysis.unsafeReason with
    | some reason => simp [projectBalance]
    | none =>
      cases hbefore : before.value with
      | none => simp [projectBalance, hbefore]
      | some found =>
        simp only [projectBalance, hbefore]
        split
        next hpositive =>
          simp only [Option.some.injEq, hfirst, true_and]
          constructor
          · intro h
            exact ⟨h, h ▸ hpositive⟩
          · intro h
            exact h.1
        next hpositive =>
          refine iff_of_false (by simp) fun h => ?_
          have heq : found = value := Option.some.inj h.2.2.1
          exact hpositive (heq ▸ h.2.2.2)
  next hfirst =>
    refine iff_of_false (by simp [hitem]) fun h => hfirst h.1

theorem projectDeal_isSome (hproject : projectable row = true) :
    ∃ item, projectDeal rows anchor row index = some item := by
  unfold projectDeal
  rw [if_pos hproject]
  exact ⟨_, rfl⟩

@[simp] theorem projectTotal_row {item : ProjectedDeal} (positionId : String) :
    (projectTotal rows positionId item).row = item.row := by
  unfold projectTotal
  split <;> rfl

@[simp] theorem projectExit_row {item : ProjectedDeal} (analysis : PositionAnalysis) :
    (projectExit row analysis index item).row = item.row := by
  unfold projectExit
  split
  · rfl
  · split <;> rfl

@[simp] theorem projectCosts_row {item : ProjectedDeal} :
    (projectCosts row item).row = item.row := by
  unfold projectCosts
  split <;> rfl

@[simp] theorem projectBalance_row {item : ProjectedDeal} (before : BalanceBefore)
    (unsafeReason : Option String) :
    (projectBalance before unsafeReason item).row = item.row := by
  unfold projectBalance
  split
  · rfl
  · split <;> rfl
  · rfl

@[simp] theorem projectOpening_row {item : ProjectedDeal} (before : BalanceBefore)
    (analysis : PositionAnalysis) :
    (projectOpening before analysis index item).row = item.row := by
  unfold projectOpening
  simp only
  split
  · rw [projectBalance_row]
  · rfl

theorem projectDeal_row {item : ProjectedDeal}
    (h : projectDeal rows anchor row index = some item) : item.row = row := by
  unfold projectDeal at h
  split at h
  · cases h
    rw [projectTotal_row, projectExit_row]
    split
    · rw [projectOpening_row, projectCosts_row]
    · rw [projectCosts_row]
  · cases h

/-- When the reconstruction gives a row a balance. -/
theorem projectDeal_balance_iff :
    (projectDeal rows anchor row index).bind ProjectedDeal.balanceBeforeOpen = some value ↔
      projectable row = true ∧ row.entry ∈ openEntries ∧
      (analysePosition rows row.positionId).firstOpenIndex = some index ∧
      SafePosition rows row.positionId ∧
      ((balancesBefore rows anchor).getD index ⟨none, "ledger_unavailable"⟩).value = some value ∧
      0 < value := by
  unfold projectDeal SafePosition
  split
  next hproject =>
    simp only [Option.bind_some, projectTotal_balance, projectExit_balance, hproject, true_and]
    split
    next hopen =>
      rw [projectOpening_iff (by simp)]
      simp only [hopen, true_and]
    next hopen => simp [hopen]
  next hproject => simp [hproject]

theorem openEntries_valid {entry : String} (h : entry ∈ openEntries) : entry ∈ validEntries := by
  simp only [openEntries, List.mem_cons, List.not_mem_nil, or_false] at h
  rcases h with h | h <;> rw [h] <;> decide

theorem projectable_of_entry (hentry : EntryOf row.positionId row) (hsymbol : UsableSymbol row) :
    projectable row = true := by
  obtain ⟨hposition, -, hopen⟩ := hentry
  exact decide_eq_true ⟨hposition, hsymbol, openEntries_valid hopen⟩

/-- The rows that get a balance and which. -/
theorem openingBalance_iff : openingBalance rows anchor index = some value ↔
    ∃ row, FirstEntry rows index row ∧ UsableSymbol row ∧ anchor.Coherent ∧
      (∀ other ∈ rows.drop index, EconomicsKnown other) ∧ SafePosition rows row.positionId ∧
      0 < value ∧ ∃ balance, anchor.balance = some balance ∧
        value = balance - ((rows.drop index).map rowEffect).sum := by
  unfold openingBalance projectedAt
  cases hget : rows[index]? with
  | none =>
    refine iff_of_false (by simp) fun h => ?_
    obtain ⟨row, hfirst, -⟩ := h
    rw [hfirst.here] at hget
    cases hget
  | some row =>
    simp only [Option.bind_some, projectDeal_balance_iff, balancesBefore_iff hget]
    constructor
    · intro h
      obtain ⟨hproject, hopen, hfirst, hsafe, ⟨hcoherent, hknown, hvalue⟩, hpositive⟩ := h
      obtain ⟨hposition, hsymbol, -⟩ := of_decide_eq_true hproject
      have hentry : (row, index) ∈ entryFills rows row.positionId :=
        mem_entryFills.mpr ⟨hget, hposition, rfl, hopen⟩
      have hhead : (entryFills rows row.positionId).head? = some (row, index) := by
        rw [firstOpenIndex_eq] at hfirst
        split at hfirst
        · cases hfirst
        · obtain ⟨fill, hfill, hindex⟩ := Option.map_eq_some_iff.mp hfirst
          have hother := (mem_entryFills.mp (List.mem_of_mem_head? hfill)).1
          rw [hindex, hget] at hother
          rw [hfill, ← hindex, Option.some.inj hother]
      exact ⟨row, firstEntry_iff.mpr hhead, hsymbol, hcoherent, hknown, hsafe, hpositive, hvalue⟩
    · intro h
      obtain ⟨other, hfirst, hsymbol, hcoherent, hknown, hsafe, hpositive, hvalue⟩ := h
      have heq : row = other := Option.some.inj (hget.symm.trans hfirst.here)
      subst heq
      refine ⟨projectable_of_entry hfirst.entry hsymbol, hfirst.entry.2.2, ?_, hsafe,
        ⟨hcoherent, hknown, hvalue⟩, hpositive⟩
      have hchecked := safePosition_iff.mp hsafe
      rw [firstOpenIndex_eq, if_neg, firstEntry_iff.mp hfirst]
      · rfl
      · intro hnone
        obtain ⟨fill, hfill, hticket⟩ := List.any_eq_true.mp hnone
        have hsome := hchecked.identified fill hfill
        rw [Option.isNone_iff_eq_none.mp hticket] at hsome
        cases hsome

end Attached

section Irrelevance

variable {rows rows' : List LedgerRow} {index : Nat} {positionId : String}

/-- A fill with nothing left of what it did to the account. -/
def bareFill (fill : LedgerRow × Nat) : LedgerRow × Nat := (fill.1.withoutEconomics, fill.2)

theorem positionFills_map (rows : List LedgerRow) (positionId : String) :
    positionFills (rows.map LedgerRow.withoutEconomics) positionId =
      (positionFills rows positionId).map bareFill := by
  unfold positionFills
  rw [List.zipIdx_map, List.filter_map]
  rfl

theorem entryFills_map (rows : List LedgerRow) (positionId : String) :
    entryFills (rows.map LedgerRow.withoutEconomics) positionId =
      (entryFills rows positionId).map bareFill := by
  unfold entryFills
  rw [positionFills_map, List.filter_map]
  rfl

/-- The walk through the fills does not look at their economics. -/
theorem walkPosition_map (fills : List (LedgerRow × Nat)) (walk : PositionWalk) :
    walkPosition walk (fills.map bareFill) = walkPosition walk fills := by
  induction fills generalizing walk with
  | nil => rfl
  | cons fill rest ih =>
    obtain ⟨row, place⟩ := fill
    simp only [List.map_cons, bareFill, LedgerRow.withoutEconomics, walkPosition]
    simp only [← ih]

/-- What a fill is once its economics are taken away. -/
theorem bareFill_mem {fills fills' : List (LedgerRow × Nat)}
    (h : fills'.map bareFill = fills.map bareFill) {fill : LedgerRow × Nat} (hmem : fill ∈ fills') :
    ∃ other ∈ fills, bareFill other = bareFill fill := by
  have hmap : bareFill fill ∈ fills.map bareFill := by
    rw [← h]
    exact List.mem_map_of_mem hmem
  exact List.mem_map.mp hmap

theorem bareFill_eq {fill other : LedgerRow × Nat} (h : bareFill other = bareFill fill) :
    ledgerTicket other.1 = ledgerTicket fill.1 ∧ other.1.entry = fill.1.entry ∧
      positiveVolume other.1 = positiveVolume fill.1 := by
  have hrow : other.1.withoutEconomics = fill.1.withoutEconomics := congrArg Prod.fst h
  simp only [LedgerRow.withoutEconomics, LedgerRow.mk.injEq] at hrow
  obtain ⟨hticket, -, -, -, -, -, hentry, hvolume, -⟩ := hrow
  exact ⟨by rw [ledgerTicket, ledgerTicket, hticket], hentry, by
    rw [positiveVolume, positiveVolume, hvolume]⟩

/-- The checks look at the economics of the entries only. -/
theorem checkedPosition_congr
    (hrows : rows'.map LedgerRow.withoutEconomics = rows.map LedgerRow.withoutEconomics)
    (hentries : ∀ fill ∈ entryFills rows' positionId, fill ∈ entryFills rows positionId)
    (h : CheckedPosition rows positionId) : CheckedPosition rows' positionId := by
  have hfills : (positionFills rows' positionId).map bareFill =
      (positionFills rows positionId).map bareFill := by
    rw [← positionFills_map, hrows, positionFills_map]
  have hopened : (entryFills rows' positionId).map bareFill =
      (entryFills rows positionId).map bareFill := by
    rw [← entryFills_map, hrows, entryFills_map]
  obtain ⟨direction, hdirection⟩ := h.oneDirection
  constructor
  · obtain ⟨fill, hfill⟩ := h.opened
    obtain ⟨other, hother, -⟩ := bareFill_mem hopened.symm hfill
    exact ⟨other, hother⟩
  · intro fill hfill
    obtain ⟨other, hother, heq⟩ := bareFill_mem hfills hfill
    rw [← (bareFill_eq heq).1]
    exact h.identified other hother
  · intro fill hfill
    obtain ⟨other, hother, heq⟩ := bareFill_mem hfills hfill
    rw [← (bareFill_eq heq).2.1]
    exact h.noReversal other hother
  · exact ⟨direction, fun fill hfill => hdirection fill (hentries fill hfill)⟩
  · exact fun fill hfill => h.entryVolume fill (hentries fill hfill)
  · exact fun fill hfill => h.entryPrice fill (hentries fill hfill)
  · exact fun fill hfill => h.entryEconomics fill (hentries fill hfill)
  · intro fill hfill hexit
    obtain ⟨other, hother, heq⟩ := bareFill_mem hfills hfill
    rw [← (bareFill_eq heq).2.2]
    exact h.exitVolume other hother (by rw [(bareFill_eq heq).2.1]; exact hexit)
  · rw [← walkPosition_map, hfills, walkPosition_map]
    exact h.walked

theorem getElem?_of_drop (hdrop : rows'.drop index = rows.drop index) {j : Nat} (hj : index ≤ j) :
    rows'[j]? = rows[j]? := by
  have h := congrArg (fun later : List LedgerRow => later[j - index]?) hdrop
  simp only [List.getElem?_drop] at h
  rw [show index + (j - index) = j by omega] at h
  exact h

theorem firstEntry_congr
    (hrows : rows'.map LedgerRow.withoutEconomics = rows.map LedgerRow.withoutEconomics)
    (hdrop : rows'.drop index = rows.drop index) {row : LedgerRow}
    (h : FirstEntry rows index row) : FirstEntry rows' index row := by
  refine ⟨?_, h.entry, fun j other hlt hother hentry => ?_⟩
  · rw [getElem?_of_drop hdrop (le_refl index)]
    exact h.here
  · have hmap := congrArg (fun all : List LedgerRow => all[j]?) hrows
    simp only [List.getElem?_map, hother, Option.map_some] at hmap
    obtain ⟨before, hbefore, heq⟩ := Option.map_eq_some_iff.mp hmap.symm
    simp only [LedgerRow.withoutEconomics, LedgerRow.mk.injEq] at heq
    obtain ⟨-, htype, hid, -, -, -, hopen, -⟩ := heq
    apply h.first j before hlt hbefore
    rw [EntryOf, LedgerRow.ofPosition, LedgerRow.isTrade, htype, hid, hopen]
    exact hentry

/-- The economics of what stands before an entry do not change its balance. -/
theorem openingBalance_congr {anchor : LedgerAnchor} {value : Rat}
    (hrows : rows'.map LedgerRow.withoutEconomics = rows.map LedgerRow.withoutEconomics)
    (hdrop : rows'.drop index = rows.drop index)
    (h : openingBalance rows anchor index = some value) :
    openingBalance rows' anchor index = some value := by
  obtain ⟨row, hfirst, hsymbol, hcoherent, hknown, hsafe, hpositive, hvalue⟩ :=
    openingBalance_iff.mp h
  have hfirst' := firstEntry_congr hrows hdrop hfirst
  have hentries : ∀ fill ∈ entryFills rows' row.positionId,
      fill ∈ entryFills rows row.positionId := by
    intro fill hfill
    obtain ⟨hget, hentry⟩ := mem_entryFills.mp hfill
    have hplace : index ≤ fill.2 := by
      by_contra hlt
      exact hfirst'.first fill.2 fill.1 (by omega) hget hentry
    rw [getElem?_of_drop hdrop hplace] at hget
    exact mem_entryFills.mpr ⟨hget, hentry⟩
  have hsafe' : SafePosition rows' row.positionId :=
    safePosition_iff.mpr (checkedPosition_congr hrows hentries (safePosition_iff.mp hsafe))
  rw [openingBalance_iff, hdrop]
  exact ⟨row, hfirst', hsymbol, hcoherent, hknown, hsafe', hpositive, hvalue⟩

end Irrelevance

/-- A balance before an opening is the anchor without the row and all that follow it. The first
entry of a position has one exactly when this can be known, and what stands before the entry
has no part in it. -/
theorem balanceBeforeOpen_exact (rows : List LedgerRow) (anchor : LedgerAnchor) :
    (∀ item, item ∈ reconstructTradeDeals rows anchor ↔
      ∃ index, projectedAt rows anchor index = some item) ∧
    (∀ index item value, projectedAt rows anchor index = some item →
      item.balanceBeforeOpen = some value → FirstEntry rows index item.row ∧
        ∃ balance, anchor.balance = some balance ∧
          value = balance - ((rows.drop index).map rowEffect).sum) ∧
    (∀ index row, FirstEntry rows index row → UsableSymbol row →
      ∃ item, projectedAt rows anchor index = some item ∧
        ((∃ value, item.balanceBeforeOpen = some value) ↔
          anchor.Coherent ∧ (∀ other ∈ rows.drop index, EconomicsKnown other) ∧
            (∀ balance, anchor.balance = some balance →
              0 < balance - ((rows.drop index).map rowEffect).sum) ∧
            SafePosition rows row.positionId)) ∧
    ∀ index rows', rows'.map LedgerRow.withoutEconomics = rows.map LedgerRow.withoutEconomics →
      rows'.drop index = rows.drop index →
      openingBalance rows' anchor index = openingBalance rows anchor index := by
  refine ⟨fun item => mem_reconstructTradeDeals, fun index item value hitem hvalue => ?_,
    fun index row hfirst hsymbol => ?_, fun index rows' hrows hdrop => ?_⟩
  · have hbalance : openingBalance rows anchor index = some value := by
      rw [openingBalance, hitem]
      exact hvalue
    obtain ⟨row, hfirst, -, -, -, -, -, hsum⟩ := openingBalance_iff.mp hbalance
    have hrow : item.row = row := by
      rw [projectedAt, hfirst.here] at hitem
      exact projectDeal_row hitem
    rw [hrow]
    exact ⟨hfirst, hsum⟩
  · obtain ⟨item, hitem⟩ := @projectDeal_isSome rows anchor row index
      (projectable_of_entry hfirst.entry hsymbol)
    have hat : projectedAt rows anchor index = some item := by
      rw [projectedAt, hfirst.here]
      exact hitem
    refine ⟨item, hat, ?_⟩
    have hopening : openingBalance rows anchor index = item.balanceBeforeOpen := by
      rw [openingBalance, hat]
      rfl
    rw [← hopening]
    constructor
    · intro h
      obtain ⟨value, hvalue⟩ := h
      obtain ⟨other, hother, -, hcoherent, hknown, hsafe, hpositive, balance, hbalance, hsum⟩ :=
        openingBalance_iff.mp hvalue
      have heq : other = row := Option.some.inj (hother.here.symm.trans hfirst.here)
      rw [heq] at hsafe
      refine ⟨hcoherent, hknown, fun found hfound => ?_, hsafe⟩
      rw [Option.some.inj (hfound.symm.trans hbalance), ← hsum]
      exact hpositive
    · intro h
      obtain ⟨hcoherent, hknown, hpositive, hsafe⟩ := h
      obtain ⟨balance, hbalance⟩ := Option.isSome_iff_exists.mp hcoherent.1
      exact ⟨_, openingBalance_iff.mpr ⟨row, hfirst, hsymbol, hcoherent, hknown, hsafe,
        hpositive balance hbalance, balance, hbalance, rfl⟩⟩
  · cases hcase : openingBalance rows anchor index with
    | some value => exact openingBalance_congr hrows hdrop hcase
    | none =>
      rw [Option.eq_none_iff_forall_ne_some]
      intro value hvalue
      have hback := openingBalance_congr hrows.symm hdrop.symm hvalue
      rw [hcase] at hback
      cases hback

end TradeJournalWorker
