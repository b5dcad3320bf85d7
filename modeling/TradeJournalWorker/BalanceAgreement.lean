import Mathlib.Algebra.BigOperators.Group.List.Lemmas
import Mathlib.Data.List.Perm.Lattice
import Mathlib.Tactic.Linarith
import Mathlib.Tactic.Ring
import TradeJournalWorker.HistoryBalance

namespace TradeJournalWorker

/-- A deal as MT5 keeps it. -/
structure MtDeal where
  ticket : Nat
  dealType : Int
  entry : Entry
  positionId : Nat
  orderId : Nat
  symbol : String
  volume : Rat
  price : Rat
  profit : Rat
  commission : Rat
  swap : Rat
  fee : Rat
  timeMsc : Int := 0
  time : String := ""
  deriving DecidableEq, Repr

def entryToString : Entry → String
  | .in => "IN"
  | .out => "OUT"
  | .inout => "INOUT"
  | .outBy => "OUT_BY"
  | .unknown => "UNKNOWN"

/-- The row that `BuildDealsJson` exports. -/
def buildDealsRow (deal : MtDeal) : LedgerRow where
  ticket := some (toString deal.ticket)
  dealType := some deal.dealType
  positionId := toString deal.positionId
  orderId := toString deal.orderId
  symbol := some deal.symbol
  direction := if deal.dealType = 1 then "sell" else "buy"
  entry := entryToString deal.entry
  volume := some deal.volume
  price := some deal.price
  profit := some deal.profit
  commission := some deal.commission
  swap := some deal.swap
  fee := some deal.fee
  timeMsc := some deal.timeMsc
  time := some deal.time

/-- `balance_before_open` in `BuildEventJson` of a deal. -/
def buildEventBalance (accountBalance : Rat) (entry : Entry) (profit commission swap : Rat) :
    Option Rat :=
  let balanceBeforeOpen := accountBalance - profit - commission - swap
  if entry = .in ∧ 0 < balanceBeforeOpen then some balanceBeforeOpen else none

/-- `EmitDealAddEvent` puts the fee into the commission. -/
def emitDealBalance (accountBalance : Rat) (deal : MtDeal) : Option Rat :=
  buildEventBalance accountBalance deal.entry deal.profit (deal.commission + deal.fee) deal.swap

section Ledger

variable {α : Type} (toRow : α → LedgerRow) (account : α → Rat)

/-- The walk has subtracted every entry behind the one it stands at. -/
structure WalkedBack (balance : Rat) (ledger : List α) (walk : LedgerWalk) : Prop where
  running : walk.ledgerKnown = true → walk.runningBalance = balance - (ledger.map account).sum
  before : ∀ (i : Nat) (entry : BalanceBefore) (value : Rat), walk.before[i]? = some entry →
    entry.value = some value → value = balance - ((ledger.drop i).map account).sum

variable {toRow account}

theorem walkedBack_step {balance : Rat} {deal : α} {ledger : List α} {walk : LedgerWalk}
    (haccount : ∀ b c, effect (toRow deal) = some (b, c) → account deal = b)
    (hwalk : WalkedBack account balance ledger walk) :
    WalkedBack account balance (deal :: ledger) (walk.back (toRow deal)) := by
  have hlater : ∀ (first entry : BalanceBefore) (i : Nat) (value : Rat),
      (first.value = some value → value = balance - ((deal :: ledger).map account).sum) →
      (first :: walk.before)[i]? = some entry → entry.value = some value →
      value = balance - (((deal :: ledger).drop i).map account).sum := by
    intro first entry i value hfirst hget hvalue
    cases i with
    | zero =>
      cases Option.some.inj hget
      exact hfirst hvalue
    | succ i => exact hwalk.before i entry value hget hvalue
  cases heffect : effect (toRow deal) with
  | none =>
    simp only [LedgerWalk.back, heffect]
    refine ⟨fun h => absurd h Bool.false_ne_true, fun i entry value hget hvalue => ?_⟩
    exact hlater _ entry i value (fun h => by cases h) hget hvalue
  | some effects =>
    obtain ⟨balanceEffect, creditEffect⟩ := effects
    have hsum : ((deal :: ledger).map account).sum = balanceEffect + (ledger.map account).sum := by
      rw [List.map_cons, List.sum_cons, haccount _ _ heffect]
    simp only [LedgerWalk.back, heffect]
    split
    next hknown =>
      have hrunning : walk.runningBalance - balanceEffect =
          balance - ((deal :: ledger).map account).sum := by
        rw [hwalk.running hknown, hsum]
        ring
      refine ⟨fun _ => hrunning, fun i entry value hget hvalue => ?_⟩
      exact hlater _ entry i value (fun h => by rw [← hrunning]; exact (Option.some.inj h).symm)
        hget hvalue
    next hunknown =>
      refine ⟨fun h => absurd h hunknown, fun i entry value hget hvalue => ?_⟩
      exact hlater _ entry i value (fun h => by cases h) hget hvalue

theorem walkedBack {balance credit : Rat} (ledger : List α)
    (haccount : ∀ deal b c, effect (toRow deal) = some (b, c) → account deal = b) :
    WalkedBack account balance ledger ((ledger.map toRow).foldr LedgerWalk.back
      { runningBalance := balance, runningCredit := credit }) := by
  induction ledger with
  | nil =>
    refine ⟨fun _ => ?_, fun i entry value hget => ?_⟩
    · simp
    · simp at hget
  | cons deal rest ih =>
    rw [List.map_cons, List.foldr_cons]
    exact walkedBack_step (haccount deal) ih

/-- A reconstructed balance is the anchor without the deal and all that follow it. -/
theorem balancesBefore_value {ledger : List α} {anchor : LedgerAnchor} {i : Nat}
    {entry : BalanceBefore} {value : Rat}
    (haccount : ∀ deal b c, effect (toRow deal) = some (b, c) → account deal = b)
    (hget : (balancesBefore (ledger.map toRow) anchor)[i]? = some entry)
    (hvalue : entry.value = some value) :
    ∃ balance, anchor.balance = some balance ∧
      value = balance - ((ledger.drop i).map account).sum := by
  unfold balancesBefore at hget
  split at hget
  next balance credit hbalance _ _ =>
    exact ⟨balance, hbalance, (walkedBack ledger haccount).before i entry value hget hvalue⟩
  next =>
    rw [List.getElem?_map] at hget
    obtain ⟨row, -, rfl⟩ := Option.map_eq_some_iff.mp hget
    cases hvalue

end Ledger

section Projection

variable {rows : List LedgerRow} {anchor : LedgerAnchor} {row : LedgerRow} {item : ProjectedDeal}

@[simp] theorem projectTotal_balance (positionId : String) :
    (projectTotal rows positionId item).balanceBeforeOpen = item.balanceBeforeOpen := by
  unfold projectTotal
  split <;> rfl

@[simp] theorem projectExit_balance (analysis : PositionAnalysis) (index : Nat) :
    (projectExit row analysis index item).balanceBeforeOpen = item.balanceBeforeOpen := by
  unfold projectExit
  split
  · rfl
  · split <;> rfl

@[simp] theorem projectCosts_balance :
    (projectCosts row item).balanceBeforeOpen = item.balanceBeforeOpen := by
  unfold projectCosts
  split <;> rfl

theorem projectBalance_eq_some {before : BalanceBefore} {unsafeReason : Option String}
    {value : Rat} (h : (projectBalance before unsafeReason item).balanceBeforeOpen = some value) :
    before.value = some value ∧ 0 < value := by
  unfold projectBalance at h
  split at h
  next => cases h
  next balance hbalance =>
    split at h
    next hpositive =>
      cases h
      exact ⟨hbalance, hpositive⟩
    next => cases h
  next => cases h

theorem projectOpening_eq_some {before : BalanceBefore} {analysis : PositionAnalysis}
    {index : Nat} {value : Rat} (hitem : item.balanceBeforeOpen = none)
    (h : (projectOpening before analysis index item).balanceBeforeOpen = some value) :
    before.value = some value ∧ 0 < value := by
  unfold projectOpening at h
  simp only at h
  split at h
  · exact projectBalance_eq_some h
  · simp only at h
    rw [hitem] at h
    cases h

/-- The reconstruction gives a balance only to a trade that opens. -/
theorem projectDeal_balance {index : Nat} {value : Rat}
    (hproject : projectDeal rows anchor row index = some item)
    (hvalue : item.balanceBeforeOpen = some value) :
    row.isTrade = true ∧ row.entry ∈ openEntries ∧ 0 < value ∧
      ∃ entry, (balancesBefore rows anchor)[index]? = some entry ∧ entry.value = some value := by
  unfold projectDeal at hproject
  split at hproject
  next hrow =>
    cases hproject
    simp only [projectTotal_balance, projectExit_balance] at hvalue
    have htrade : row.isTrade = true := by
      have hposition : row.ofPosition = true := (of_decide_eq_true hrow).1
      exact (of_decide_eq_true hposition).2.2
    split at hvalue
    next hopen =>
      obtain ⟨hbefore, hpositive⟩ := projectOpening_eq_some (by simp) hvalue
      refine ⟨htrade, hopen, hpositive, ?_⟩
      cases hget : (balancesBefore rows anchor)[index]? with
      | none =>
        rw [List.getD_eq_getElem?_getD, hget] at hbefore
        cases hbefore
      | some entry =>
        rw [List.getD_eq_getElem?_getD, hget] at hbefore
        exact ⟨entry, rfl, hbefore⟩
    next => simp at hvalue
  next => cases hproject

end Projection

section Callback

variable (account : MtDeal → Rat) (ledger : List MtDeal)

/-- What the deal at this place of the ledger does to the balance. -/
def balanceEffect (index : Nat) : Rat := (ledger[index]?.map account).getD 0

/-- The total effect of the deals at these places. -/
def totalEffect (indices : List Nat) : Rat := (indices.map (balanceEffect account ledger)).sum

/-- Deals that stand behind `index` in the ledger and were posted before the callback. -/
def overtaking (posted : List Nat) (index : Nat) : List Nat := posted.filter (index < ·)

/-- Deals that stand before `index` in the ledger and were not posted yet. -/
def missing (posted : List Nat) (index : Nat) : List Nat :=
  (List.range index).filter (· ∉ posted)

variable {account ledger}

theorem totalEffect_append (left right : List Nat) : totalEffect account ledger (left ++ right) =
    totalEffect account ledger left + totalEffect account ledger right := by
  unfold totalEffect
  rw [List.map_append, List.sum_append]

theorem totalEffect_perm {left right : List Nat} (h : left.Perm right) :
    totalEffect account ledger left = totalEffect account ledger right :=
  (h.map _).sum_eq

theorem totalEffect_filter (indices : List Nat) (p : Nat → Bool) :
    totalEffect account ledger indices = totalEffect account ledger (indices.filter p) +
      totalEffect account ledger (indices.filter fun j => ! p j) := by
  rw [← totalEffect_append]
  exact (totalEffect_perm (List.filter_append_perm p indices)).symm

/-- Summing over all places is summing over the ledger. -/
theorem totalEffect_range (ledger : List MtDeal) :
    totalEffect account ledger (List.range ledger.length) = (ledger.map account).sum := by
  unfold totalEffect
  congr 1
  apply List.ext_getElem
  · simp
  · intro i hleft hright
    have hi : i < ledger.length := by simpa using hright
    simp [balanceEffect, hi]

theorem sum_drop_eq {index : Nat} (hindex : index ≤ ledger.length) :
    (ledger.map account).sum = totalEffect account ledger (List.range index) +
      ((ledger.drop index).map account).sum := by
  have hsplit : (ledger.map account).sum = ((ledger.take index).map account).sum +
      ((ledger.drop index).map account).sum := by
    rw [← List.sum_append, ← List.map_append, List.take_append_drop]
  have htake : totalEffect account ledger (List.range index) =
      ((ledger.take index).map account).sum := by
    rw [← totalEffect_range, List.length_take, min_eq_left hindex]
    unfold totalEffect
    congr 1
    apply List.map_congr_left
    intro j hj
    have hlt : j < index := List.mem_range.mp hj
    unfold balanceEffect
    rw [List.getElem?_take_of_lt hlt]
  rw [hsplit, htake]

/-- What is posted, split at the place of a posted deal. -/
theorem totalEffect_posted {posted : List Nat} {index : Nat} (hnodup : posted.Nodup)
    (hmem : index ∈ posted) :
    totalEffect account ledger posted + totalEffect account ledger (missing posted index) =
      totalEffect account ledger (List.range index) + balanceEffect account ledger index +
        totalEffect account ledger (overtaking posted index) := by
  have hbehind := @totalEffect_filter account ledger posted (index < ·)
  have hrange := @totalEffect_filter account ledger (List.range index)
    (· ∈ posted)
  have hupto : (posted.filter fun j => ! decide (index < j)).Perm
      (index :: (List.range index).filter (· ∈ posted)) := by
    refine (List.perm_ext_iff_of_nodup (hnodup.filter _) ?_).mpr fun j => ?_
    · refine List.nodup_cons.mpr ⟨?_, List.nodup_range.filter _⟩
      simp
    · simp only [List.mem_filter, List.mem_cons, List.mem_range, Bool.not_eq_true',
        decide_eq_false_iff_not, not_lt, decide_eq_true_eq]
      constructor
      · intro h
        rcases Nat.lt_or_eq_of_le h.2 with hlt | heq
        · exact Or.inr ⟨hlt, h.1⟩
        · exact Or.inl heq
      · rintro (rfl | h)
        · exact ⟨hmem, le_refl _⟩
        · exact ⟨h.2, h.1.le⟩
  have hcons : totalEffect account ledger (index :: (List.range index).filter (· ∈ posted)) =
      balanceEffect account ledger index +
        totalEffect account ledger ((List.range index).filter (· ∈ posted)) := by
    unfold totalEffect
    rw [List.map_cons, List.sum_cons]
  have hmissing : (List.range index).filter (fun j => ! decide (j ∈ posted)) =
      missing posted index := by
    unfold missing
    apply List.filter_congr
    intro j _
    exact (decide_not (p := j ∈ posted)).symm
  rw [totalEffect_perm hupto, hcons] at hbehind
  rw [hmissing] at hrange
  unfold overtaking
  linarith

/-- The balance that the bridge sends with an opening deal, read when `seen` deals are posted,
is the one the ledger gives it exactly when the deals out of place cancel out. -/
theorem balance_agrees_iff (account : MtDeal → Rat)
    (haccount : ∀ deal balance credit, effect (buildDealsRow deal) = some (balance, credit) →
      account deal = balance)
    (ledger : List MtDeal) (start : Rat) (anchor : LedgerAnchor)
    (hanchor : ∀ balance, anchor.balance = some balance →
      balance = start + (ledger.map account).sum)
    (posted : List Nat) (hposted : posted.Perm (List.range ledger.length)) (seen index : Nat)
    (hseen : index ∈ posted.take seen) (deal : MtDeal) (hdeal : ledger[index]? = some deal)
    (item : ProjectedDeal)
    (hitem : projectDeal (ledger.map buildDealsRow) anchor (buildDealsRow deal) index = some item)
    (value : Rat) (hvalue : item.balanceBeforeOpen = some value) :
    emitDealBalance (start + totalEffect account ledger (posted.take seen)) deal = some value ↔
      totalEffect account ledger (overtaking (posted.take seen) index) =
        totalEffect account ledger (missing (posted.take seen) index) := by
  obtain ⟨htrade, hopen, hpositive, entry, hget, hbefore⟩ := projectDeal_balance hitem hvalue
  obtain ⟨balance, hbalance, hledger⟩ := balancesBefore_value haccount hget hbefore
  have hindex : index ≤ ledger.length := by
    obtain ⟨hlt, -⟩ := List.getElem?_eq_some_iff.mp hdeal
    omega
  have hnodup : (posted.take seen).Nodup :=
    ((hposted.nodup_iff.mpr List.nodup_range).sublist (List.take_sublist _ _))
  have hsums := @totalEffect_posted account ledger _ _ hnodup hseen
  have hdrop := @sum_drop_eq account ledger _ hindex
  have hown : balanceEffect account ledger index =
      deal.profit + deal.commission + deal.swap + deal.fee := by
    have htype : deal.dealType ∈ tradeDealTypes := of_decide_eq_true htrade
    have heffect : effect (buildDealsRow deal) =
        some (deal.profit + deal.commission + deal.swap + deal.fee, 0) := by
      simp only [tradeDealTypes, List.mem_cons, List.not_mem_nil, or_false] at htype
      rcases htype with htype | htype <;>
        simp [effect, LedgerRow.total, buildDealsRow, htype, creditDealType, knownBalanceDealTypes]
    unfold balanceEffect
    rw [hdeal]
    exact haccount deal _ _ heffect
  have hentry : deal.entry = .in := by
    change entryToString deal.entry ∈ openEntries at hopen
    cases hcase : deal.entry <;> rw [hcase] at hopen <;> revert hopen <;> decide
  have hstart := hanchor balance hbalance
  have hraw : start + totalEffect account ledger (posted.take seen) - deal.profit -
      (deal.commission + deal.fee) - deal.swap = value +
        (totalEffect account ledger (overtaking (posted.take seen) index) -
          totalEffect account ledger (missing (posted.take seen) index)) := by
    rw [hown] at hsums
    linarith
  unfold emitDealBalance buildEventBalance
  simp only [hraw, hentry, true_and]
  constructor
  · intro h
    split at h
    · have heq := Option.some.inj h
      linarith
    · cases h
  · intro h
    rw [h, sub_self, add_zero, if_pos hpositive]

/-- A deposit, the fill that opens position 7, and a second deposit. -/
def depositAfterFill : List MtDeal :=
  [{ ticket := 1, dealType := 2, entry := .in, positionId := 0, orderId := 0, symbol := ""
     volume := 0, price := 0, profit := 1000, commission := 0, swap := 0, fee := 0 },
    { ticket := 2, dealType := 0, entry := .in, positionId := 7, orderId := 7, symbol := "EURUSD"
      volume := 1, price := 1, profit := 0, commission := -2, swap := 0, fee := 0 },
    { ticket := 3, dealType := 2, entry := .in, positionId := 0, orderId := 0, symbol := ""
      volume := 0, price := 0, profit := 50, commission := 0, swap := 0, fee := 0 }]

def openingFill : MtDeal :=
  { ticket := 2, dealType := 0, entry := .in, positionId := 7, orderId := 7, symbol := "EURUSD"
    volume := 1, price := 1, profit := 0, commission := -2, swap := 0, fee := 0 }

/-- The account moves by what the reconstruction knows of a deal. -/
def knownEffect (deal : MtDeal) : Rat := ((effect (buildDealsRow deal)).map Prod.fst).getD 0

theorem knownEffect_eq (deal : MtDeal) (balance credit : Rat)
    (h : effect (buildDealsRow deal) = some (balance, credit)) : knownEffect deal = balance := by
  unfold knownEffect
  rw [h]
  rfl

def anchorAfterDeposit : LedgerAnchor :=
  { balance := some 1048, credit := some 0, coherent := true }

theorem anchorAfterDeposit_eq (balance : Rat) (h : anchorAfterDeposit.balance = some balance) :
    balance = 0 + (depositAfterFill.map knownEffect).sum := by
  cases h
  decide +kernel

/-- The reconstruction gives the fill the balance of the first deposit. -/
theorem reconstructed_openingFill : ∃ item,
    projectDeal (depositAfterFill.map buildDealsRow) anchorAfterDeposit
      (buildDealsRow openingFill) 1 = some item ∧ item.balanceBeforeOpen = some 1000 := by
  have hsome : (projectDeal (depositAfterFill.map buildDealsRow) anchorAfterDeposit
      (buildDealsRow openingFill) 1).bind ProjectedDeal.balanceBeforeOpen = some 1000 := by
    decide +kernel
  obtain ⟨item, hitem, hvalue⟩ := Option.bind_eq_some_iff.mp hsome
  exact ⟨item, hitem, hvalue⟩

/-- A callback right after the posting of the fill. -/
theorem balance_agrees_iff_prompt :
    emitDealBalance (0 + totalEffect knownEffect depositAfterFill ([0, 1, 2].take 2)) openingFill =
        some 1000 ↔
      totalEffect knownEffect depositAfterFill (overtaking ([0, 1, 2].take 2) 1) =
        totalEffect knownEffect depositAfterFill (missing ([0, 1, 2].take 2) 1) := by
  obtain ⟨item, hitem, hvalue⟩ := reconstructed_openingFill
  exact balance_agrees_iff knownEffect knownEffect_eq depositAfterFill 0 anchorAfterDeposit
    anchorAfterDeposit_eq [0, 1, 2] (by decide) 2 1 (by decide) openingFill rfl item hitem 1000
    hvalue

/-- A callback that comes after the second deposit counts it as balance before the fill. -/
theorem not_balance_agrees_late :
    ¬ ∀ (account : MtDeal → Rat), (∀ deal balance credit,
        effect (buildDealsRow deal) = some (balance, credit) → account deal = balance) →
      ∀ (ledger : List MtDeal) (start : Rat) (anchor : LedgerAnchor),
      (∀ balance, anchor.balance = some balance → balance = start + (ledger.map account).sum) →
      ∀ posted : List Nat, posted.Perm (List.range ledger.length) → ∀ seen index : Nat,
      index ∈ posted.take seen → ∀ deal, ledger[index]? = some deal → ∀ item,
      projectDeal (ledger.map buildDealsRow) anchor (buildDealsRow deal) index = some item →
      ∀ value, item.balanceBeforeOpen = some value →
      emitDealBalance (start + totalEffect account ledger (posted.take seen)) deal =
        some value := by
  intro h
  obtain ⟨item, hitem, hvalue⟩ := reconstructed_openingFill
  have hlate := h knownEffect knownEffect_eq depositAfterFill 0 anchorAfterDeposit
    anchorAfterDeposit_eq [0, 1, 2] (by decide) 3 1 (by decide) openingFill rfl item hitem 1000
    hvalue
  revert hlate
  decide +kernel

end Callback

end TradeJournalWorker
