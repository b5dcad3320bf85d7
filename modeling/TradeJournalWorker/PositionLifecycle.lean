import Mathlib.Tactic.FieldSimp
import TradeJournalWorker.ListPrefixes
import TradeJournalWorker.OpeningBalance

namespace TradeJournalWorker

open ListPrefixes

/-- The row takes volume out of the position. -/
def ExitOf (positionId : String) (row : LedgerRow) : Prop :=
  row.ofPosition = true ∧ row.positionId = positionId ∧ row.entry ∈ exitEntries

instance (positionId : String) (row : LedgerRow) : Decidable (EntryOf positionId row) :=
  inferInstanceAs (Decidable (_ ∧ _ ∧ _))

instance (positionId : String) (row : LedgerRow) : Decidable (ExitOf positionId row) :=
  inferInstanceAs (Decidable (_ ∧ _ ∧ _))

/-- What a row does to the volume of a position. -/
def signedVolume (positionId : String) (row : LedgerRow) : Rat :=
  if EntryOf positionId row then row.volume.getD 0
  else if ExitOf positionId row then - row.volume.getD 0
  else 0

/-- The running volume: entries minus exits. -/
def runningVolume (positionId : String) (ledger : List LedgerRow) : Rat :=
  (ledger.map (signedVolume positionId)).sum

/-- An entry moves the average price by its weight, an exit leaves it. -/
def averageStep (positionId : String) (held : Rat × Rat) (row : LedgerRow) : Rat × Rat :=
  let volume := held.1 + signedVolume positionId row
  if EntryOf positionId row then
    (volume, (held.1 * held.2 + row.volume.getD 0 * row.price.getD 0) / volume)
  else (volume, held.2)

/-- The average price of what is open. -/
def openAverage (positionId : String) (ledger : List LedgerRow) : Rat :=
  (ledger.foldl (averageStep positionId) (0, 0)).2

/-- An exit has taken out all that was open. -/
def ClosedIn (positionId : String) (ledger : List LedgerRow) : Prop :=
  ∃ (index : Nat) (row : LedgerRow), ledger[index]? = some row ∧ ExitOf positionId row ∧
    |runningVolume positionId (ledger.take (index + 1))| ≤ volumeTolerance

/-- The row fits what the ledger before it has left of the position. -/
structure FitsBehind (positionId : String) (ledger : List LedgerRow) (row : LedgerRow) : Prop where
  entry : EntryOf positionId row → ¬ ClosedIn positionId ledger
  leave : ExitOf positionId row → ¬ ClosedIn positionId ledger ∧
    volumeTolerance < runningVolume positionId ledger ∧
    row.volume.getD 0 ≤ runningVolume positionId ledger + volumeTolerance

/-- What the walk records of an entry. -/
def openingOf (positionId : String) (ledger : List LedgerRow) (row : LedgerRow) :
    Option OpeningState :=
  if EntryOf positionId row then
    some ⟨runningVolume positionId ledger, runningVolume positionId (ledger ++ [row]),
      openAverage positionId (ledger ++ [row])⟩
  else none

/-- What the walk records of an exit. -/
def exitTypeOf (positionId : String) (ledger : List LedgerRow) (row : LedgerRow) :
    Option EventType :=
  if ExitOf positionId row then
    some (if |runningVolume positionId (ledger ++ [row])| ≤ volumeTolerance then .tradeClosed
      else .tradePartialClosed)
  else none

section Ledgers

variable {positionId : String} {ledger : List LedgerRow} {row : LedgerRow}

theorem not_exit_of_entry (h : EntryOf positionId row) : ¬ ExitOf positionId row := by
  intro hexit
  have hopen := h.2.2
  have hleave := hexit.2.2
  simp only [openEntries, List.mem_cons, List.not_mem_nil, or_false] at hopen
  rcases hopen with heq | heq <;> rw [heq] at hleave <;> revert hleave <;> decide

theorem runningVolume_append (positionId : String) (ledger : List LedgerRow) (row : LedgerRow) :
    runningVolume positionId (ledger ++ [row]) =
      runningVolume positionId ledger + signedVolume positionId row := by
  simp [runningVolume]

theorem held_volume (positionId : String) (ledger : List LedgerRow) :
    (ledger.foldl (averageStep positionId) (0, 0)).1 = runningVolume positionId ledger := by
  induction ledger using List.reverseRecOn with
  | nil => rfl
  | append_singleton ledger row ih =>
    rw [List.foldl_append, runningVolume_append, ← ih]
    simp only [List.foldl_cons, List.foldl_nil, averageStep]
    split <;> rfl

theorem openAverage_entry (h : EntryOf positionId row) :
    openAverage positionId (ledger ++ [row]) =
      (runningVolume positionId ledger * openAverage positionId ledger +
        row.volume.getD 0 * row.price.getD 0) / runningVolume positionId (ledger ++ [row]) := by
  rw [runningVolume_append, ← held_volume]
  unfold openAverage
  rw [List.foldl_append]
  simp only [List.foldl_cons, List.foldl_nil, averageStep, if_pos h]

theorem openAverage_other (h : ¬ EntryOf positionId row) :
    openAverage positionId (ledger ++ [row]) = openAverage positionId ledger := by
  unfold openAverage
  rw [List.foldl_append]
  simp only [List.foldl_cons, List.foldl_nil, averageStep, if_neg h]

theorem closedIn_append : ClosedIn positionId (ledger ++ [row]) ↔ ClosedIn positionId ledger ∨
    (ExitOf positionId row ∧
      |runningVolume positionId (ledger ++ [row])| ≤ volumeTolerance) := by
  constructor
  · intro h
    obtain ⟨index, other, hget, hexit, hvolume⟩ := h
    rcases Nat.lt_or_ge index ledger.length with hlt | hge
    · left
      rw [List.getElem?_append_left hlt] at hget
      rw [List.take_append_of_le_length (by omega)] at hvolume
      exact ⟨index, other, hget, hexit, hvolume⟩
    · right
      have hindex : index < ledger.length + 1 := by
        have hlength := (List.getElem?_eq_some_iff.mp hget).1
        simpa using hlength
      have heq : index = ledger.length := by omega
      subst heq
      rw [List.getElem?_append_right (le_refl _), Nat.sub_self] at hget
      cases hget
      rw [List.take_of_length_le (by simp)] at hvolume
      exact ⟨hexit, hvolume⟩
  · intro h
    rcases h with h | h
    · obtain ⟨index, other, hget, hexit, hvolume⟩ := h
      have hlt := (List.getElem?_eq_some_iff.mp hget).1
      refine ⟨index, other, ?_, hexit, ?_⟩
      · rw [List.getElem?_append_left hlt]
        exact hget
      · rw [List.take_append_of_le_length (by omega)]
        exact hvolume
    · refine ⟨ledger.length, row, ?_, h.1, ?_⟩
      · rw [List.getElem?_append_right (le_refl _), Nat.sub_self]
        rfl
      · rw [List.take_of_length_le (by simp)]
        exact h.2

/-- A row that neither enters nor leaves changes nothing. -/
theorem signedVolume_other (hentry : ¬ EntryOf positionId row) (hexit : ¬ ExitOf positionId row) :
    signedVolume positionId row = 0 := by
  rw [signedVolume, if_neg hentry, if_neg hexit]

theorem signedVolume_exit (hexit : ExitOf positionId row) :
    signedVolume positionId row = - row.volume.getD 0 := by
  rw [signedVolume, if_neg (fun hentry => not_exit_of_entry hentry hexit), if_pos hexit]

end Ledgers

section Walk

variable {positionId : String} {ledger : List LedgerRow} {walk : PositionWalk} {row : LedgerRow}

/-- The fills of the position in the rest of a ledger that begins at this place. -/
def fillsFrom (positionId : String) (start : Nat) (rest : List LedgerRow) :
    List (LedgerRow × Nat) :=
  (rest.zipIdx start).filter fun fill => fill.1.ofPosition && fill.1.positionId = positionId

/-- Where the walk stands once it has come through this much of the ledger. -/
structure WalkedTo (positionId : String) (ledger : List LedgerRow) (walk : PositionWalk) :
    Prop where
  safe : walk.unsafeReason = none
  closed : walk.positionClosed = true ↔ ClosedIn positionId ledger
  volume : walk.positionClosed = false → walk.currentVolume = runningVolume positionId ledger
  nonneg : walk.positionClosed = false → 0 ≤ walk.currentVolume
  notional : walk.positionClosed = false →
    walk.currentNotional = walk.currentVolume * openAverage positionId ledger
  fits : EachAfter (FitsBehind positionId) ledger
  openings : ∀ index, walk.openings.lookup index =
    recordedAt (openingOf positionId) ledger index
  exits : ∀ index, walk.exits.lookup index = recordedAt (exitTypeOf positionId) ledger index

/-- What is looked up after one more record was put behind the others. -/
theorem lookup_record {β : Type} {record : List LedgerRow → LedgerRow → Option β}
    {records : List (Nat × β)} {value : β}
    (hrecords : ∀ index, records.lookup index = recordedAt record ledger index)
    (hrow : record ledger row = some value) (index : Nat) :
    (records ++ [(ledger.length, value)]).lookup index =
      recordedAt record (ledger ++ [row]) index := by
  rw [List.lookup_append, hrecords, recordedAt_append]
  split
  next hindex =>
    rw [hindex, recordedAt_of_length_le (le_refl _), hrow]
    simp
  next hindex =>
    have hbeq : (index == ledger.length) = false := by simpa using hindex
    simp [List.lookup_cons, hbeq]

/-- Nothing is recorded of a row that is not of the kind. -/
theorem lookup_skip {β : Type} {record : List LedgerRow → LedgerRow → Option β}
    {records : List (Nat × β)}
    (hrecords : ∀ index, records.lookup index = recordedAt record ledger index)
    (hrow : record ledger row = none) (index : Nat) :
    records.lookup index = recordedAt record (ledger ++ [row]) index := by
  rw [hrecords, recordedAt_append]
  split
  next hindex =>
    rw [hindex, recordedAt_of_length_le (le_refl _), hrow]
  next => rfl

theorem walkedTo_nil (positionId : String) : WalkedTo positionId [] {} := by
  refine ⟨rfl, iff_of_false (by simp) fun h => ?_, fun _ => rfl, fun _ => le_refl _, fun _ => ?_,
    fun index other h => ?_, fun index => rfl, fun index => rfl⟩
  · obtain ⟨index, other, hget, -⟩ := h
    cases hget
  · simp
  · cases h

theorem fillsFrom_cons (positionId : String) (start : Nat) (row : LedgerRow)
    (rest : List LedgerRow) : fillsFrom positionId start (row :: rest) =
      if row.ofPosition = true ∧ row.positionId = positionId then
        (row, start) :: fillsFrom positionId (start + 1) rest
      else fillsFrom positionId (start + 1) rest := by
  unfold fillsFrom
  rw [List.zipIdx_cons, List.filter_cons]
  simp only [Bool.and_eq_true, decide_eq_true_eq]

/-- A row that is no entry and no exit leaves the walk where it is. -/
theorem walkedTo_other (hwalk : WalkedTo positionId ledger walk)
    (hentry : ¬ EntryOf positionId row) (hexit : ¬ ExitOf positionId row) :
    WalkedTo positionId (ledger ++ [row]) walk := by
  have hvolume : runningVolume positionId (ledger ++ [row]) = runningVolume positionId ledger := by
    rw [runningVolume_append, signedVolume_other hentry hexit, add_zero]
  refine ⟨hwalk.safe, ?_, ?_, hwalk.nonneg, ?_, ?_, fun index => ?_, fun index => ?_⟩
  · rw [hwalk.closed, closedIn_append]
    exact ⟨Or.inl, fun h => h.elim id fun h => absurd h.1 hexit⟩
  · rw [hvolume]
    exact hwalk.volume
  · rw [openAverage_other hentry]
    exact hwalk.notional
  · exact hwalk.fits.append
      ⟨fun h => absurd h hentry, fun h => absurd h hexit⟩
  · exact lookup_skip hwalk.openings (by rw [openingOf, if_neg hentry]) index
  · exact lookup_skip hwalk.exits (by rw [exitTypeOf, if_neg hexit]) index

theorem walkedTo_entry (hwalk : WalkedTo positionId ledger walk) (hentry : EntryOf positionId row)
    (hopen : walk.positionClosed = false) (hpositive : 0 < row.volume.getD 0) :
    WalkedTo positionId (ledger ++ [row])
      { walk with
        currentVolume := walk.currentVolume + row.volume.getD 0
        currentNotional := walk.currentNotional + row.volume.getD 0 * row.price.getD 0
        openings := walk.openings ++ [(ledger.length,
          ⟨walk.currentVolume, walk.currentVolume + row.volume.getD 0,
            (walk.currentNotional + row.volume.getD 0 * row.price.getD 0) /
              (walk.currentVolume + row.volume.getD 0)⟩)] } := by
  have hexit : ¬ ExitOf positionId row := not_exit_of_entry hentry
  have hnotClosed : ¬ ClosedIn positionId ledger := by
    rw [← hwalk.closed, hopen]
    exact Bool.false_ne_true
  have hbefore := hwalk.volume hopen
  have hnonneg := hwalk.nonneg hopen
  have hnotional := hwalk.notional hopen
  have hafter : walk.currentVolume + row.volume.getD 0 =
      runningVolume positionId (ledger ++ [row]) := by
    rw [runningVolume_append, signedVolume, if_pos hentry, hbefore]
  have hne : walk.currentVolume + row.volume.getD 0 ≠ 0 := by
    have hpos : 0 < walk.currentVolume + row.volume.getD 0 := by linarith
    exact hpos.ne'
  have haverage : (walk.currentNotional + row.volume.getD 0 * row.price.getD 0) /
      (walk.currentVolume + row.volume.getD 0) = openAverage positionId (ledger ++ [row]) := by
    rw [openAverage_entry hentry, ← hafter, ← hbefore, hnotional]
  refine ⟨hwalk.safe, ?_, fun _ => hafter, fun _ => ?_, fun _ => ?_, ?_, ?_, ?_⟩
  · rw [hwalk.closed, closedIn_append]
    exact ⟨Or.inl, fun h => h.elim id fun h => absurd h.1 hexit⟩
  · show 0 ≤ walk.currentVolume + row.volume.getD 0
    linarith
  · show walk.currentNotional + row.volume.getD 0 * row.price.getD 0 =
      (walk.currentVolume + row.volume.getD 0) * openAverage positionId (ledger ++ [row])
    rw [← haverage, mul_div_cancel₀ _ hne]
  · exact hwalk.fits.append ⟨fun _ => hnotClosed, fun h => absurd h hexit⟩
  · apply lookup_record hwalk.openings
    rw [openingOf, if_pos hentry, hbefore, ← haverage, ← hafter, hbefore]
  · exact lookup_skip hwalk.exits (by rw [exitTypeOf, if_neg hexit])

/-- What fits and holds of an exit the walk goes through. -/
theorem exit_facts (hwalk : WalkedTo positionId ledger walk) (hexit : ExitOf positionId row)
    (hopen : walk.positionClosed = false) (hsome : volumeTolerance < walk.currentVolume)
    (hfit : row.volume.getD 0 ≤ walk.currentVolume + volumeTolerance) :
    runningVolume positionId (ledger ++ [row]) = walk.currentVolume - row.volume.getD 0 ∧
      EachAfter (FitsBehind positionId) (ledger ++ [row]) := by
  have hnotClosed : ¬ ClosedIn positionId ledger := by
    rw [← hwalk.closed, hopen]
    exact Bool.false_ne_true
  have hbefore := hwalk.volume hopen
  rw [hbefore] at hsome hfit
  constructor
  · rw [runningVolume_append, signedVolume_exit hexit, hbefore]
    ring
  · exact hwalk.fits.append
      ⟨fun h => absurd hexit (not_exit_of_entry h), fun _ => ⟨hnotClosed, hsome, hfit⟩⟩

theorem walkedTo_close (hwalk : WalkedTo positionId ledger walk) (hexit : ExitOf positionId row)
    (hopen : walk.positionClosed = false) (hsome : volumeTolerance < walk.currentVolume)
    (hfit : row.volume.getD 0 ≤ walk.currentVolume + volumeTolerance)
    (hall : |row.volume.getD 0 - walk.currentVolume| ≤ volumeTolerance) :
    WalkedTo positionId (ledger ++ [row])
      { walk with
        exits := walk.exits ++ [(ledger.length, .tradeClosed)]
        positionClosed := true
        currentVolume := 0
        currentNotional := 0 } := by
  have hentry : ¬ EntryOf positionId row := fun h => not_exit_of_entry h hexit
  obtain ⟨hafter, hfits⟩ := exit_facts hwalk hexit hopen hsome hfit
  have hzero : |runningVolume positionId (ledger ++ [row])| ≤ volumeTolerance := by
    rw [hafter, abs_sub_comm]
    exact hall
  refine ⟨hwalk.safe, ?_, fun h => (by cases h), fun h => (by cases h), fun h => (by cases h),
    hfits, ?_, ?_⟩
  · exact iff_of_true rfl (closedIn_append.mpr (Or.inr ⟨hexit, hzero⟩))
  · exact lookup_skip hwalk.openings (by rw [openingOf, if_neg hentry])
  · apply lookup_record hwalk.exits
    rw [exitTypeOf, if_pos hexit, if_pos hzero]

theorem walkedTo_partial (hwalk : WalkedTo positionId ledger walk) (hexit : ExitOf positionId row)
    (hopen : walk.positionClosed = false) (hsome : volumeTolerance < walk.currentVolume)
    (hfit : row.volume.getD 0 ≤ walk.currentVolume + volumeTolerance)
    (hpart : ¬ |row.volume.getD 0 - walk.currentVolume| ≤ volumeTolerance) :
    WalkedTo positionId (ledger ++ [row])
      { walk with
        exits := walk.exits ++ [(ledger.length, .tradePartialClosed)]
        currentVolume := walk.currentVolume - row.volume.getD 0
        currentNotional :=
          walk.currentNotional / walk.currentVolume * (walk.currentVolume - row.volume.getD 0) } := by
  have hentry : ¬ EntryOf positionId row := fun h => not_exit_of_entry h hexit
  obtain ⟨hafter, hfits⟩ := exit_facts hwalk hexit hopen hsome hfit
  have hrest : ¬ |runningVolume positionId (ledger ++ [row])| ≤ volumeTolerance := by
    rw [hafter, abs_sub_comm]
    exact hpart
  have htolerance : 0 < volumeTolerance := by
    unfold volumeTolerance
    norm_num
  have hpositive : 0 < walk.currentVolume - row.volume.getD 0 := by
    rw [abs_sub_comm, abs_le, not_and_or] at hpart
    rcases hpart with hlow | hhigh
    · linarith
    · linarith
  have hne : walk.currentVolume ≠ 0 := by
    have hpos : 0 < walk.currentVolume := htolerance.trans hsome
    exact hpos.ne'
  refine ⟨hwalk.safe, ?_, fun _ => hafter.symm, fun _ => hpositive.le, fun _ => ?_, hfits, ?_, ?_⟩
  · rw [hwalk.closed, closedIn_append]
    exact ⟨Or.inl, fun h => h.elim id fun h => absurd h.2 hrest⟩
  · show walk.currentNotional / walk.currentVolume * (walk.currentVolume - row.volume.getD 0) =
      (walk.currentVolume - row.volume.getD 0) * openAverage positionId (ledger ++ [row])
    rw [openAverage_other hentry, hwalk.notional hopen, mul_div_cancel_left₀ _ hne, mul_comm]
  · exact lookup_skip hwalk.openings (by rw [openingOf, if_neg hentry])
  · apply lookup_record hwalk.exits
    rw [exitTypeOf, if_pos hexit, if_neg hrest]

/-- The volumes of entries and exits are positive, as the reconstruction has checked. -/
def PositiveFills (positionId : String) (rows : List LedgerRow) : Prop :=
  ∀ row ∈ rows, EntryOf positionId row ∨ ExitOf positionId row → 0 < row.volume.getD 0

theorem not_fits_entry (hwalk : WalkedTo positionId ledger walk) (hentry : EntryOf positionId row)
    (hclosed : walk.positionClosed = true) : ¬ FitsBehind positionId ledger row :=
  fun hfits => hfits.entry hentry (hwalk.closed.mp hclosed)

theorem not_fits_exit (hwalk : WalkedTo positionId ledger walk) (hexit : ExitOf positionId row)
    (hbroken : walk.positionClosed = true ∨ walk.currentVolume ≤ volumeTolerance ∨
      walk.currentVolume + volumeTolerance < row.volume.getD 0) :
    ¬ FitsBehind positionId ledger row := by
  intro hfits
  obtain ⟨hnotClosed, hsome, hfit⟩ := hfits.leave hexit
  have hopen : walk.positionClosed = false := by
    by_contra h
    exact hnotClosed (hwalk.closed.mp (by simpa using h))
  rw [← hwalk.volume hopen] at hsome hfit
  rcases hbroken with hclosed | hnone | hmore
  · rw [hopen] at hclosed
    cases hclosed
  · exact absurd hsome (not_lt.mpr hnone)
  · exact absurd hfit (not_le.mpr hmore)

/-- One row of the ledger: the walk goes through it, or the row does not fit and the walk stops
for good. -/
theorem walkPosition_row (rest : List LedgerRow) (hwalk : WalkedTo positionId ledger walk)
    (hpositive : PositiveFills positionId (row :: rest)) :
    (∃ next, WalkedTo positionId (ledger ++ [row]) next ∧
      walkPosition walk (fillsFrom positionId ledger.length (row :: rest)) =
        walkPosition next (fillsFrom positionId (ledger ++ [row]).length rest)) ∨
    (¬ FitsBehind positionId ledger row ∧ (walkPosition walk
      (fillsFrom positionId ledger.length (row :: rest))).unsafeReason.isSome = true) := by
  have hlength : (ledger ++ [row]).length = ledger.length + 1 := by simp
  rw [hlength, fillsFrom_cons]
  by_cases hmine : row.ofPosition = true ∧ row.positionId = positionId
  · rw [if_pos hmine]
    simp only [walkPosition]
    by_cases hopen : row.entry ∈ openEntries
    · have hentry : EntryOf positionId row := ⟨hmine.1, hmine.2, hopen⟩
      rw [if_pos hopen]
      by_cases hclosed : walk.positionClosed = true
      · rw [if_pos hclosed]
        exact Or.inr ⟨not_fits_entry hwalk hentry hclosed, rfl⟩
      · rw [if_neg hclosed]
        exact Or.inl ⟨_, walkedTo_entry hwalk hentry (by simpa using hclosed)
          (hpositive row (by simp) (Or.inl hentry)), rfl⟩
    · have hentry : ¬ EntryOf positionId row := fun h => hopen h.2.2
      rw [if_neg hopen]
      by_cases hleave : row.entry ∈ exitEntries
      · have hexit : ExitOf positionId row := ⟨hmine.1, hmine.2, hleave⟩
        rw [if_neg (not_not.mpr hleave)]
        by_cases hbroken : walk.positionClosed = true ∨ walk.currentVolume ≤ volumeTolerance ∨
            walk.currentVolume + volumeTolerance < row.volume.getD 0
        · rw [if_pos hbroken]
          exact Or.inr ⟨not_fits_exit hwalk hexit hbroken, rfl⟩
        · rw [if_neg hbroken]
          simp only [not_or, not_le, not_lt, Bool.not_eq_true] at hbroken
          obtain ⟨hclosed, hsome, hfit⟩ := hbroken
          by_cases hall : |row.volume.getD 0 - walk.currentVolume| ≤ volumeTolerance
          · rw [if_pos hall]
            exact Or.inl ⟨_, walkedTo_close hwalk hexit hclosed hsome hfit hall, rfl⟩
          · rw [if_neg hall]
            exact Or.inl ⟨_, walkedTo_partial hwalk hexit hclosed hsome hfit hall, rfl⟩
      · rw [if_pos hleave]
        exact Or.inl ⟨walk, walkedTo_other hwalk hentry (fun h => hleave h.2.2), rfl⟩
  · rw [if_neg hmine]
    exact Or.inl ⟨walk, walkedTo_other hwalk (fun h => hmine ⟨h.1, h.2.1⟩)
      (fun h => hmine ⟨h.1, h.2.1⟩), rfl⟩

theorem walkPosition_run (rest : List LedgerRow) (hwalk : WalkedTo positionId ledger walk)
    (hpositive : PositiveFills positionId rest)
    (hsafe : (walkPosition walk (fillsFrom positionId ledger.length rest)).unsafeReason = none) :
    WalkedTo positionId (ledger ++ rest)
      (walkPosition walk (fillsFrom positionId ledger.length rest)) := by
  induction rest generalizing ledger walk with
  | nil =>
    rw [List.append_nil]
    exact hwalk
  | cons row rest ih =>
    rcases walkPosition_row rest hwalk hpositive with ⟨next, hnext, heq⟩ | ⟨-, hbroken⟩
    · rw [heq] at hsafe ⊢
      have hrest := ih hnext (fun other hother => hpositive other (List.mem_cons_of_mem _ hother))
        hsafe
      rw [List.append_assoc] at hrest
      exact hrest
    · rw [hsafe] at hbroken
      cases hbroken

/-- Nothing stops the walk through a ledger whose rows fit. -/
theorem walkPosition_fits (rest : List LedgerRow) (hwalk : WalkedTo positionId ledger walk)
    (hpositive : PositiveFills positionId rest)
    (hfits : EachAfter (FitsBehind positionId) (ledger ++ rest)) :
    (walkPosition walk (fillsFrom positionId ledger.length rest)).unsafeReason = none := by
  induction rest generalizing ledger walk with
  | nil => exact hwalk.safe
  | cons row rest ih =>
    rcases walkPosition_row rest hwalk hpositive with ⟨next, hnext, heq⟩ | ⟨hrow, -⟩
    · rw [heq]
      refine ih hnext (fun other hother => hpositive other (List.mem_cons_of_mem _ hother)) ?_
      rw [List.append_assoc]
      exact hfits
    · exact absurd (hfits.split rfl) hrow

theorem positiveVolume_pos {row : LedgerRow} (h : positiveVolume row = true) :
    0 < row.volume.getD 0 := by
  unfold positiveVolume at h
  cases hcase : row.volume with
  | none =>
    rw [hcase] at h
    cases h
  | some volume =>
    rw [hcase] at h
    exact of_decide_eq_true h

/-- The walk of a safe position comes to the end of the ledger. -/
theorem walkedTo_of_safe {rows : List LedgerRow} (hsafe : SafePosition rows positionId) :
    WalkedTo positionId rows (walkPosition {} (positionFills rows positionId)) := by
  have hchecked := safePosition_iff.mp hsafe
  have hpositive : PositiveFills positionId rows := by
    intro other hother hkind
    obtain ⟨index, hget⟩ := List.mem_iff_getElem?.mp hother
    rcases hkind with hentry | hexit
    · exact positiveVolume_pos
        (hchecked.entryVolume (other, index) (mem_entryFills.mpr ⟨hget, hentry⟩))
    · exact positiveVolume_pos (hchecked.exitVolume (other, index)
        (mem_positionFills.mpr ⟨hget, hexit.1, hexit.2.1⟩) hexit.2.2)
  have hrun := walkPosition_run rows (walkedTo_nil positionId) hpositive hchecked.walked
  rw [List.nil_append] at hrun
  exact hrun

/-- The volumes of a ledger whose rows fit stay above zero, the tolerance aside. -/
theorem runningVolume_floor {rows : List LedgerRow}
    (hpositive : PositiveFills positionId rows)
    (hfits : EachAfter (FitsBehind positionId) rows) (index : Nat) :
    -volumeTolerance ≤ runningVolume positionId (rows.take index) := by
  induction index with
  | zero =>
    rw [List.take_zero]
    unfold volumeTolerance runningVolume
    norm_num
  | succ index ih =>
    cases hget : rows[index]? with
    | none =>
      have hlength := List.getElem?_eq_none_iff.mp hget
      rw [List.take_of_length_le (by omega)]
      rw [List.take_of_length_le hlength] at ih
      exact ih
    | some other =>
      have hfit := hfits index other hget
      have hmem : other ∈ rows := List.mem_of_getElem? hget
      rw [take_succ_of_getElem? hget, runningVolume_append]
      by_cases hentry : EntryOf positionId other
      · have hvolume := hpositive other hmem (Or.inl hentry)
        rw [signedVolume, if_pos hentry]
        linarith
      · by_cases hexit : ExitOf positionId other
        · obtain ⟨-, -, hle⟩ := hfit.leave hexit
          rw [signedVolume_exit hexit]
          linarith
        · rw [signedVolume_other hentry hexit]
          linarith

end Walk

section Projected

variable {rows : List LedgerRow} {anchor : LedgerAnchor} {row : LedgerRow} {index : Nat}
  {positionId : String} {item : ProjectedDeal}

/-- Either a check before the walk fails, or the walk decides. -/
theorem analysePosition_cases (rows : List LedgerRow) (positionId : String) :
    (∃ first reason, analysePosition rows positionId =
        { firstOpenIndex := first, unsafeReason := some reason }) ∨
      ∃ first, analysePosition rows positionId =
        { firstOpenIndex := some first
          openings := (walkPosition {} (positionFills rows positionId)).openings
          exits := if (walkPosition {} (positionFills rows positionId)).unsafeReason.isSome then []
            else (walkPosition {} (positionFills rows positionId)).exits
          unsafeReason := (walkPosition {} (positionFills rows positionId)).unsafeReason } := by
  unfold analysePosition
  simp only
  split
  · exact Or.inl ⟨_, _, rfl⟩
  · split
    · exact Or.inl ⟨_, _, rfl⟩
    · split
      · exact Or.inl ⟨_, _, rfl⟩
      · split
        · exact Or.inl ⟨_, _, rfl⟩
        · split
          · exact Or.inl ⟨_, _, rfl⟩
          · exact Or.inr ⟨_, rfl⟩

/-- A safe position keeps what the walk recorded. -/
theorem analysePosition_safe (hsafe : SafePosition rows positionId) :
    (analysePosition rows positionId).openings =
        (walkPosition {} (positionFills rows positionId)).openings ∧
      (analysePosition rows positionId).exits =
        (walkPosition {} (positionFills rows positionId)).exits := by
  have hwalked := (safePosition_iff.mp hsafe).walked
  unfold SafePosition at hsafe
  rcases analysePosition_cases rows positionId with h | h
  · obtain ⟨first, reason, heq⟩ := h
    rw [heq] at hsafe
    cases hsafe
  · obtain ⟨first, heq⟩ := h
    rw [heq, hwalked]
    exact ⟨rfl, rfl⟩

/-- An unsafe position keeps none of its closes. -/
theorem analysePosition_broken (hbroken : ¬ SafePosition rows positionId) :
    (analysePosition rows positionId).exits = [] := by
  unfold SafePosition at hbroken
  rcases analysePosition_cases rows positionId with h | h
  · obtain ⟨first, reason, heq⟩ := h
    rw [heq]
  · obtain ⟨first, heq⟩ := h
    rw [heq] at hbroken ⊢
    exact if_pos (Option.isSome_iff_ne_none.mpr hbroken)

@[simp] theorem projectCosts_frame : (projectCosts row item).projectAsTrade = item.projectAsTrade ∧
    (projectCosts row item).volume = item.volume ∧
    (projectCosts row item).previousVolume = item.previousVolume ∧
    (projectCosts row item).historyEventType = item.historyEventType := by
  unfold projectCosts
  split <;> simp

@[simp] theorem projectBalance_frame (before : BalanceBefore) (unsafeReason : Option String) :
    (projectBalance before unsafeReason item).projectAsTrade = item.projectAsTrade ∧
      (projectBalance before unsafeReason item).volume = item.volume ∧
      (projectBalance before unsafeReason item).openPrice = item.openPrice ∧
      (projectBalance before unsafeReason item).previousVolume = item.previousVolume ∧
      (projectBalance before unsafeReason item).historyEventType = item.historyEventType := by
  unfold projectBalance
  split
  · simp
  · split <;> simp
  · simp

@[simp] theorem projectTotal_frame : (projectTotal rows positionId item).projectAsTrade =
      item.projectAsTrade ∧ (projectTotal rows positionId item).volume = item.volume ∧
      (projectTotal rows positionId item).openPrice = item.openPrice ∧
      (projectTotal rows positionId item).previousVolume = item.previousVolume ∧
      (projectTotal rows positionId item).historyEventType = item.historyEventType := by
  unfold projectTotal
  split <;> simp

/-- What the reconstruction makes of an entry. -/
theorem projectDeal_entry (hproject : projectDeal rows anchor row index = some item)
    (hopen : row.entry ∈ openEntries) :
    item.projectAsTrade = (analysePosition rows row.positionId).unsafeReason.isNone ∧
      item.volume = (((analysePosition rows row.positionId).openings.lookup index).map
        OpeningState.volume).or row.volume ∧
      item.openPrice = ((analysePosition rows row.positionId).openings.lookup index).map
        OpeningState.openPrice ∧
      (if (analysePosition rows row.positionId).firstOpenIndex = some index then
        item.historyEventType = some .tradeOpened ∧ item.previousVolume = none
      else item.historyEventType = some .tradeVolumeChanged ∧
        item.previousVolume = ((analysePosition rows row.positionId).openings.lookup index).map
          OpeningState.previousVolume) := by
  have hnotExit : row.entry ∉ exitEntries ∧ row.entry ≠ "INOUT" := by
    simp only [openEntries, List.mem_cons, List.not_mem_nil, or_false] at hopen
    rcases hopen with heq | heq <;> rw [heq] <;> decide
  unfold projectDeal at hproject
  split at hproject
  next =>
    cases hproject
    simp only [projectTotal_frame, projectExit, if_neg hnotExit.2, if_neg hnotExit.1,
      projectOpening]
    split
    · simp
    · simp
  next => cases hproject

/-- What the reconstruction makes of an exit. -/
theorem projectDeal_exit (hproject : projectDeal rows anchor row index = some item)
    (hleave : row.entry ∈ exitEntries) :
    if row.entry = "INOUT" then item.projectAsTrade = false ∧ item.historyEventType = none
    else item.projectAsTrade = (analysePosition rows row.positionId).unsafeReason.isNone ∧
      item.historyEventType = some
        (((analysePosition rows row.positionId).exits.lookup index).getD .tradePartialClosed) := by
  have hnotOpen : row.entry ∉ openEntries := by
    intro hopen
    simp only [openEntries, List.mem_cons, List.not_mem_nil, or_false] at hopen
    rcases hopen with heq | heq <;> rw [heq] at hleave <;> revert hleave <;> decide
  unfold projectDeal at hproject
  split at hproject
  next =>
    cases hproject
    simp only [projectTotal_frame, projectExit, if_pos hleave]
    split
    · simp
    · simp
  next => cases hproject

theorem validEntries_cases {entry : String} (h : entry ∈ validEntries) :
    entry ∈ openEntries ∨ entry ∈ exitEntries := by
  simp only [validEntries, List.mem_cons, List.not_mem_nil, or_false] at h
  rcases h with h | h | h | h | h | h | h | h <;> rw [h] <;> decide

/-- Where an item comes from. -/
theorem projectedAt_iff : projectedAt rows anchor index = some item ↔
    rows[index]? = some item.row ∧ projectDeal rows anchor item.row index = some item := by
  unfold projectedAt
  rw [Option.bind_eq_some_iff]
  constructor
  · intro h
    obtain ⟨other, hget, hproject⟩ := h
    rw [projectDeal_row hproject]
    exact ⟨hget, hproject⟩
  · intro h
    exact ⟨item.row, h.1, h.2⟩

theorem projectable_of_projectDeal (h : projectDeal rows anchor row index = some item) :
    row.ofPosition = true ∧ row.entry ∈ validEntries := by
  unfold projectDeal at h
  split at h
  next hproject =>
    obtain ⟨hposition, -, hvalid⟩ := of_decide_eq_true hproject
    exact ⟨hposition, hvalid⟩
  next => cases h

end Projected

/-- The position as the ledger should have it. -/
structure CoherentPosition (rows : List LedgerRow) (positionId : String) : Prop where
  opened : ∃ row ∈ rows, EntryOf positionId row
  identified : ∀ row ∈ rows, row.ofPosition = true → row.positionId = positionId →
    (ledgerTicket row).isSome = true
  noReversal : ∀ row ∈ rows, row.ofPosition = true → row.positionId = positionId →
    row.entry ≠ "INOUT"
  oneDirection : ∃ direction, ∀ row ∈ rows, EntryOf positionId row → row.direction = direction
  volumes : PositiveFills positionId rows
  prices : ∀ row ∈ rows, EntryOf positionId row → row.price.isSome = true
  economics : ∀ row ∈ rows, EntryOf positionId row → ∀ field ∈ row.economics, field.isSome = true
  fits : EachAfter (FitsBehind positionId) rows

section Lifecycle

variable {rows : List LedgerRow} {anchor : LedgerAnchor} {positionId : String}

theorem coherentPosition_of_safe (hsafe : SafePosition rows positionId) :
    CoherentPosition rows positionId := by
  have hchecked := safePosition_iff.mp hsafe
  have hentries : ∀ row ∈ rows, EntryOf positionId row →
      ∃ index, (row, index) ∈ entryFills rows positionId := by
    intro row hrow hentry
    obtain ⟨index, hget⟩ := List.mem_iff_getElem?.mp hrow
    exact ⟨index, mem_entryFills.mpr ⟨hget, hentry⟩⟩
  have hfills : ∀ row ∈ rows, row.ofPosition = true → row.positionId = positionId →
      ∃ index, (row, index) ∈ positionFills rows positionId := by
    intro row hrow hposition hid
    obtain ⟨index, hget⟩ := List.mem_iff_getElem?.mp hrow
    exact ⟨index, mem_positionFills.mpr ⟨hget, hposition, hid⟩⟩
  obtain ⟨direction, hdirection⟩ := hchecked.oneDirection
  constructor
  · obtain ⟨fill, hfill⟩ := hchecked.opened
    obtain ⟨hget, hentry⟩ := mem_entryFills.mp hfill
    exact ⟨fill.1, List.mem_of_getElem? hget, hentry⟩
  · intro row hrow hposition hid
    obtain ⟨index, hfill⟩ := hfills row hrow hposition hid
    exact hchecked.identified _ hfill
  · intro row hrow hposition hid
    obtain ⟨index, hfill⟩ := hfills row hrow hposition hid
    exact hchecked.noReversal _ hfill
  · refine ⟨direction, fun row hrow hentry => ?_⟩
    obtain ⟨index, hfill⟩ := hentries row hrow hentry
    exact hdirection _ hfill
  · intro row hrow hkind
    rcases hkind with hentry | hexit
    · obtain ⟨index, hfill⟩ := hentries row hrow hentry
      exact positiveVolume_pos (hchecked.entryVolume _ hfill)
    · obtain ⟨index, hfill⟩ := hfills row hrow hexit.1 hexit.2.1
      exact positiveVolume_pos (hchecked.exitVolume _ hfill hexit.2.2)
  · intro row hrow hentry
    obtain ⟨index, hfill⟩ := hentries row hrow hentry
    exact hchecked.entryPrice _ hfill
  · intro row hrow hentry
    obtain ⟨index, hfill⟩ := hentries row hrow hentry
    exact hchecked.entryEconomics _ hfill
  · exact (walkedTo_of_safe hsafe).fits

theorem positiveVolume_of_pos {row : LedgerRow} (h : 0 < row.volume.getD 0) :
    positiveVolume row = true := by
  unfold positiveVolume
  cases hcase : row.volume with
  | none =>
    rw [hcase] at h
    exact absurd h (lt_irrefl _)
  | some volume =>
    rw [hcase] at h
    exact decide_eq_true h

/-- The reconstruction accepts a position exactly when the ledger bears it out. -/
theorem safePosition_iff_coherent : SafePosition rows positionId ↔
    CoherentPosition rows positionId := by
  constructor
  · exact coherentPosition_of_safe
  · intro hcoherent
    have hrow : ∀ fill ∈ positionFills rows positionId, fill.1 ∈ rows ∧
        fill.1.ofPosition = true ∧ fill.1.positionId = positionId := by
      intro fill hfill
      obtain ⟨hget, hposition, hid⟩ := mem_positionFills.mp hfill
      exact ⟨List.mem_of_getElem? hget, hposition, hid⟩
    have hentry : ∀ fill ∈ entryFills rows positionId, fill.1 ∈ rows ∧
        EntryOf positionId fill.1 := by
      intro fill hfill
      obtain ⟨hget, h⟩ := mem_entryFills.mp hfill
      exact ⟨List.mem_of_getElem? hget, h⟩
    obtain ⟨direction, hdirection⟩ := hcoherent.oneDirection
    rw [safePosition_iff]
    constructor
    · obtain ⟨row, hmem, h⟩ := hcoherent.opened
      obtain ⟨index, hget⟩ := List.mem_iff_getElem?.mp hmem
      exact ⟨(row, index), mem_entryFills.mpr ⟨hget, h⟩⟩
    · intro fill hfill
      obtain ⟨hmem, hposition, hid⟩ := hrow fill hfill
      exact hcoherent.identified fill.1 hmem hposition hid
    · intro fill hfill
      obtain ⟨hmem, hposition, hid⟩ := hrow fill hfill
      exact hcoherent.noReversal fill.1 hmem hposition hid
    · exact ⟨direction, fun fill hfill => hdirection fill.1 (hentry fill hfill).1
        (hentry fill hfill).2⟩
    · intro fill hfill
      obtain ⟨hmem, h⟩ := hentry fill hfill
      exact positiveVolume_of_pos (hcoherent.volumes fill.1 hmem (Or.inl h))
    · intro fill hfill
      obtain ⟨hmem, h⟩ := hentry fill hfill
      exact hcoherent.prices fill.1 hmem h
    · intro fill hfill
      obtain ⟨hmem, h⟩ := hentry fill hfill
      exact hcoherent.economics fill.1 hmem h
    · intro fill hfill hleave
      obtain ⟨hmem, hposition, hid⟩ := hrow fill hfill
      exact positiveVolume_of_pos (hcoherent.volumes fill.1 hmem (Or.inr ⟨hposition, hid, hleave⟩))
    · exact walkPosition_fits rows (walkedTo_nil positionId) hcoherent.volumes hcoherent.fits

/-- Nothing is open before the first entry. -/
theorem runningVolume_before_first (hcoherent : CoherentPosition rows positionId) {index : Nat}
    (hfirst : ∀ j other, j < index → rows[j]? = some other → ¬ EntryOf positionId other) :
    runningVolume positionId (rows.take index) = 0 := by
  induction index with
  | zero => rw [List.take_zero]; rfl
  | succ index ih =>
    have hbefore := ih fun j other hlt => hfirst j other (by omega)
    cases hget : rows[index]? with
    | none =>
      have hlength := List.getElem?_eq_none_iff.mp hget
      rw [List.take_of_length_le hlength] at hbefore
      rw [List.take_of_length_le (by omega)]
      exact hbefore
    | some other =>
      have hentry := hfirst index other (by omega) hget
      have hexit : ¬ ExitOf positionId other := by
        intro hexit
        obtain ⟨-, hvolume, -⟩ := (hcoherent.fits index other hget).leave hexit
        rw [hbefore] at hvolume
        revert hvolume
        decide +kernel
      rw [take_succ_of_getElem? hget, runningVolume_append, signedVolume_other hentry hexit,
        hbefore, add_zero]

/-- The kinds of rows of a position that get projected. -/
theorem projectedAt_kind {index : Nat} {item : ProjectedDeal}
    (hitem : projectedAt rows anchor index = some item) :
    EntryOf item.row.positionId item.row ∨ ExitOf item.row.positionId item.row := by
  obtain ⟨-, hproject⟩ := projectedAt_iff.mp hitem
  obtain ⟨hposition, hvalid⟩ := projectable_of_projectDeal hproject
  rcases validEntries_cases hvalid with hopen | hleave
  · exact Or.inl ⟨hposition, rfl, hopen⟩
  · exact Or.inr ⟨hposition, rfl, hleave⟩

theorem firstOpenIndex_iff (hsafe : SafePosition rows positionId) {index : Nat} {row : LedgerRow}
    (hget : rows[index]? = some row) (hentry : EntryOf positionId row) :
    (analysePosition rows positionId).firstOpenIndex = some index ↔ FirstEntry rows index row := by
  have hid : row.positionId = positionId := hentry.2.1
  subst hid
  have hchecked := safePosition_iff.mp hsafe
  have htickets : ¬ ((positionFills rows row.positionId).any fun fill =>
      (ledgerTicket fill.1).isNone) = true := by
    intro h
    obtain ⟨fill, hfill, hnone⟩ := List.any_eq_true.mp h
    have hsome := hchecked.identified fill hfill
    rw [Option.isNone_iff_eq_none.mp hnone] at hsome
    cases hsome
  rw [firstOpenIndex_eq, if_neg htickets, firstEntry_iff]
  constructor
  · intro h
    obtain ⟨fill, hfill, hindex⟩ := Option.map_eq_some_iff.mp h
    have hother := (mem_entryFills.mp (List.mem_of_mem_head? hfill)).1
    rw [hindex, hget] at hother
    rw [hfill, ← hindex, Option.some.inj hother]
  · intro h
    rw [h]
    rfl

theorem entry_exact (hsafe : SafePosition rows positionId) {index : Nat} {item : ProjectedDeal}
    (hitem : projectedAt rows anchor index = some item)
    (hentry : EntryOf positionId item.row) :
    item.volume = some (runningVolume positionId (rows.take (index + 1))) ∧
      item.openPrice = some (openAverage positionId (rows.take (index + 1))) ∧
      ((FirstEntry rows index item.row ∧ item.historyEventType = some .tradeOpened ∧
          runningVolume positionId (rows.take index) = 0 ∧ item.previousVolume = none) ∨
        (¬ FirstEntry rows index item.row ∧ item.historyEventType = some .tradeVolumeChanged ∧
          item.previousVolume = some (runningVolume positionId (rows.take index)))) := by
  have hid : item.row.positionId = positionId := hentry.2.1
  obtain ⟨hget, hproject⟩ := projectedAt_iff.mp hitem
  obtain ⟨-, hvolume, hprice, hkind⟩ := projectDeal_entry hproject hentry.2.2
  have hlookup : (analysePosition rows positionId).openings.lookup index =
      some ⟨runningVolume positionId (rows.take index),
        runningVolume positionId (rows.take (index + 1)),
        openAverage positionId (rows.take (index + 1))⟩ := by
    rw [(analysePosition_safe hsafe).1, (walkedTo_of_safe hsafe).openings, recordedAt, hget,
      take_succ_of_getElem? hget]
    exact if_pos hentry
  rw [hid, hlookup] at hvolume hprice hkind
  refine ⟨hvolume, hprice, ?_⟩
  split at hkind
  next hfirst =>
    have hfirstEntry := (firstOpenIndex_iff hsafe hget hentry).mp hfirst
    have hbefore := runningVolume_before_first (coherentPosition_of_safe hsafe)
      (hid ▸ hfirstEntry.first)
    exact Or.inl ⟨hfirstEntry, hkind.1, hbefore, hkind.2⟩
  next hfirst =>
    exact Or.inr ⟨fun h => hfirst ((firstOpenIndex_iff hsafe hget hentry).mpr h), hkind.1, hkind.2⟩

theorem exit_exact (hsafe : SafePosition rows positionId) {index : Nat} {item : ProjectedDeal}
    (hitem : projectedAt rows anchor index = some item) (hexit : ExitOf positionId item.row) :
    item.historyEventType =
      some (if |runningVolume positionId (rows.take (index + 1))| ≤ volumeTolerance then
        .tradeClosed else .tradePartialClosed) := by
  have hid : item.row.positionId = positionId := hexit.2.1
  obtain ⟨hget, hproject⟩ := projectedAt_iff.mp hitem
  have hkind := projectDeal_exit hproject hexit.2.2
  have hreversal : item.row.entry ≠ "INOUT" :=
    (coherentPosition_of_safe hsafe).noReversal item.row (List.mem_of_getElem? hget) hexit.1 hid
  rw [if_neg hreversal, hid] at hkind
  have hlookup : (analysePosition rows positionId).exits.lookup index =
      some (if |runningVolume positionId (rows.take (index + 1))| ≤ volumeTolerance then
        .tradeClosed else .tradePartialClosed) := by
    rw [(analysePosition_safe hsafe).2, (walkedTo_of_safe hsafe).exits, recordedAt, hget,
      take_succ_of_getElem? hget]
    exact if_pos hexit
  rw [hkind.2, hlookup]
  rfl

/-- A close is the last entry or exit of its position. -/
theorem close_last (hsafe : SafePosition rows positionId) {index later : Nat}
    {item : ProjectedDeal} {row : LedgerRow} (hitem : projectedAt rows anchor index = some item)
    (hid : item.row.positionId = positionId) (hclosed : item.historyEventType = some .tradeClosed)
    (hlater : index < later) (hget : rows[later]? = some row) :
    ¬ EntryOf positionId row ∧ ¬ ExitOf positionId row := by
  have hexit : ExitOf positionId item.row := by
    have hkind := projectedAt_kind hitem
    rw [hid] at hkind
    rcases hkind with hentry | hexit
    · rcases (entry_exact hsafe hitem hentry).2.2 with ⟨-, htype, -⟩ | ⟨-, htype, -⟩ <;>
        rw [htype] at hclosed <;> cases hclosed
    · exact hexit
  have hzero : |runningVolume positionId (rows.take (index + 1))| ≤ volumeTolerance := by
    rw [exit_exact hsafe hitem hexit] at hclosed
    by_contra h
    rw [if_neg h] at hclosed
    cases hclosed
  have hclosedIn : ClosedIn positionId (rows.take later) := by
    refine ⟨index, item.row, ?_, hexit, ?_⟩
    · rw [List.getElem?_take_of_lt hlater]
      exact (projectedAt_iff.mp hitem).1
    · rw [List.take_take, min_eq_left (by omega)]
      exact hzero
  have hfit := (coherentPosition_of_safe hsafe).fits later row hget
  exact ⟨fun hentry => hfit.entry hentry hclosedIn, fun hleave => (hfit.leave hleave).1 hclosedIn⟩

theorem broken_unmarked (hbroken : ¬ SafePosition rows positionId) {index : Nat}
    {item : ProjectedDeal} (hitem : projectedAt rows anchor index = some item)
    (hid : item.row.positionId = positionId) :
    item.projectAsTrade = false ∧ item.historyEventType ≠ some .tradeClosed := by
  obtain ⟨-, hproject⟩ := projectedAt_iff.mp hitem
  have hnone : (analysePosition rows positionId).unsafeReason.isNone = false := by
    rw [← Bool.not_eq_true, Option.isNone_iff_eq_none]
    exact hbroken
  rcases projectedAt_kind hitem with hentry | hexit
  · obtain ⟨htrade, -, -, hkind⟩ := projectDeal_entry hproject hentry.2.2
    rw [hid, hnone] at htrade
    refine ⟨htrade, fun hclosed => ?_⟩
    split at hkind <;> rw [hkind.1] at hclosed <;> cases hclosed
  · have hkind := projectDeal_exit hproject hexit.2.2
    rw [hid, hnone, analysePosition_broken hbroken] at hkind
    split at hkind
    · exact ⟨hkind.1, by rw [hkind.2]; simp⟩
    · exact ⟨hkind.1, by rw [hkind.2]; simp⟩

end Lifecycle

/-- What the reconstruction says of the fills of a position is what the ledger makes of its
volume, and of a position that the ledger does not bear out it says nothing. -/
theorem lifecycle_exact (rows : List LedgerRow) (anchor : LedgerAnchor) (positionId : String) :
    (SafePosition rows positionId →
      (∀ index, -volumeTolerance ≤ runningVolume positionId (rows.take index)) ∧
      (∀ index item, projectedAt rows anchor index = some item →
        item.row.positionId = positionId →
        item.projectAsTrade = true ∧
        (item.row.entry ∈ openEntries →
          item.volume = some (runningVolume positionId (rows.take (index + 1))) ∧
          item.openPrice = some (openAverage positionId (rows.take (index + 1))) ∧
          ((FirstEntry rows index item.row ∧ item.historyEventType = some .tradeOpened ∧
              runningVolume positionId (rows.take index) = 0 ∧ item.previousVolume = none) ∨
            (¬ FirstEntry rows index item.row ∧
              item.historyEventType = some .tradeVolumeChanged ∧
              item.previousVolume = some (runningVolume positionId (rows.take index))))) ∧
        (item.row.entry ∈ exitEntries → item.historyEventType =
          some (if |runningVolume positionId (rows.take (index + 1))| ≤ volumeTolerance then
            .tradeClosed else .tradePartialClosed))) ∧
      (∀ index item, projectedAt rows anchor index = some item →
        item.row.positionId = positionId → item.historyEventType = some .tradeClosed →
        (∀ later row, index < later → rows[later]? = some row →
          ¬ EntryOf positionId row ∧ ¬ ExitOf positionId row) ∧
        ∀ other closed, projectedAt rows anchor other = some closed →
          closed.row.positionId = positionId → closed.historyEventType = some .tradeClosed →
          other = index)) ∧
    (¬ CoherentPosition rows positionId → ∀ item ∈ reconstructTradeDeals rows anchor,
      item.row.positionId = positionId →
        item.projectAsTrade = false ∧ item.historyEventType ≠ some .tradeClosed) := by
  constructor
  · intro hsafe
    have hcoherent := coherentPosition_of_safe hsafe
    refine ⟨runningVolume_floor hcoherent.volumes hcoherent.fits, fun index item hitem hid => ?_,
      fun index item hitem hid hclosed => ⟨fun later row hlater hget =>
        close_last hsafe hitem hid hclosed hlater hget,
        fun other closed hother hotherId hotherClosed => ?_⟩⟩
    · obtain ⟨-, hproject⟩ := projectedAt_iff.mp hitem
      have hnone : (analysePosition rows positionId).unsafeReason.isNone = true := by
        rw [Option.isNone_iff_eq_none]
        exact hsafe
      have hposition : item.row.ofPosition = true := (projectable_of_projectDeal hproject).1
      refine ⟨?_, fun hopen => entry_exact hsafe hitem ⟨hposition, hid, hopen⟩, fun hleave =>
        exit_exact hsafe hitem ⟨hposition, hid, hleave⟩⟩
      have hkind := projectedAt_kind hitem
      rw [hid] at hkind
      rcases hkind with hentry | hexit
      · rw [(projectDeal_entry hproject hentry.2.2).1, hid]
        exact hnone
      · have hexitKind := projectDeal_exit hproject hexit.2.2
        have hreversal := hcoherent.noReversal item.row
          (List.mem_of_getElem? (projectedAt_iff.mp hitem).1) hposition hid
        rw [if_neg hreversal, hid] at hexitKind
        rw [hexitKind.1]
        exact hnone
    · have hkinds : ∀ {place : Nat} {one : ProjectedDeal},
          projectedAt rows anchor place = some one → one.row.positionId = positionId →
          EntryOf positionId one.row ∨ ExitOf positionId one.row := by
        intro place one hone honeId
        have hkind := projectedAt_kind hone
        rw [honeId] at hkind
        exact hkind
      rcases lt_trichotomy other index with hlt | heq | hgt
      · have hlast := close_last hsafe hother hotherId hotherClosed hlt (projectedAt_iff.mp hitem).1
        exact absurd (hkinds hitem hid) (not_or.mpr hlast)
      · exact heq
      · have hlast := close_last hsafe hitem hid hclosed hgt (projectedAt_iff.mp hother).1
        exact absurd (hkinds hother hotherId) (not_or.mpr hlast)
  · intro hincoherent item hitem hid
    obtain ⟨index, hat⟩ := mem_reconstructTradeDeals.mp hitem
    exact broken_unmarked (fun hsafe => hincoherent (coherentPosition_of_safe hsafe)) hat hid

/-- A position that is opened, closed, and then has a fill of no known entry. -/
def fillAfterClose : List LedgerRow :=
  let fill : LedgerRow :=
    { dealType := some 0, positionId := "7", symbol := some "EURUSD", direction := "buy"
      volume := some 1, price := some 1, profit := some 0, commission := some 0, swap := some 0
      fee := some 0 }
  [{ fill with ticket := some "1", entry := "IN" },
    { fill with ticket := some "2", entry := "OUT", dealType := some 1, direction := "sell" },
    { fill with ticket := some "3", entry := "UNKNOWN" }]

/-- The first entry has no volume before it, and a fill may follow the close that is no entry
and no exit. -/
theorem not_previousVolume_first :
    (¬ ∀ (rows : List LedgerRow) (anchor : LedgerAnchor) (positionId : String) (index : Nat)
      (item : ProjectedDeal), SafePosition rows positionId →
      projectedAt rows anchor index = some item → item.row.positionId = positionId →
      item.row.entry ∈ openEntries →
      item.previousVolume = some (runningVolume positionId (rows.take index))) ∧
    ¬ ∀ (rows : List LedgerRow) (anchor : LedgerAnchor) (positionId : String) (index : Nat)
      (item : ProjectedDeal), SafePosition rows positionId →
      projectedAt rows anchor index = some item → item.row.positionId = positionId →
      item.historyEventType = some .tradeClosed →
      ∀ later row, index < later → rows[later]? = some row → row.ofPosition = true →
        row.positionId ≠ positionId := by
  have hsafe : SafePosition fillAfterClose "7" := by
    unfold SafePosition
    decide +kernel
  constructor
  · intro h
    have hsome : (projectedAt fillAfterClose {} 0).any (fun item =>
        item.row.positionId = "7" ∧ item.row.entry ∈ openEntries ∧ item.previousVolume = none) =
          true := by
      decide +kernel
    obtain ⟨item, hitem, hfacts⟩ := (Option.any_eq_true _ _).mp hsome
    obtain ⟨hid, hopen, hnone⟩ := of_decide_eq_true hfacts
    have hvolume := h fillAfterClose {} "7" 0 item hsafe hitem hid hopen
    rw [hnone] at hvolume
    cases hvolume
  · intro h
    have hsome : (projectedAt fillAfterClose {} 1).any (fun item =>
        item.row.positionId = "7" ∧ item.historyEventType = some .tradeClosed) = true := by
      decide +kernel
    obtain ⟨item, hitem, hfacts⟩ := (Option.any_eq_true _ _).mp hsome
    obtain ⟨hid, hclosed⟩ := of_decide_eq_true hfacts
    exact h fillAfterClose {} "7" 1 item hsafe hitem hid hclosed 2 _ (by omega) rfl
      (by decide) rfl

end TradeJournalWorker
