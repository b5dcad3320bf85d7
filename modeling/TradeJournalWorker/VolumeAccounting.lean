import Mathlib.Tactic.Linarith
import TradeJournalWorker.MergedEvents

namespace TradeJournalWorker

/-- A fill of a position as the terminal books it. -/
structure NativeFill where
  deal : Option String
  entry : Entry
  volume : Rat
  deriving DecidableEq

/-- The volume of the position after the fill; a reversal leaves what exceeds the volume. -/
def NativeFill.after (fill : NativeFill) (held : Rat) : Option Rat :=
  match fill.entry with
  | .in => some (held + fill.volume)
  | .out | .outBy => if fill.volume ≤ held then some (held - fill.volume) else none
  | .inout => if 0 < held ∧ held < fill.volume then some (fill.volume - held) else none
  | .unknown => none

def volumeAfter : List NativeFill → Rat → Option Rat
  | [], held => some held
  | fill :: rest, held => (fill.after held).bind (volumeAfter rest)

/-- The fill of the position that a live `DEAL_ADD` record reports. -/
def fillOf (key : String) (record : EventRecord) : Option NativeFill :=
  if record.historyArchived = false ∧ record.eventType = .dealAdd ∧ record.position = some key then
    some ⟨record.deal, record.entry.getD .unknown, orZero record.volume⟩
  else none

def fillsOf (key : String) (records : List EventRecord) : List NativeFill :=
  records.filterMap (fillOf key)

/-- The volume of a position in a snapshot, zero where it is not there. -/
def heldVolume (snapshot : Snapshot) (key : String) : Rat :=
  ((snapshot.positions.get? key).bind PositionRow.volume).getD 0

def PositiveRows (snapshot : Snapshot) : Prop :=
  ∀ key row, snapshot.positions.get? key = some row → ∃ volume, row.volume = some volume ∧ 0 < volume

/-- A live deal record names its position and a volume. -/
def FillRecord (record : EventRecord) : Prop :=
  record.historyArchived = false → record.eventType = .dealAdd →
    ∃ key volume, record.position = some key ∧ key ≠ "" ∧ record.volume = some volume ∧ 0 < volume

/-- The fills of the batch account for what the two snapshots differ in; the records of other
kinds are free, and so is the order. -/
structure ConsistentBatch (records : List EventRecord) (previous current : Snapshot) : Prop where
  previousRows : PositiveRows previous
  currentRows : PositiveRows current
  fills : ∀ record ∈ records, FillRecord record
  accounts : ∀ key,
    volumeAfter (fillsOf key records) (heldVolume previous key) = some (heldVolume current key)

def isVolumeEvent (event : RawEvent) : Bool :=
  event.eventType ∈ [.tradeOpened, .tradeVolumeChanged, .tradePartialClosed, .tradeClosed]

/-- What a reader of the events makes of the volume it holds; `none` where the event does not
fit it. -/
def applyEvent (held : Rat) (event : RawEvent) : Option Rat :=
  match event.eventType with
  | .tradeOpened => if held = 0 then event.volume else none
  | .tradeVolumeChanged => if event.previousVolume = some held then event.volume else none
  | .tradePartialClosed =>
    event.volume.bind fun volume => if volume < held then some (held - volume) else none
  | .tradeClosed => if event.volume = some held then some 0 else none
  | _ => none

/-- The events apply the fills one by one and arrive at the target. -/
def Follows (target : Rat) : Rat → List NativeFill → List RawEvent → Prop
  | held, [], [] => held = target
  | held, fill :: fills, event :: events =>
    event.nativeDealTicket = fill.deal ∧
      ∃ after, fill.after held = some after ∧ applyEvent held event = some after ∧
        Follows target after fills events
  | _, _, _ => False

def volumeEventsOf (key : String) (events : List RawEvent) : List RawEvent :=
  events.filter fun event => event.ticket = key && isVolumeEvent event

/-- Every position goes from its previous volume to its current one, each fill applied once. -/
def VolumesAccounted (records : List EventRecord) (previous current : Snapshot) : Prop :=
  ∀ key, Follows (heldVolume current key) (heldVolume previous key) (fillsOf key records)
    (volumeEventsOf key (mergeEventStreamWithSnapshot records previous current))

/-- Each fill with the volume it met. -/
def metFills : List NativeFill → Rat → List (Rat × NativeFill)
  | [], _ => []
  | fill :: rest, held => (held, fill) :: metFills rest ((fill.after held).getD 0)

def NativeFill.IsExit (fill : NativeFill) : Prop := fill.entry = .out ∨ fill.entry = .outBy

/-- An exit that leaves something, but no more than the tolerance. -/
def LeavesDust (met : Rat × NativeFill) : Prop :=
  met.2.IsExit ∧ 0 < met.1 - met.2.volume ∧ met.1 - met.2.volume ≤ closeTolerance

/-- The merge has an event for every fill of the position. -/
structure PlainFills (met : List (Rat × NativeFill)) : Prop where
  reversal : ∀ step ∈ met, step.2.entry ≠ .inout
  dust : ∀ step ∈ met, ¬ LeavesDust step

/-- A live state echo of the position. -/
def Echoed (key : String) (records : List EventRecord) : Prop :=
  ∃ record ∈ records, record.historyArchived = false ∧ record.eventType = .position ∧
    record.eventTicket = key

/-- Some fill has added to the position while it was open. -/
def ScaledIn (met : List (Rat × NativeFill)) : Prop :=
  ∃ step ∈ met, step.2.entry = .in ∧ 0 < step.1

/-- The snapshots' own report of a growth is dropped: no echo brings it, and a scale-in covers
what the diff would bring. -/
def GrowthCovered (key : String) (records : List EventRecord) (previous current : Snapshot) :
    Prop :=
  0 < heldVolume previous key → heldVolume previous key < heldVolume current key →
    ¬ Echoed key records ∧ ScaledIn (metFills (fillsOf key records) (heldVolume previous key))

def PlainPosition (key : String) (records : List EventRecord) (previous current : Snapshot) :
    Prop :=
  PlainFills (metFills (fillsOf key records) (heldVolume previous key)) ∧
    GrowthCovered key records previous current

section Fills

variable {target held : Rat} {fills : List NativeFill} {fill : NativeFill}

theorem after_in (h : fill.entry = .in) : fill.after held = some (held + fill.volume) := by
  unfold NativeFill.after
  rw [h]

theorem after_exit (h : fill.IsExit) :
    fill.after held = if fill.volume ≤ held then some (held - fill.volume) else none := by
  unfold NativeFill.after
  rcases h with h | h <;> rw [h]

/-- A fill that leaves a volume enters, leaves or reverses. -/
theorem entry_of_after {after : Rat} (h : fill.after held = some after) :
    fill.entry = .in ∨ fill.IsExit ∨ fill.entry = .inout := by
  unfold NativeFill.after at h
  unfold NativeFill.IsExit
  cases hentry : fill.entry with
  | «in» => exact Or.inl rfl
  | out => exact Or.inr (Or.inl (Or.inl rfl))
  | inout => exact Or.inr (Or.inr rfl)
  | outBy => exact Or.inr (Or.inl (Or.inr rfl))
  | unknown =>
    rw [hentry] at h
    cases h

theorem exit_of_after {after : Rat} (hexit : fill.IsExit) (h : fill.after held = some after) :
    fill.volume ≤ held ∧ after = held - fill.volume := by
  rw [after_exit hexit] at h
  split at h
  next hle => exact ⟨hle, (Option.some.inj h).symm⟩
  next => cases h

theorem volumeAfter_cons (h : volumeAfter (fill :: fills) held = some target) :
    ∃ after, fill.after held = some after ∧ volumeAfter fills after = some target :=
  Option.bind_eq_some_iff.mp h

theorem metFills_cons {after : Rat} (h : fill.after held = some after) :
    metFills (fill :: fills) held = (held, fill) :: metFills fills after := by
  simp [metFills, h]

/-- A position that appears was opened by a fill. -/
theorem met_opening (hafter : volumeAfter fills 0 = some target) (htarget : 0 < target)
    (hpositive : ∀ fill ∈ fills, 0 < fill.volume) :
    ∃ step ∈ metFills fills 0, step.2.entry = .in ∧ step.1 = 0 := by
  cases fills with
  | nil =>
    have hzero : (0 : Rat) = target := Option.some.inj hafter
    exact absurd htarget (by rw [hzero]; exact lt_irrefl _)
  | cons fill rest =>
    have hvolume := hpositive fill List.mem_cons_self
    obtain ⟨after, hfill, -⟩ := volumeAfter_cons hafter
    refine ⟨(0, fill), by simp [metFills], ?_, rfl⟩
    rcases entry_of_after hfill with hin | hexit | hreversal
    · exact hin
    · have hle := (exit_of_after hexit hfill).1
      exact absurd hvolume (not_lt.mpr hle)
    · unfold NativeFill.after at hfill
      rw [hreversal] at hfill
      simp at hfill

/-- A position that is gone was left by a fill of its whole volume. -/
theorem met_closing (hafter : volumeAfter fills held = some 0) (hheld : 0 < held)
    (hpositive : ∀ fill ∈ fills, 0 < fill.volume)
    (hreversal : ∀ step ∈ metFills fills held, step.2.entry ≠ .inout) :
    ∃ step ∈ metFills fills held, step.2.IsExit ∧ step.1 - step.2.volume = 0 := by
  induction fills generalizing held with
  | nil => exact absurd hheld (by rw [Option.some.inj hafter]; exact lt_irrefl _)
  | cons fill rest ih =>
    have hvolume := hpositive fill List.mem_cons_self
    obtain ⟨after, hfill, hrest⟩ := volumeAfter_cons hafter
    rw [metFills_cons hfill] at hreversal ⊢
    by_cases hgone : fill.IsExit ∧ after = 0
    · have hleft := (exit_of_after hgone.1 hfill).2
      exact ⟨(held, fill), List.mem_cons_self, hgone.1, by rw [← hleft]; exact hgone.2⟩
    · have hpositiveAfter : 0 < after := by
        rcases entry_of_after hfill with hin | hexit | hinout
        · rw [after_in hin] at hfill
          rw [← Option.some.inj hfill]
          linarith
        · obtain ⟨hle, hleft⟩ := exit_of_after hexit hfill
          have hne : after ≠ 0 := fun hzero => hgone ⟨hexit, hzero⟩
          have hge : 0 ≤ after := by linarith
          exact lt_of_le_of_ne hge (Ne.symm hne)
        · exact absurd hinout (hreversal _ List.mem_cons_self)
      obtain ⟨step, hstep, hexit⟩ := ih hrest hpositiveAfter
        (fun other hother => hpositive other (List.mem_cons_of_mem _ hother))
        (fun other hother => hreversal other (List.mem_cons_of_mem _ hother))
      exact ⟨step, List.mem_cons_of_mem _ hstep, hexit⟩

/-- A position that shrank was left by some fill. -/
theorem met_exit (hafter : volumeAfter fills held = some target) (hless : target < held)
    (hpositive : ∀ fill ∈ fills, 0 < fill.volume)
    (hreversal : ∀ step ∈ metFills fills held, step.2.entry ≠ .inout) :
    ∃ step ∈ metFills fills held, step.2.IsExit := by
  induction fills generalizing held with
  | nil => exact absurd hless (by rw [Option.some.inj hafter]; exact lt_irrefl _)
  | cons fill rest ih =>
    have hvolume := hpositive fill List.mem_cons_self
    obtain ⟨after, hfill, hrest⟩ := volumeAfter_cons hafter
    rw [metFills_cons hfill] at hreversal ⊢
    rcases entry_of_after hfill with hin | hexit | hinout
    · rw [after_in hin] at hfill
      have heq := Option.some.inj hfill
      obtain ⟨step, hstep, hexit⟩ := ih hrest (by linarith)
        (fun other hother => hpositive other (List.mem_cons_of_mem _ hother))
        (fun other hother => hreversal other (List.mem_cons_of_mem _ hother))
      exact ⟨step, List.mem_cons_of_mem _ hstep, hexit⟩
    · exact ⟨(held, fill), List.mem_cons_self, hexit⟩
    · exact absurd hinout (hreversal _ List.mem_cons_self)

/-- No fill leaves a negative volume. -/
theorem after_nonneg {after : Rat} (h : fill.after held = some after) (hheld : 0 ≤ held)
    (hvolume : 0 < fill.volume) : 0 ≤ after := by
  rcases entry_of_after h with hin | hexit | hinout
  · rw [after_in hin] at h
    rw [← Option.some.inj h]
    linarith
  · obtain ⟨hle, hleft⟩ := exit_of_after hexit h
    linarith
  · unfold NativeFill.after at h
    rw [hinout] at h
    simp only at h
    split at h
    next hover =>
      rw [← Option.some.inj h]
      linarith [hover.2]
    next => cases h

end Fills

end TradeJournalWorker
