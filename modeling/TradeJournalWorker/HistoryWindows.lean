import Mathlib.Algebra.Order.Ring.Int
import Mathlib.Logic.Relation
import TradeJournalWorker.ExpertRotation
import TradeJournalWorker.HalfOpenWindows

namespace TradeJournalWorker

open FaultProgram HalfOpen

/-- How one window goes: its records are read, handed on and the checkpoint is saved, or an
exception comes before or after the checkpoint has been replaced. -/
inductive WindowAnswer where
  | served
  | fails
  | failsLate
  deriving DecidableEq, Repr

/-- One call of `HistorySync.run`. Times are microseconds, and `now` is what the clock says. -/
structure SyncCall where
  mode : HistoryMode
  fromDate : Option Int := none
  chunkDays : Int := 7
  timeBasisUnresolved : Bool := false
  snapshotAtomic : Bool := false
  now : Int
  answers : List WindowAnswer := []

/-- The windows that were completed, how the call ended, and the checkpoint after it. -/
structure SyncOutcome where
  windows : List (HalfOpen Int)
  completed : Bool
  checkpoint : Option Int
  deriving DecidableEq, Repr

def dayMicroseconds : Int := 86400000000

/-- The end of the window that starts at the cursor. -/
def windowEnd (call : SyncCall) (cursor : Int) : Int :=
  if call.snapshotAtomic then call.now
  else min (cursor + dayMicroseconds * max 1 (min call.chunkDays 31)) call.now

theorem lt_windowEnd {call : SyncCall} {cursor : Int} (h : cursor < call.now) :
    cursor < windowEnd call cursor ∧ windowEnd call cursor ≤ call.now := by
  unfold windowEnd dayMicroseconds
  split
  · exact ⟨h, le_rfl⟩
  · omega

/-- The loop over the windows; `checkpoint` is what the file has when the cursor gets here. -/
def syncWindows (call : SyncCall) (cursor : Int) (answers : List WindowAnswer)
    (checkpoint : Option Int) : SyncOutcome :=
  if h : cursor < call.now then
    let upTo := windowEnd call cursor
    match nextAnswer .served answers with
    | (.served, rest) =>
      let outcome := syncWindows call upTo rest (some upTo)
      { outcome with windows := ⟨cursor, upTo⟩ :: outcome.windows }
    | (.fails, _) => { windows := [], completed := false, checkpoint }
    | (.failsLate, _) =>
      { windows := [⟨cursor, upTo⟩], completed := false, checkpoint := some upTo }
  else { windows := [], completed := true, checkpoint }
termination_by (call.now - cursor).toNat
decreasing_by
  have hless := lt_windowEnd h
  omega

/-- Where a call begins, unless it is refused. -/
def SyncCall.start (call : SyncCall) (checkpoint : Option Int) : Option Int :=
  match call.mode with
  | .newOnly => some (checkpoint.getD call.now)
  | .fromDate => if call.timeBasisUnresolved then none else call.fromDate
  | .allAvailable => some 0

/-- `HistorySync.run`. -/
def SyncCall.run (call : SyncCall) (checkpoint : Option Int) : SyncOutcome :=
  match call.start checkpoint with
  | none => { windows := [], completed := false, checkpoint }
  | some start => syncWindows call start call.answers checkpoint

section Run

variable {call : SyncCall}

/-- Where the windows of a loop end, what they leave in the checkpoint, and that only a loop that
has come to the present is completed. -/
structure TilesFrom (call : SyncCall) (cursor : Int) (checkpoint : Option Int)
    (outcome : SyncOutcome) (stop : Int) : Prop where
  tiles : Consecutive cursor outcome.windows stop
  within : stop ≤ max cursor call.now
  checkpoint : outcome.checkpoint = if outcome.windows = [] then checkpoint else some stop
  completed : outcome.completed = true → stop = max cursor call.now

theorem syncWindows_tiles (cursor : Int) (answers : List WindowAnswer) (checkpoint : Option Int) :
    ∃ stop, TilesFrom call cursor checkpoint (syncWindows call cursor answers checkpoint) stop := by
  induction cursor, answers, checkpoint using syncWindows.induct call with
  | case1 cursor answers checkpoint h upTo rest hanswer ih =>
    obtain ⟨stop, htiles, hwithin, hcheckpoint, hcompleted⟩ := ih
    have hbounds := lt_windowEnd h
    have hupTo : upTo = windowEnd call cursor := rfl
    unfold syncWindows
    simp only [h, dif_pos, hanswer]
    refine ⟨stop, ⟨rfl, hbounds.1, htiles⟩, by omega, ?_, fun hdone => ?_⟩
    · rw [if_neg (List.cons_ne_nil _ _)]
      show (syncWindows call upTo rest (some upTo)).checkpoint = some stop
      rw [hcheckpoint]
      split
      next hnone =>
        rw [hnone] at htiles
        exact congrArg some htiles
      next => rfl
    · have hstop := hcompleted hdone
      omega
  | case2 cursor answers checkpoint h rest hanswer =>
    unfold syncWindows
    simp only [h, dif_pos, hanswer]
    refine ⟨cursor, rfl, le_max_left _ _, rfl, fun hdone => ?_⟩
    cases hdone
  | case3 cursor answers checkpoint h rest hanswer =>
    have hbounds := lt_windowEnd h
    unfold syncWindows
    simp only [h, dif_pos, hanswer]
    refine ⟨windowEnd call cursor, ⟨rfl, hbounds.1, rfl⟩, by omega, rfl, fun hdone => ?_⟩
    cases hdone
  | case4 cursor answers checkpoint h =>
    unfold syncWindows
    simp only [h, dif_neg, not_false_eq_true]
    exact ⟨cursor, rfl, le_max_left _ _, rfl, fun _ => by omega⟩

theorem run_tiles {start : Int} {checkpoint : Option Int} (h : call.start checkpoint = some start) :
    ∃ stop, TilesFrom call start checkpoint (call.run checkpoint) stop := by
  unfold SyncCall.run
  rw [h]
  exact syncWindows_tiles start call.answers checkpoint

theorem run_refused {checkpoint : Option Int} (h : call.start checkpoint = none) :
    call.run checkpoint = { windows := [], completed := false, checkpoint } := by
  unfold SyncCall.run
  rw [h]

end Run

section Runs

/-- A checkpoint with what the calls on it have done: when the last one was made, when the first and
the last completed `new_only` call was made, and the windows completed so far. -/
structure SyncHistory where
  checkpoint : Option Int := none
  clock : Int
  first : Option Int := none
  latest : Option Int := none
  windows : List (HalfOpen Int) := []

/-- When a call is a completed `new_only` call, its time. -/
def resumedAt (call : SyncCall) (outcome : SyncOutcome) : Option Int :=
  if outcome.completed = true ∧ call.mode = .newOnly then some call.now else none

def SyncHistory.after (history : SyncHistory) (call : SyncCall) : SyncHistory :=
  let outcome := call.run history.checkpoint
  { checkpoint := outcome.checkpoint
    clock := call.now
    first := history.first.or (resumedAt call outcome)
    latest := (resumedAt call outcome).or history.latest
    windows := history.windows ++ outcome.windows }

/-- After the first completed `new_only` call, a completed `new_only` call and every call that
completes a window after that time begins where the covered time ends, or before it as long as no
time is covered. -/
def SyncHistory.Resumes (history : SyncHistory) (call : SyncCall) : Prop :=
  ∀ first start, history.first = some first → call.start history.checkpoint = some start →
    (resumedAt call (call.run history.checkpoint) ≠ none ∨
      ∃ window ∈ (call.run history.checkpoint).windows, first < window.stop) →
    start = lastStop first history.windows ∨
      start ≤ first ∧ lastStop first history.windows = first

/-- A call at a later time that resumes. -/
inductive ResumingStep : SyncHistory → SyncHistory → Prop where
  | call (history : SyncHistory) (call : SyncCall) (hlater : history.clock < call.now)
      (hresumes : history.Resumes call) : ResumingStep history (history.after call)

/-- From the first completed `new_only` call on the covered time is covered once. -/
structure CoveredOnce (history : SyncHistory) : Prop where
  past : ∀ window ∈ history.windows, window.stop ≤ history.clock
  started : ∀ first, history.first = some first → first ≤ history.clock
  once : ∀ first, history.first = some first → ∀ x, first ≤ x →
    hits x history.windows = if x < lastStop first history.windows then 1 else 0
  latest : ∀ last, history.latest = some last → ∃ first, history.first = some first ∧
    last ≤ lastStop first history.windows

theorem resumedAt_some {call : SyncCall} {outcome : SyncOutcome} {time : Int}
    (h : resumedAt call outcome = some time) :
    outcome.completed = true ∧ call.mode = .newOnly ∧ time = call.now := by
  unfold resumedAt at h
  split at h
  next hboth =>
    cases h
    exact ⟨hboth.1, hboth.2, rfl⟩
  next => cases h

/-- The windows of one call lie before its time. -/
theorem run_windows_past (call : SyncCall) (checkpoint : Option Int) :
    ∀ window ∈ (call.run checkpoint).windows, window.stop ≤ call.now := by
  intro window hmem
  cases hstart : call.start checkpoint with
  | none =>
    rw [run_refused hstart] at hmem
    exact absurd hmem List.not_mem_nil
  | some start =>
    obtain ⟨stop, htiles⟩ := run_tiles hstart
    have hstop := (htiles.tiles.stop_mem (List.ne_nil_of_mem hmem)).1
    have hle := htiles.tiles.stop_le hmem
    have hwithin := htiles.within
    omega

/-- The covered time after one more call, when some time is being covered already. -/
theorem CoveredOnce.extend {history : SyncHistory} {call : SyncCall} (h : CoveredOnce history)
    (hlater : history.clock < call.now) (hresumes : history.Resumes call) {first : Int}
    (hfirst : history.first = some first) :
    (∀ x, first ≤ x → hits x (history.after call).windows =
      if x < lastStop first (history.after call).windows then 1 else 0) ∧
    ∀ time, resumedAt call (call.run history.checkpoint) = some time →
      time ≤ lastStop first (history.after call).windows := by
  have hreach : lastStop first history.windows ≤ history.clock :=
    lastStop_le (h.started first hfirst) h.past
  have hfirstle := le_lastStop first history.windows
  have honce := h.once first hfirst
  unfold SyncHistory.after
  dsimp only
  rw [lastStop_append]
  cases hstart : call.start history.checkpoint with
  | none =>
    rw [run_refused hstart, List.append_nil]
    refine ⟨honce, fun time htime => ?_⟩
    have hdone := (resumedAt_some htime).1
    cases hdone
  | some start =>
    obtain ⟨stop, htiles⟩ := run_tiles hstart
    have hbegins := hresumes first start hfirst hstart
    have hcompleted := htiles.completed
    have hwithin := htiles.within
    have hconsecutive := htiles.tiles
    by_cases hempty : (call.run history.checkpoint).windows = []
    · rw [hempty] at hconsecutive ⊢
      have hsame : start = stop := hconsecutive
      rw [List.append_nil]
      refine ⟨honce, fun time htime => ?_⟩
      -- a completed call without a window would begin in the future
      obtain ⟨hdone, -, rfl⟩ := resumedAt_some htime
      have hstop := hcompleted hdone
      have hcases := hbegins (Or.inl (by rw [htime]; exact Option.some_ne_none _))
      have hclock := h.started first hfirst
      omega
    · obtain ⟨hless, window, hwindow, hlast⟩ := hconsecutive.stop_mem hempty
      rw [hconsecutive.lastStop_eq hempty]
      by_cases hpast : first < stop
      · have hcases := hbegins (Or.inr ⟨window, hwindow, by omega⟩)
        refine ⟨fun x hx => ?_, fun time htime => ?_⟩
        · rw [hits_append, honce x hx, hconsecutive.hits_eq]
          rcases hcases with hend | ⟨hlow, hnone⟩
          · by_cases hold : x < lastStop first history.windows
            · rw [if_pos hold, if_neg (by omega), if_pos (by omega)]
            · rw [if_neg hold]
              by_cases hnew : x < stop
              · rw [if_pos (by omega), if_pos (by omega)]
              · rw [if_neg (by omega), if_neg (by omega)]
          · rw [if_neg (by omega)]
            by_cases hnew : x < stop
            · rw [if_pos (by omega), if_pos (by omega)]
            · rw [if_neg (by omega), if_neg (by omega)]
        · obtain ⟨hdone, -, rfl⟩ := resumedAt_some htime
          have hstop := hcompleted hdone
          omega
      · refine ⟨fun x hx => ?_, fun time htime => ?_⟩
        · have hnone : ¬ (start ≤ x ∧ x < stop) := by omega
          rw [hits_append, honce x hx, hconsecutive.hits_eq, if_neg hnone, Nat.add_zero]
          have hmax : max (lastStop first history.windows) stop =
              lastStop first history.windows := by omega
          rw [hmax]
        · obtain ⟨hdone, -, rfl⟩ := resumedAt_some htime
          have hstop := hcompleted hdone
          have hclock := h.started first hfirst
          omega

theorem CoveredOnce.after {history : SyncHistory} {call : SyncCall} (h : CoveredOnce history)
    (hlater : history.clock < call.now) (hresumes : history.Resumes call) :
    CoveredOnce (history.after call) := by
  have hrun := run_windows_past call history.checkpoint
  have hpast : ∀ window ∈ (history.after call).windows, window.stop ≤ call.now := by
    intro window hmem
    rcases List.mem_append.mp hmem with hold | hnew
    · have hle := h.past window hold
      omega
    · exact hrun window hnew
  cases hfirst : history.first with
  | some first =>
    obtain ⟨honce, hlatest⟩ := h.extend hlater hresumes hfirst
    have hsame : (history.after call).first = some first := by
      show history.first.or _ = _
      rw [hfirst]
      rfl
    have hstarted := h.started first hfirst
    refine ⟨hpast, fun other hother => ?_, fun other hother => ?_, fun last hlast => ?_⟩
    · rw [hsame] at hother
      cases hother
      show first ≤ call.now
      omega
    · rw [hsame] at hother
      cases hother
      exact honce
    · refine ⟨first, hsame, ?_⟩
      have hor : (resumedAt call (call.run history.checkpoint)).or history.latest = some last := hlast
      cases hresumed : resumedAt call (call.run history.checkpoint) with
      | some time =>
        rw [hresumed] at hor
        cases hor
        exact hlatest last hresumed
      | none =>
        rw [hresumed] at hor
        obtain ⟨other, hother, hle⟩ := h.latest last hor
        rw [hfirst] at hother
        cases hother
        show last ≤ lastStop first (history.windows ++ _)
        rw [lastStop_append]
        exact hle.trans (le_lastStop _ _)
  | none =>
    have hnow : (history.after call).first = resumedAt call (call.run history.checkpoint) := by
      show history.first.or _ = _
      rw [hfirst]
      rfl
    have hlast : (history.after call).latest = resumedAt call (call.run history.checkpoint) := by
      show Option.or _ history.latest = _
      cases hold : history.latest with
      | none => exact Option.or_none
      | some last =>
        obtain ⟨first, hsome, -⟩ := h.latest last hold
        rw [hfirst] at hsome
        cases hsome
    refine ⟨hpast, fun first hsome => ?_, fun first hsome x hx => ?_, fun last hsome => ?_⟩
    · rw [hnow] at hsome
      exact le_of_eq (resumedAt_some hsome).2.2
    · rw [hnow] at hsome
      have htime := (resumedAt_some hsome).2.2
      have hlow : lastStop first (history.after call).windows ≤ first :=
        lastStop_le le_rfl fun window hmem => by
          have hle := hpast window hmem
          omega
      rw [if_neg (by omega), hits_eq_zero]
      intro window hmem
      have hle := hpast window hmem
      omega
    · rw [hlast] at hsome
      exact ⟨last, by rw [hnow]; exact hsome, le_lastStop _ _⟩

theorem syncWindows_done {call : SyncCall} {cursor : Int} (h : ¬ cursor < call.now)
    (answers : List WindowAnswer) (checkpoint : Option Int) :
    syncWindows call cursor answers checkpoint = ⟨[], true, checkpoint⟩ := by
  unfold syncWindows
  rw [dif_neg h]

/-- A loop that comes to the present with its first window. -/
theorem syncWindows_once {call : SyncCall} {cursor : Int} (h : cursor < call.now)
    (hend : windowEnd call cursor = call.now) (checkpoint : Option Int) :
    syncWindows call cursor [] checkpoint = ⟨[⟨cursor, call.now⟩], true, some call.now⟩ := by
  unfold syncWindows
  rw [dif_pos h]
  simp only [nextAnswer, hend]
  rw [syncWindows_done (lt_irrefl _)]

def importCall : SyncCall := { mode := .allAvailable, snapshotAtomic := true, now := 10 }

def newOnlyCall (now : Int) : SyncCall := { mode := .newOnly, now := now }

end Runs

end TradeJournalWorker
