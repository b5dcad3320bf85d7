import TradeJournalWorker.PositionWatch
import TradeJournalWorker.TrackerReplay

namespace TradeJournalWorker

open RunningPeak

/-- What one call shows of a position, whichever process makes it: a failed close shows nothing
new, and a restart nothing at all. -/
def Watch.call (ticket : String) (watch : Watch) : TrackerCall → Watch
  | .opens events _ => watch.openings ticket events
  | .rows snapshot _ _ => watch.rows ticket snapshot
  | .closes _ _ _ => watch
  | .discards tickets _ => if ticket ∈ tickets then {} else watch
  | .restart => watch

def watchOf (ticket : String) (calls : List TrackerCall) : Watch :=
  calls.foldl (Watch.call ticket) {}

/-- The call wrote the file of the tracker. -/
def TrackerCall.saved : TrackerCall → Bool
  | .opens _ saved => saved
  | .rows _ _ saved => saved
  | .closes _ _ _ => false
  | .discards _ saved => saved
  | .restart => false

/-- A position in a run: what was seen of it, what the process has seen, what its file shows, the
close prices that attempts have counted without discarding the position, and whether something
seen is in no file yet. -/
structure Status where
  watch : Watch := {}
  held : Watch := {}
  filed : Watch := {}
  pending : List Sighting := []
  unsaved : Bool := false
  deriving DecidableEq

namespace Status

/-- The process counts the close prices of its failed attempts and starts from the file. -/
def heldAfter (ticket : String) (status : Status) : TrackerCall → Watch
  | .closes events _ _ => status.held.closings ticket events
  | .restart => status.filed
  | call => status.held.call ticket call

def pendingAfter (ticket : String) (status : Status) : TrackerCall → List Sighting
  | .closes events _ _ =>
    (events.filter (·.closesPosition ticket)).flatMap status.held.toTerms.closeSighting ++
      status.pending
  | .discards tickets _ => if ticket ∈ tickets then [] else status.pending
  | _ => status.pending

def after (ticket : String) (status : Status) (call : TrackerCall) : Status :=
  { watch := status.watch.call ticket call
    held := status.heldAfter ticket call
    filed := if call.saved then status.heldAfter ticket call else status.filed
    pending := status.pendingAfter ticket call
    unsaved := !call.saved && (status.unsaved || status.watch.call ticket call ≠ status.watch) }

end Status

def statusOf (ticket : String) (calls : List TrackerCall) : Status :=
  calls.foldl (Status.after ticket) {}

theorem statusOf_concat (ticket : String) (calls : List TrackerCall) (call : TrackerCall) :
    statusOf ticket (calls ++ [call]) = (statusOf ticket calls).after ticket call := by
  unfold statusOf
  rw [List.foldl_append]
  rfl

theorem statusOf_watch (ticket : String) (calls : List TrackerCall) :
    (statusOf ticket calls).watch = watchOf ticket calls := by
  have hfold : ∀ status : Status,
      (calls.foldl (Status.after ticket) status).watch =
        calls.foldl (Watch.call ticket) status.watch := by
    induction calls with
    | nil => exact fun status => rfl
    | cons call rest ih => exact fun status => ih _
  exact hfold {}

section Tracker

variable {sampleMs : Nat} {ticket : String}

theorem stateOf_discardClosed (positions : Excursions) (tickets : List String) (ticket : String) :
    stateOf (discardClosed positions tickets).positions ticket =
      if ticket ∈ tickets then {} else stateOf positions ticket := by
  have hfold : ∀ (tickets : List String) (positions : Excursions),
      stateOf (tickets.foldl OrderedDict.erase positions) ticket =
        if ticket ∈ tickets then {} else stateOf positions ticket := by
    intro tickets
    induction tickets with
    | nil => exact fun positions => (if_neg List.not_mem_nil).symm
    | cons head rest ih =>
      intro positions
      rw [List.foldl_cons, ih]
      unfold stateOf
      rw [OrderedDict.get?_erase]
      by_cases hrest : ticket ∈ rest
      · rw [if_pos hrest, if_pos (List.mem_cons_of_mem head hrest)]
      · rw [if_neg hrest]
        by_cases hhead : ticket = head
        · rw [if_pos hhead, if_pos (hhead ▸ List.mem_cons_self)]
          rfl
        · have hnot : ticket ∉ head :: rest := by simp [hhead, hrest]
          rw [if_neg hhead, if_neg hnot]
  exact hfold tickets positions

/-- The tracker and its file show what a process has seen and what was saved of it. -/
structure Accords (ticket : String) (status : Status) (tracker : Tracker) : Prop where
  held : Shown status.held (stateOf tracker.memory ticket)
  filed : Shown status.filed (stateOf tracker.stored ticket)

theorem Accords.persisted {status : Status} {tracker : Tracker} {call : TrackerCall}
    {observed : Observed} {saved : Bool} (h : Accords ticket status tracker)
    (hsaved : call.saved = saved)
    (hheld : Shown (status.heldAfter ticket call) (stateOf observed.positions ticket)) :
    Accords ticket (status.after ticket call) (tracker.persisted observed saved) := by
  constructor
  · exact hheld
  · show Shown (if call.saved then status.heldAfter ticket call else status.filed)
      (stateOf (if saved then observed.positions else tracker.stored) ticket)
    rw [hsaved]
    cases saved with
    | true => exact hheld
    | false => exact h.filed

/-- One call leads both on in the same way, whatever it is. -/
theorem Accords.step {status : Status} {tracker tracker' : Tracker} {call : TrackerCall}
    (h : Accords ticket status tracker) (hstep : TrackerStep sampleMs tracker call tracker') :
    Accords ticket (status.after ticket call) tracker' := by
  cases hstep with
  | opens events saved => exact h.persisted rfl (h.held.openings events)
  | rows snapshot now saved => exact h.persisted rfl (h.held.rows snapshot now)
  | closes events now => exact ⟨h.held.closings sampleMs now events, h.filed⟩
  | discards tickets saved =>
    apply h.persisted rfl
    rw [stateOf_discardClosed]
    show Shown (if ticket ∈ tickets then {} else status.held) _
    split
    next => exact shown_nothing
    next => exact h.held
  | restart => exact ⟨h.filed, h.filed⟩

/-- In every run the tracker shows what its process has seen. -/
theorem accords_replay {start tracker : Tracker} {calls : List TrackerCall}
    (hmemory : stateOf start.memory ticket = {}) (hstored : stateOf start.stored ticket = {})
    (h : Replays sampleMs start calls tracker) : Accords ticket (statusOf ticket calls) tracker := by
  induction h with
  | start =>
    constructor
    · rw [hmemory]
      exact shown_nothing
    · rw [hstored]
      exact shown_nothing
  | step hbefore hlast ih =>
    rw [statusOf_concat]
    exact ih.step hlast

end Tracker

end TradeJournalWorker
