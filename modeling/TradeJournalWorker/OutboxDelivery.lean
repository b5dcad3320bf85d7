import TradeJournalWorker.OutboxInvariant

namespace TradeJournalWorker

open FaultProgram

variable {π : Type} [Identified π]

/-- An outbox with nothing left to deliver, in memory and on disk. -/
structure IdleOutbox (world : OutboxWorld π) : Prop where
  state : world.state = emptyState
  reloads : load world.file = .ok emptyState

theorem load_emptyState : load (some (emptyState : OutboxState π)) = .ok emptyState := rfl

def deliveredAttempt (payload : π) : SendAttempt π :=
  { payload := payload, deadLetters := 0, sent := true }

/-- The outbox after a batch went through it without any fault. -/
def passThrough (world : OutboxWorld π) (added : List π) : OutboxWorld π :=
  { state := emptyState
    file := if added = [] then world.file else some emptyState
    accepted := world.accepted ++ added.map eventId
    attempts := world.attempts ++ added.map deliveredAttempt }

theorem IdleOutbox.passThrough {world : OutboxWorld π} (hidle : IdleOutbox world)
    (added : List π) : IdleOutbox (TradeJournalWorker.passThrough world added) := by
  refine ⟨rfl, ?_⟩
  unfold TradeJournalWorker.passThrough
  split
  · exact hidle.reloads
  · exact load_emptyState

theorem reload_loaded {world : OutboxWorld π} {state : OutboxState π}
    (hload : load world.file = .ok state) (env : OutboxEnv) :
    reload env world = (.returned (), env, { world with state := state }) := by
  unfold reload
  rw [Program.run_bind_returned (Program.run_getWorld _ _), hload]
  rfl

theorem reload_unreadable {world : OutboxWorld π} {error : OutboxError}
    (hload : load world.file = .error error) (env : OutboxEnv) :
    reload env world = (.raised error, env, world) := by
  unfold reload
  rw [Program.run_bind_returned (Program.run_getWorld _ _), hload]
  rfl

theorem reload_idle {world : OutboxWorld π} (hidle : IdleOutbox world) (env : OutboxEnv) :
    reload env world = (.returned (), env, world) := by
  have hstate : ({ world with state := emptyState } : OutboxWorld π) = world := by
    rw [← hidle.state]
  rw [reload_loaded hidle.reloads, hstate]

/-- Without faults every pending payload is sent and removed, the first one first. -/
theorem drainLoop_delivers (pending : List π) (counters : DrainResult) (world : OutboxWorld π)
    (hstate : world.state = ⟨pending, []⟩) :
    drainLoop pending.length counters {} world =
      (.returned { counters with sent := counters.sent + pending.length }, {},
        { world with
          state := emptyState
          file := if pending = [] then world.file else some emptyState
          attempts := world.attempts ++ pending.map deliveredAttempt }) := by
  induction pending generalizing counters world with
  | nil =>
    have hsame : ({ world with state := emptyState } : OutboxWorld π) = world := by
      rw [show (emptyState : OutboxState π) = world.state from hstate.symm]
    show (Exit.returned counters, ({} : OutboxEnv), world) = _
    simp [hsame]
  | cons payload rest ih =>
    have hstep : drainLoop (payload :: rest).length counters {} world =
        drainLoop rest.length { counters with sent := counters.sent + 1 } {}
          { world with
            state := ⟨rest, []⟩, file := some ⟨rest, []⟩
            attempts := world.attempts ++ [deliveredAttempt payload] } := by
      obtain ⟨state, file, accepted, attempts⟩ := world
      simp only at hstate
      subst hstate
      rfl
    rw [hstep, ih _ _ rfl]
    have hfile : (if rest = [] then some (⟨rest, []⟩ : OutboxState π) else some emptyState) =
        some emptyState := by
      split
      next hrest =>
        rw [hrest]
        rfl
      next => rfl
    simp only [hfile, List.length_cons, List.map_cons, List.append_assoc, List.singleton_append]
    simp only [reduceCtorEq, if_false, Nat.add_assoc, Nat.add_comm 1]

theorem drain_delivers (world : OutboxWorld π) (hdead : world.state.deadLetter = []) :
    drain {} world =
      (.returned { sent := world.state.pending.length }, {},
        { world with
          state := emptyState
          file := if world.state.pending = [] then world.file else some emptyState
          attempts := world.attempts ++ world.state.pending.map deliveredAttempt }) := by
  have hstate : world.state = ⟨world.state.pending, []⟩ := by
    rw [← hdead]
  have hloop := drainLoop_delivers world.state.pending {} world hstate
  unfold drain
  rw [Program.run_bind]
  show ((if world.state.deadLetter ≠ [] then pure _ else _ : OutboxProgram π DrainResult)
    {} world) = _
  rw [if_neg (by simpa using hdead)]
  rw [Program.run_bind, hloop]
  simp [Program.run_bind, Program.getWorld, Program.run_pure, emptyState]

/-- The outbox after its file was loaded and all of it delivered. -/
def drained (world : OutboxWorld π) (state : OutboxState π) : OutboxWorld π :=
  { world with
    state := emptyState
    file := if state.pending = [] then world.file else some emptyState
    attempts := world.attempts ++ state.pending.map deliveredAttempt }

theorem idle_drained {world : OutboxWorld π} {state : OutboxState π}
    (hload : load world.file = .ok state) (hdead : state.deadLetter = []) :
    IdleOutbox (drained world state) := by
  refine ⟨rfl, ?_⟩
  unfold drained
  simp only
  split
  next hpending =>
    have hempty : state = ⟨state.pending, state.deadLetter⟩ := rfl
    rw [hpending, hdead] at hempty
    rw [hload, hempty]
    rfl
  next => exact load_emptyState

theorem validateBatch_eq_ok {payloads : List π} (hids : ∀ p ∈ payloads, eventId p ≠ "") :
    validateBatch payloads = .ok () := by
  induction payloads with
  | nil => rfl
  | cons payload rest ih =>
    have hpayload : validatePayload payload = .ok () := by
      unfold validatePayload
      rw [if_neg (hids payload List.mem_cons_self)]
    have hrest := ih fun p hp => hids p (List.mem_cons_of_mem _ hp)
    unfold validateBatch
    rw [hpayload]
    exact hrest

/-- What `enqueue_many` leaves in an idle outbox when the state can be replaced. -/
def enqueued (world : OutboxWorld π) (added : List π) : OutboxWorld π :=
  { world with
    state := ⟨added, []⟩
    file := if added = [] then world.file else some ⟨added, []⟩
    accepted := world.accepted ++ added.map eventId }

theorem enqueueMany_idle {world : OutboxWorld π} (hidle : IdleOutbox world) {payloads : List π}
    (hids : ∀ p ∈ payloads, eventId p ≠ "") :
    enqueueMany payloads {} world =
      (.returned (appendNew [] payloads).length, {}, enqueued world (appendNew [] payloads)) := by
  obtain ⟨state, file, accepted, attempts⟩ := world
  obtain rfl : state = emptyState := hidle.state
  have hknown : knownIds (emptyState : OutboxState π) = [] := rfl
  unfold enqueueMany
  rw [validateBatch_eq_ok hids]
  simp only [Program.run_bind, Program.getWorld, hknown]
  by_cases hadded : appendNew [] payloads = []
  · simp [hadded, Program.run_pure, enqueued, emptyState]
  · simp only [hadded, ne_eq, not_false_eq_true, if_true, if_false, enqueued]
    rfl

/-- Enqueued and drained without a fault, a batch passes through an idle outbox. -/
theorem drain_enqueued (world : OutboxWorld π) (added : List π) :
    drain {} (enqueued world added) =
      (.returned { sent := added.length }, {}, passThrough world added) := by
  rw [drain_delivers _ rfl]
  by_cases hadded : added = []
  · simp [enqueued, passThrough, hadded]
  · simp [enqueued, passThrough, hadded]

theorem drain_idle {world : OutboxWorld π} (hidle : IdleOutbox world) :
    drain {} world = (.returned {}, {}, world) := by
  obtain ⟨state, file, accepted, attempts⟩ := world
  obtain rfl : state = emptyState := hidle.state
  rw [drain_delivers _ rfl]
  simp [emptyState]

end TradeJournalWorker
