import TradeJournalWorker.OutboxDelivery

namespace TradeJournalWorker

open FaultProgram

variable {π : Type} [Identified π]

/-- The sender may fail, but it rejects nothing for good. -/
def OutboxEnv.NoRejection (env : OutboxEnv) : Prop :=
  ∀ result, .result result ∈ env.sends → result.failureType ≠ some .permanent

/-- The file can be loaded and no dead letter bars the way. -/
def Recoverable (world : OutboxWorld π) : Prop :=
  ∃ state, load world.file = .ok state ∧ state.deadLetter = []

/-- Memory and file agree, without dead letters. -/
structure Loaded (world : OutboxWorld π) : Prop where
  file : load world.file = .ok world.state
  noDeadLetter : world.state.deadLetter = []

theorem Loaded.recoverable {world : OutboxWorld π} (h : Loaded world) : Recoverable world :=
  ⟨world.state, h.file, h.noDeadLetter⟩

theorem validState_of_load {file : Option (OutboxState π)} {state : OutboxState π}
    (h : load file = .ok state) : ValidState state := by
  cases file with
  | none =>
    cases h
    exact validateState_eq_ok.mp rfl
  | some stored =>
    change (validateState stored >>= fun _ => pure stored) = _ at h
    cases hvalid : validateState stored with
    | error error =>
      rw [hvalid] at h
      cases h
    | ok u =>
      rw [hvalid] at h
      cases h
      exact validateState_eq_ok.mp hvalid

/-- An outbox that another process can take over, with these ids accepted so far. -/
def Held (accepted : List String) (env : OutboxEnv) (world : OutboxWorld π) : Prop :=
  env.NoRejection ∧ Recoverable world ∧ world.accepted = accepted

/-- The same while the outbox works. -/
def Ready (accepted : List String) (env : OutboxEnv) (world : OutboxWorld π) : Prop :=
  env.NoRejection ∧ Loaded world ∧ world.accepted = accepted

variable {accepted : List String}

theorem Ready.held {env : OutboxEnv} {world : OutboxWorld π} (h : Ready accepted env world) :
    Held accepted env world := ⟨h.1, h.2.1.recoverable, h.2.2⟩

theorem OutboxEnv.NoRejection.nextSend {env : OutboxEnv} (h : env.NoRejection) :
    env.nextSend.2.NoRejection ∧
      ∀ result, env.nextSend.1 = .result result → result.failureType ≠ some .permanent := by
  refine ⟨fun result hmem => h result (nextAnswer_snd_subset env.sends hmem), ?_⟩
  intro result hresult
  rcases nextAnswer_fst_mem (.result { status := .sent }) env.sends with hdefault | hmem
  · have hsent : SendAnswer.result result = .result { status := .sent } := hresult ▸ hdefault
    cases hsent
    simp
  · exact h result (hresult ▸ hmem)

theorem reload_ready : Triple (Held accepted) (reload : OutboxProgram π Unit)
    (returning (fun _ => Ready accepted) (Held accepted)) := by
  unfold reload
  apply triple_read
  rintro start env world ⟨⟨hsends, ⟨state, hload, hdead⟩, haccepted⟩, rfl⟩
  rw [hload]
  exact ⟨hsends, ⟨hload, hdead⟩, haccepted⟩

/-- A valid state without dead letters is in force after its replacement; otherwise
either state is what the file holds. -/
theorem replaceState_ready {newState : OutboxState π} (hvalid : ValidState newState)
    (hdead : newState.deadLetter = []) :
    Triple (Ready accepted) (replaceState newState)
      (returning (fun _ env world => Ready accepted env world ∧ world.state = newState)
        (Held accepted)) := by
  intro env world hw
  have hload := load_of_valid hvalid
  unfold replaceState
  rw [Program.run_bind]
  unfold Program.write
  cases env.nextPersist.1 with
  | done => exact ⟨⟨hw.1, ⟨hload, hdead⟩, hw.2.2⟩, rfl⟩
  | failed error => exact hw.held
  | failedLate error => exact ⟨hw.1, ⟨newState, hload, hdead⟩, hw.2.2⟩
  | crash => exact hw.held

theorem send_ready (state : OutboxState π) (payload : π) :
    Triple (fun env world => Ready accepted env world ∧ world.state = state) (send payload)
      (returning (fun result env world => (Ready accepted env world ∧ world.state = state) ∧
          result.failureType ≠ some .permanent)
        (Held accepted)) := by
  rintro env world ⟨⟨hsends, hloaded, haccepted⟩, hstate⟩
  obtain ⟨hrest, hanswer⟩ := hsends.nextSend
  unfold send
  simp only [Program.run_bind, Program.getWorld, Program.consult]
  cases hnext : env.nextSend.1 with
  | raises => exact ⟨hrest, hloaded.recoverable, haccepted⟩
  | result value =>
    refine ⟨⟨⟨hrest, ?_, haccepted⟩, hstate⟩, hanswer value hnext⟩
    exact ⟨hloaded.file, hloaded.noDeadLetter⟩

theorem ValidState.tail {state : OutboxState π} {payload : π} {rest : List π}
    (h : ValidState state) (hpending : state.pending = payload :: rest) :
    ValidState { state with pending := rest } := by
  have hids := pendingIds_of_head hpending
  have hnodup := h.pendingNodup
  rw [hids, List.nodup_cons] at hnodup
  refine ⟨?_, hnodup.2, h.deadLetterKeyed, ?_⟩
  · intro p hp
    apply h.pendingNonempty
    rw [hpending]
    exact List.mem_cons_of_mem _ hp
  · intro key hkey hmem
    apply h.disjoint key hkey
    rw [hids]
    exact List.mem_cons_of_mem _ hmem

theorem drainLoop_ready (fuel : Nat) (counters : DrainResult) :
    Triple (Ready accepted) (drainLoop fuel counters : OutboxProgram π DrainResult)
      (returning (fun _ => Ready accepted) (Held accepted)) := by
  induction fuel generalizing counters with
  | zero => exact triple_pure _ fun env world hw => hw
  | succ fuel ih =>
    unfold drainLoop
    apply triple_read
    intro start
    cases hpending : start.state.pending with
    | nil => exact triple_pure _ fun env world hw => hw.1
    | cons payload rest =>
      refine triple_returning ((send_ready start.state payload).weaken ?_ fun _ _ _ h => h) ?_
      · rintro env world ⟨hready, rfl⟩
        exact ⟨hready, rfl⟩
      · intro result env world hw
        obtain ⟨⟨hready, hstate⟩, hkept⟩ := hw
        have hdead : start.state.deadLetter = [] := hstate ▸ hready.2.1.noDeadLetter
        have hvalid : ValidState { start.state with pending := rest } := by
          rw [← hstate]
          exact (validState_of_load hready.2.1.file).tail (hstate ▸ hpending)
        simp only [hkept, if_false]
        split
        next =>
          refine triple_returning (replaceState_ready hvalid hdead) ?_ env world hready
          rintro u env world ⟨hready, -⟩
          exact ih _ env world hready
        next =>
          split
          next => exact hready
          next => exact hready

/-- A drain that says nothing is left has emptied the outbox. -/
theorem drain_ready : Triple (Ready accepted) (drain : OutboxProgram π DrainResult)
    (returning (fun result env world => Ready accepted env world ∧
      (result.pending = 0 → world.state = emptyState)) (Held accepted)) := by
  unfold drain
  apply triple_read
  rintro start env world ⟨hready, rfl⟩
  rw [if_neg (by simp [hready.2.1.noDeadLetter])]
  refine triple_returning (drainLoop_ready _ _) ?_ env world hready
  intro counters
  apply triple_read
  rintro start env world ⟨hready, rfl⟩
  refine ⟨hready, fun hnone => ?_⟩
  have hdead := hready.2.1.noDeadLetter
  have hpending : world.state.pending = [] := List.eq_nil_of_length_eq_zero hnone
  have hstate : world.state = ⟨world.state.pending, world.state.deadLetter⟩ := rfl
  rw [hpending, hdead] at hstate
  exact hstate

/-- An empty outbox accepts a whole batch or, after a fault, none of it that counts. -/
theorem enqueueMany_ready {payloads : List π} (hids : ∀ p ∈ payloads, eventId p ≠ "") :
    Triple (fun env world => Ready accepted env world ∧ world.state = emptyState)
      (enqueueMany payloads)
      (returning (fun _ => Ready (accepted ++ (appendNew [] payloads).map eventId))
        (Held accepted)) := by
  unfold enqueueMany
  rw [validateBatch_eq_ok hids]
  apply triple_read
  rintro start env world ⟨⟨hready, hempty⟩, rfl⟩
  have hknown : knownIds world.state = [] := by
    rw [hempty]
    rfl
  obtain ⟨hnodup, hfresh⟩ := appendNew_spec payloads []
  simp only [hknown]
  have hvalid : ValidState ({ world.state with
      pending := world.state.pending ++ appendNew [] payloads } : OutboxState π) := by
    rw [hempty]
    refine ⟨fun p hp => hids p (hfresh p hp).1, hnodup, ?_, ?_⟩
    · exact fun entry hentry => absurd hentry List.not_mem_nil
    · exact fun key hkey => absurd hkey List.not_mem_nil
  by_cases hadded : appendNew [] payloads = []
  · rw [hadded]
    have haccepted : world.accepted = accepted ++ [] := by
      rw [hready.2.2, List.append_nil]
    exact ⟨hready.1, hready.2.1, haccepted⟩
  · simp only [hadded, ne_eq, not_false_eq_true, if_true]
    have hdead := hready.2.1.noDeadLetter
    refine triple_returning (replaceState_ready hvalid hdead) ?_ env world hready
    rintro u env world ⟨hready, -⟩
    refine ⟨hready.1, ⟨hready.2.1.file, hready.2.1.noDeadLetter⟩, ?_⟩
    show world.accepted ++ _ = accepted ++ _
    rw [hready.2.2]

end TradeJournalWorker
