import TradeJournalWorker.OutboxInvariant

namespace TradeJournalWorker

open FaultProgram

variable {π : Type} [Identified π]

/-- No state replacement of the environment reports an error after its rename. -/
def OutboxEnv.NoLateFailure (env : OutboxEnv) : Prop :=
  ∀ error, WriteAnswer.failedLate error ∉ env.persists

theorem OutboxEnv.NoLateFailure.nextPersist {env : OutboxEnv} (h : env.NoLateFailure) :
    env.nextPersist.2.NoLateFailure ∧ ∀ error, env.nextPersist.1 ≠ .failedLate error := by
  refine ⟨fun error hmem => h error (nextAnswer_snd_subset env.persists hmem), ?_⟩
  intro error heq
  rcases nextAnswer_fst_mem WriteAnswer.done env.persists with hd | hm
  · change (nextAnswer WriteAnswer.done env.persists).1 = _ at heq
    rw [hd] at heq
    cases heq
  · change (nextAnswer WriteAnswer.done env.persists).1 = _ at heq
    exact h error (heq ▸ hm)

/-- The assertion every operation keeps. -/
def Safe (env : OutboxEnv) (world : OutboxWorld π) : Prop :=
  env.NoLateFailure ∧ OutboxInvariant world

omit [Identified π] in
/-- A replacement either happens, in memory and on disk, or changes nothing. -/
theorem replaceState_triple {newState : OutboxState π} {pre : OutboxEnv → OutboxWorld π → Prop}
    {post : Exit OutboxError Unit → OutboxEnv → OutboxWorld π → Prop}
    (hlate : ∀ env world, pre env world → env.NoLateFailure)
    (hdone : ∀ env world, pre env world →
      post (.returned ()) env.nextPersist.2
        { world with state := newState, file := some newState })
    (hraised : ∀ error env world, pre env world → post (.raised error) env.nextPersist.2 world)
    (hcrashed : ∀ env world, pre env world → post .crashed env.nextPersist.2 world) :
    Triple pre (replaceState newState) post := by
  intro env world hw
  unfold replaceState
  rw [Program.run_bind]
  unfold Program.write
  cases ha : env.nextPersist.1 with
  | done => exact hdone env world hw
  | failed error => exact hraised error env world hw
  | failedLate error => exact absurd ha ((hlate env world hw).nextPersist.2 error)
  | crash => exact hcrashed env world hw

theorem enqueueMany_safe (payloads : List π) :
    Triple Safe (enqueueMany payloads) (fun _ => Safe) := by
  unfold enqueueMany
  cases hbatch : validateBatch payloads with
  | error error => exact triple_raise error (fun env world hw => hw)
  | ok u =>
    have hne := validBatch_nonempty hbatch
    apply triple_read
    intro start
    by_cases hadded : appendNew (knownIds start.state) payloads = []
    · simp only [hadded, ne_eq, not_true_eq_false, if_false]
      exact triple_pure _ (fun env world hw => hw.1)
    · simp only [hadded, ne_eq, not_false_eq_true, if_true]
      refine triple_seq (fun _ env world => Safe env start ∧ world =
        { start with
          state := { start.state with
            pending := start.state.pending ++ appendNew (knownIds start.state) payloads }
          file := some { start.state with
            pending := start.state.pending ++ appendNew (knownIds start.state) payloads } }) ?_ ?_
      · apply replaceState_triple
        · exact fun env world hw => hw.1.1
        · rintro env world ⟨hsafe, rfl⟩
          exact ⟨⟨hsafe.1.nextPersist.1, hsafe.2⟩, rfl⟩
        · exact fun error env world hw => ⟨hw.1.1.nextPersist.1, hw.1.2⟩
        · exact fun env world hw => ⟨hw.1.1.nextPersist.1, hw.1.2⟩
      · intro u
        refine triple_seq (fun _ => Safe) ?_ ?_
        · apply triple_modifyWorld
          rintro env world ⟨hsafe, rfl⟩
          exact ⟨hsafe.1, hsafe.2.enqueued hne⟩
        · exact fun u => triple_pure _ (fun env world hw => hw)

theorem OutboxEnv.NoLateFailure.nextSend {env : OutboxEnv} (h : env.NoLateFailure) :
    env.nextSend.2.NoLateFailure := h

/-- With no dead letter, one call of the sender keeps the invariant; after a delivery
the payload is among the sent ones. -/
theorem send_triple {start : OutboxWorld π} {p : π} {rest : List π}
    (hdead : start.state.deadLetter = []) (hp : start.state.pending = p :: rest) :
    Triple (fun env world => Safe env world ∧ world = start) (send p)
      (handOn (fun result env world => Safe env world ∧ world.state = start.state ∧
        (result.status = .sent → eventId p ∈ sentIds world)) (fun (_ : Exit OutboxError Unit) => Safe)) := by
  unfold send
  rintro env world ⟨⟨hlate, inv⟩, rfl⟩
  rw [Program.run_bind]
  unfold Program.getWorld
  simp only [Program.run_bind, Program.consult]
  cases env.nextSend.1 with
  | raises => exact ⟨hlate.nextSend, inv.attempted hdead⟩
  | result value =>
    by_cases hsent : value.status = .sent
    · have htrue : (value.status == .sent) = true := by simp [hsent]
      simp only [Program.run_bind, Program.modifyWorld, Program.run_pure, handOn, htrue]
      refine ⟨⟨hlate.nextSend, inv.delivered hdead hp⟩, trivial, fun _ => ?_⟩
      rw [sentIds_delivered]
      simp
    · have hfalse : (value.status == .sent) = false := by simp [hsent]
      simp only [Program.run_bind, Program.modifyWorld, Program.run_pure, handOn, hfalse]
      exact ⟨⟨hlate.nextSend, inv.attempted hdead⟩, trivial, fun h => absurd h hsent⟩

/-- Every round starts without a dead letter: the round that adds one is the last. -/
theorem drainLoop_safe (fuel : Nat) (counters : DrainResult) :
    Triple (fun env (world : OutboxWorld π) => Safe env world ∧ world.state.deadLetter = [])
      (drainLoop fuel counters) (fun _ => Safe) := by
  induction fuel generalizing counters with
  | zero => exact triple_pure _ (fun env world hw => hw.1)
  | succ fuel ih =>
    unfold drainLoop
    apply triple_read
    intro start
    cases hp : start.state.pending with
    | nil => exact triple_pure _ (fun env world hw => hw.1.1)
    | cons p rest =>
      by_cases hdead : start.state.deadLetter = []
      case neg =>
        rintro env world ⟨⟨-, hnone⟩, rfl⟩
        exact absurd hnone hdead
      case pos =>
        refine triple_seq (fun result env world => Safe env world ∧
          world.state = start.state ∧ (result.status = .sent → eventId p ∈ sentIds world)) ?_ ?_
        · refine (send_triple hdead hp).weaken ?_ ?_
          · exact fun env world hw => ⟨hw.1.1, hw.2⟩
          · intro exit env world h
            cases exit <;> exact h
        · intro result
          have replaced : ∀ newState : OutboxState π,
              (∀ world : OutboxWorld π, OutboxInvariant world → world.state = start.state →
                (result.status = .sent → eventId p ∈ sentIds world) →
                OutboxInvariant { world with state := newState, file := some newState }) →
              Triple (fun env world => Safe env world ∧ world.state = start.state ∧
                (result.status = .sent → eventId p ∈ sentIds world)) (replaceState newState)
                (handOn (fun _ env world => Safe env world ∧ world.state = newState)
                  (fun (_ : Exit OutboxError DrainResult) => Safe)) := by
            intro newState hinv
            apply replaceState_triple
            · exact fun env world hw => hw.1.1
            · exact fun env world hw => ⟨⟨hw.1.1.nextPersist.1, hinv world hw.1.2 hw.2.1 hw.2.2⟩, rfl⟩
            · exact fun error env world hw => ⟨hw.1.1.nextPersist.1, hw.1.2⟩
            · exact fun env world hw => ⟨hw.1.1.nextPersist.1, hw.1.2⟩
          split
          next hsent =>
            refine triple_seq _ (replaced _ ?_) ?_
            · intro world inv hstate hmem
              have := inv.popped (hstate ▸ hp) (hmem hsent)
              rwa [hstate] at this
            · intro u
              refine (ih _).weaken ?_ ?_
              · exact fun env world hw => ⟨hw.1, by rw [hw.2]; exact hdead⟩
              · exact fun exit env world h => h
          next =>
            split
            next => exact triple_pure _ (fun env world hw => hw.1)
            next =>
              split
              next =>
                refine triple_seq _ (replaced _ ?_) ?_
                · intro world inv hstate _
                  have hletter : (rejected p result).payload = p := rfl
                  have := inv.deadLettered (hstate ▸ hdead) (hstate ▸ hp) hletter
                  rwa [hstate] at this
                · exact fun u => triple_pure _ (fun env world hw => hw.1)
              next => exact triple_pure _ (fun env world hw => hw.1)

theorem drain_safe : Triple Safe (drain : OutboxProgram π DrainResult) (fun _ => Safe) := by
  unfold drain
  apply triple_read
  intro start
  by_cases hdead : start.state.deadLetter = []
  · simp only [hdead, ne_eq, not_true_eq_false, if_false]
    refine triple_seq (fun _ => Safe) ?_ ?_
    · refine (drainLoop_safe _ _).weaken ?_ ?_
      · rintro env world ⟨hsafe, rfl⟩
        exact ⟨hsafe, hdead⟩
      · intro exit env world h
        cases exit <;> exact h
    · intro counters
      apply triple_read
      exact fun start => triple_pure _ (fun env world hw => hw.1)
  · simp only [hdead, ne_eq, not_false_eq_true, if_true]
    exact triple_pure _ (fun env world hw => hw.1)

theorem reload_safe : Triple Safe (reload : OutboxProgram π Unit) (fun _ => Safe) := by
  unfold reload
  apply triple_read
  intro start
  cases hload : load start.file with
  | error error => exact triple_raise error (fun env world hw => hw.1)
  | ok state =>
    apply triple_modifyWorld
    rintro env world ⟨⟨hlate, inv⟩, rfl⟩
    have hstate : state = world.state := by
      have := inv.reloads
      rw [hload] at this
      exact Except.ok.inj this
    subst hstate
    exact ⟨hlate, inv⟩

end TradeJournalWorker
