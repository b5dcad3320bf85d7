import TradeJournalWorker.BridgeInvariant

namespace TradeJournalWorker

open FaultProgram

/-- Taking a number without publishing it leaves a gap at most. -/
theorem BridgeInvariant.taken {world : BridgeWorld} (inv : BridgeInvariant world) :
    BridgeInvariant { world with eventSeq := world.eventSeq + 1 } := by
  refine ⟨inv.toDurableBridge.of_same rfl rfl rfl, ?_, ?_, ?_⟩
  · intro p hp
    have := inv.below p hp
    simp only
    omega
  · have := inv.nonneg
    simp only
    omega
  · have := inv.frozen
    simp only
    omega

/-- The number was taken and is on disk. -/
theorem BridgeInvariant.reserved {world : BridgeWorld} (inv : BridgeInvariant world) :
    Reserved { world with
      eventSeq := world.eventSeq + 1
      cursorFile := some (cursorText (world.eventSeq + 1) world.backfillDone) } := by
  refine ⟨inv.taken.saved, ?_, ?_, ⟨world.backfillDone, rfl⟩⟩
  · intro p hp
    have := inv.below p hp
    simp only
    omega
  · have := inv.nonneg
    simp only
    omega

/-- The save reported a failure after it had happened: the number is given back, the
disk keeps it. -/
theorem BridgeInvariant.givenBack {world : BridgeWorld} (inv : BridgeInvariant world) :
    BridgeInvariant
      { world with cursorFile := some (cursorText (world.eventSeq + 1) world.backfillDone) } := by
  refine ⟨⟨⟨inv.monotone.increasing, inv.monotone.unacknowledged⟩, inv.checkpointSeen, ?_, ?_⟩,
    inv.below, inv.nonneg, inv.frozen⟩
  · intro text h
    have := inv.nonneg
    exact ⟨_, _, (Option.some.inj h).symm, by omega⟩
  · intro p hp _
    refine ⟨world.eventSeq + 1, world.backfillDone, rfl, ?_⟩
    have := inv.below p hp
    omega

theorem saveCursorState_safe : Preserves SafeBridge saveCursorState := by
  apply saveCursorState_triple
  · exact fun env world hw => hw.1
  · exact fun env world exit hw _ => ⟨hw.1.nextCursorWrite.1, hw.2⟩
  · exact fun env world b hw => ⟨hw.1.nextCursorWrite.1, hw.2.saved⟩

/-- The postcondition of `buildEventJson`: `true` hands over a reserved number. -/
def AfterBuild : Exit Empty Bool → BridgeEnv → BridgeWorld → Prop
  | .returned true, env, world => env.WholeCursor ∧ Reserved world
  | _, env, world => SafeBridge env world

theorem buildEventJson_triple : Triple SafeBridge buildEventJson AfterBuild := by
  unfold buildEventJson
  refine triple_seq (fun _ env world => env.WholeCursor ∧ ∃ before, BridgeInvariant before ∧
    world = { before with eventSeq := before.eventSeq + 1 }) ?_ ?_
  · apply triple_modifyWorld
    exact fun env world hw => ⟨hw.1, world, hw.2, rfl⟩
  · intro u
    refine triple_seq (fun saved env world => env.WholeCursor ∧
      if saved then Reserved world
      else BridgeInvariant { world with eventSeq := world.eventSeq - 1 }) ?_ ?_
    · apply saveCursorState_triple
      · exact fun env world hw => hw.1
      · rintro env world exit ⟨hwhole, before, inv, rfl⟩ hexit
        have hback : before.eventSeq + 1 - 1 = before.eventSeq := by omega
        rcases exit with saved | error | _
        · cases saved with
          | true => exact absurd rfl hexit
          | false =>
            refine ⟨hwhole.nextCursorWrite.1, ?_⟩
            simp only [hback]
            exact inv
        · exact error.elim
        · exact ⟨hwhole.nextCursorWrite.1, inv.taken⟩
      · rintro env world saved ⟨hwhole, before, inv, rfl⟩
        have hback : before.eventSeq + 1 - 1 = before.eventSeq := by omega
        refine ⟨hwhole.nextCursorWrite.1, ?_⟩
        cases saved with
        | true => exact inv.reserved
        | false =>
          simp only [hback]
          exact inv.givenBack
    · intro saved
      cases saved with
      | true => exact triple_pure true fun env world hw => hw
      | false =>
        simp only [Bool.false_eq_true, if_false]
        refine triple_seq (fun _ => SafeBridge) ?_ ?_
        · apply triple_modifyWorld
          exact fun env world hw => hw
        · exact fun u => triple_pure false fun env world hw => hw

theorem emitEvent_safe (deal : Option Nat) : Preserves SafeBridge (emitEvent deal) := by
  unfold emitEvent
  refine triple_seq (fun reserved env world => AfterBuild (.returned reserved) env world) ?_ ?_
  · refine buildEventJson_triple.weaken (fun env world hw => hw) ?_
    intro exit env world hw
    rcases exit with reserved | error | _
    · exact hw
    · exact error.elim
    · exact hw
  · intro reserved
    unfold writeEventAtomic
    cases reserved with
    | false => exact triple_pure false fun env world hw => hw
    | true =>
      simp only [if_true]
      apply triple_read
      intro start
      apply publish_triple
      · rintro env world exit ⟨⟨hwhole, hreserved⟩, rfl⟩
        exact ⟨hwhole, hreserved.toBridgeInvariant⟩
      · rintro env world b ⟨⟨hwhole, hreserved⟩, rfl⟩
        exact ⟨hwhole, hreserved.event deal⟩

theorem emitDealAddEvent_safe (ticket : Nat) : Preserves SafeBridge (emitDealAddEvent ticket) := by
  unfold emitDealAddEvent
  refine triple_seq (fun _ => SafeBridge) ?_ ?_
  · apply triple_consult
    exact fun env world hw => hw
  · intro answer
    cases answer with
    | none => exact preserves_pure false
    | some deal =>
      simp only
      split
      · exact preserves_pure true
      · split
        · exact preserves_pure false
        · split
          · exact preserves_pure false
          · exact emitEvent_safe _

/-- The retry queue is no concern of the sequence. -/
theorem preserves_queue {f : BridgeWorld → List (Nat × Nat)} :
    Preserves SafeBridge (Program.modifyWorld fun world => { world with pendingDeals := f world } :
      BridgeProgram Unit) := by
  apply triple_modifyWorld
  exact fun env world hw => ⟨hw.1, hw.2.of_same rfl rfl rfl rfl hw.2.frozen⟩

theorem retryPendingFrom_safe (n : Nat) : Preserves SafeBridge (retryPendingFrom n) := by
  induction n with
  | zero => exact preserves_pure ()
  | succ i ih =>
    unfold retryPendingFrom
    refine preserves_bind preserves_getWorld fun world => ?_
    cases world.pendingDeals[i]? with
    | none => exact ih
    | some entry =>
      refine preserves_bind preserves_queue fun _ => ?_
      refine preserves_bind (emitDealAddEvent_safe entry.1) fun published => ?_
      refine preserves_bind ?_ fun _ => ih
      cases published with
      | true =>
        simp only [if_true]
        exact preserves_queue
      | false =>
        apply triple_modifyWorld
        exact fun env world hw => hw

theorem publishFiles_safe (sequence : Int) (files : List BundleFile) :
    Preserves (fun env world => SafeBridge env world ∧ sequence ≤ world.eventSeq)
      (publishFiles sequence files) := by
  induction files with
  | nil => exact preserves_pure true
  | cons file rest ih =>
    unfold publishFiles
    refine preserves_bind ?_ fun ok => preserves_bind ih fun others => preserves_pure _
    apply publish_triple
    · exact fun env world exit hw => hw
    · exact fun env world b hw => ⟨⟨hw.1.1, hw.1.2.bundle hw.2⟩, hw.2⟩

/-- Publishing the heartbeat of a number the counter has reached. -/
theorem publish_heartbeat_safe (sequence : Int) :
    Preserves (fun env world => SafeBridge env world ∧ sequence ≤ world.eventSeq)
      (publish (.bundle .heartbeat) sequence none) := by
  apply publish_triple
  · exact fun env world exit hw => hw
  · exact fun env world b hw => ⟨⟨hw.1.1, hw.1.2.bundle hw.2⟩, hw.2⟩

theorem writeNewOnlySnapshot_safe (sequence : Int) :
    Preserves (fun env world => SafeBridge env world ∧ sequence ≤ world.eventSeq)
      (writeNewOnlySnapshot sequence) := by
  unfold writeNewOnlySnapshot
  refine preserves_bind (publishFiles_safe sequence newOnlyFiles) fun snapshotOk => ?_
  cases snapshotOk with
  | true =>
    simp only [if_true]
    exact preserves_bind (publish_heartbeat_safe sequence) fun _ => preserves_pure ()
  | false => exact preserves_pure ()

theorem commitHistory_safe (sequence : Int) :
    Preserves (fun env world => SafeBridge env world ∧ sequence ≤ world.eventSeq)
      (commitHistory sequence) := by
  unfold commitHistory
  refine preserves_bind (publish_heartbeat_safe sequence) fun committed => ?_
  apply triple_modifyWorld
  rintro env world ⟨⟨hwhole, inv⟩, hle⟩
  cases committed with
  | false => exact ⟨⟨hwhole, inv⟩, hle⟩
  | true => exact ⟨⟨hwhole, inv.of_same rfl rfl rfl rfl hle⟩, hle⟩

theorem writeHistorySnapshot_safe (sequence : Int) :
    Preserves (fun env world => SafeBridge env world ∧ sequence ≤ world.eventSeq)
      (writeHistorySnapshot sequence) := by
  unfold writeHistorySnapshot
  refine preserves_bind preserves_getEnv fun env => ?_
  split
  · exact preserves_pure ()
  · refine preserves_bind (publishFiles_safe sequence historyFiles) fun snapshotOk => ?_
    split
    · exact commitHistory_safe sequence
    · exact preserves_pure ()

theorem writeAllSnapshots_safe : Preserves SafeBridge writeAllSnapshots := by
  have hdrop : ∀ {p : BridgeProgram Unit} {sequence : Int},
      Preserves (fun env world => SafeBridge env world ∧ sequence ≤ world.eventSeq) p →
      Triple (fun env world => SafeBridge env world ∧ sequence ≤ world.eventSeq) p
        (fun _ => SafeBridge) :=
    fun h => h.weaken (fun _ _ hw => hw) fun _ _ _ hw => hw.1
  unfold writeAllSnapshots
  apply triple_read
  intro start
  split
  · refine triple_seq (fun _ => SafeBridge) ?_ fun _ => preserves_pure ()
    refine (publish_heartbeat_safe start.historySnapshotSequence).weaken ?_ ?_
    · rintro env world ⟨hsafe, rfl⟩
      exact ⟨hsafe, hsafe.2.frozen⟩
    · intro exit env world hw
      cases exit <;> exact hw.1
  · refine triple_seq (fun _ env world => SafeBridge env world ∧
      start.eventSeq + 1 ≤ world.eventSeq) ?_ fun _ => ?_
    · apply triple_modifyWorld
      rintro env world ⟨hsafe, rfl⟩
      exact ⟨⟨hsafe.1, hsafe.2.taken⟩, le_refl _⟩
    · split
      · exact hdrop (writeNewOnlySnapshot_safe _)
      · exact hdrop (writeHistorySnapshot_safe _)

theorem onDeinit_safe : Preserves SafeBridge onDeinit := by
  unfold onDeinit
  exact preserves_bind saveCursorState_safe fun _ => preserves_pure ()

theorem switchMode_safe : Preserves SafeBridge switchMode := by
  unfold switchMode
  refine preserves_bind preserves_getEnv fun env => ?_
  apply triple_modifyWorld
  intro env' world hw
  split
  · exact ⟨hw.1, hw.2.of_same rfl rfl rfl rfl hw.2.frozen⟩
  · exact hw

theorem onTimer_safe : Preserves SafeBridge onTimer := by
  unfold onTimer
  refine preserves_bind switchMode_safe fun _ => ?_
  refine preserves_bind preserves_getEnv fun env => ?_
  refine preserves_bind preserves_getWorld fun world => ?_
  split
  · exact preserves_pure ()
  · refine preserves_bind ?_ fun _ => preserves_bind writeAllSnapshots_safe fun _ =>
      preserves_bind saveCursorState_safe fun _ => preserves_pure ()
    unfold retryPendingDealEvents
    exact preserves_bind preserves_getWorld fun world => retryPendingFrom_safe _

theorem queuePendingDealEvent_safe (ticket : Nat) :
    Preserves SafeBridge (queuePendingDealEvent ticket) := by
  unfold queuePendingDealEvent
  refine preserves_bind preserves_getEnv fun env => ?_
  refine preserves_bind preserves_getWorld fun world => ?_
  split
  · exact preserves_pure false
  · split
    · exact preserves_pure true
    · split
      · exact preserves_pure false
      · split
        · exact preserves_pure false
        · exact preserves_bind preserves_queue fun _ => preserves_pure true

theorem onTradeTransaction_safe (transaction : Transaction) :
    Preserves SafeBridge (onTradeTransaction transaction) := by
  have hselected : Preserves SafeBridge emitSelectedEvent := by
    unfold emitSelectedEvent
    refine preserves_bind preserves_getEnv fun env => ?_
    split
    · exact preserves_bind (emitEvent_safe none) fun _ => preserves_pure ()
    · exact preserves_pure ()
  unfold onTradeTransaction
  cases transaction with
  | dealAdd ticket =>
    refine preserves_bind (emitDealAddEvent_safe ticket) fun published => ?_
    cases published with
    | true => exact preserves_pure ()
    | false => exact preserves_bind (queuePendingDealEvent_safe ticket) fun _ => preserves_pure ()
  | other => exact preserves_pure ()
  | orderAdd => exact hselected
  | orderUpdate => exact hselected
  | orderDelete => exact hselected
  | position => exact hselected
  | historyAdd => exact hselected

end TradeJournalWorker
