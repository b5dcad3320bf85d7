import TradeJournalWorker.BridgeHandlers

namespace TradeJournalWorker

open FaultProgram

/-- A cursor that the next start can read and that covers the snapshots published so far;
event files are covered by their reservation. -/
structure StartSafe (env : BridgeEnv) (world : BridgeWorld) : Prop where
  readable : env.cursorReadable = true
  charts : env.chartsClosed = true ∨ world.log = []
  snapshotsSaved : ∀ p ∈ world.log, p.file ≠ .event → ∃ content,
    world.cursorFile = some content ∧ p.sequence ≤ extractJsonLong content eventSeqKey 0

/-- The globals of a process that has just been loaded. -/
def reset (world : BridgeWorld) : BridgeWorld :=
  { cursorFile := world.cursorFile, log := world.log, checkpoint := world.checkpoint }

/-- Every visible sequence is covered by the cursor: events by their reservation,
snapshots by the condition on the start. -/
theorem StartSafe.covered {env : BridgeEnv} {world : BridgeWorld} (hstart : StartSafe env world)
    (inv : DurableBridge world) : ∀ p ∈ world.log, ∃ content, world.cursorFile = some content ∧
      p.sequence ≤ extractJsonLong content eventSeqKey 0 := by
  intro p hp
  by_cases hevent : p.file = .event
  · obtain ⟨eventSeq, backfillDone, hfile, hle⟩ := inv.eventsReserved p hp hevent
    refine ⟨_, hfile, ?_⟩
    rw [extractJsonLong_cursorText]
    exact hle
  · exact hstart.snapshotsSaved p hp hevent

/-- Reading the cursor puts the counter above everything visible. -/
theorem loadCursorState_triple {start : BridgeWorld} (inv : DurableBridge start) (newOnly : Bool) :
    Triple (fun env world => env.WholeCursor ∧ StartSafe env start ∧
        world = { reset start with newOnly := newOnly })
      loadCursorState (fun _ => SafeBridge) := by
  rintro env world ⟨hwhole, hstart, rfl⟩
  have hcovered := hstart.covered inv
  refine ⟨hwhole, ?_⟩
  cases hfile : start.cursorFile with
  | none =>
    have hnone : ∀ p ∈ start.log, False := by
      intro p hp
      obtain ⟨content, hsome, -⟩ := hcovered p hp
      rw [hfile] at hsome
      cases hsome
    have hrun : (loadCursorState env { reset start with newOnly := newOnly }).2.2 =
        { reset start with newOnly := newOnly } := by
      simp [loadCursorState, Program.run_bind, Program.getEnv, Program.modifyWorld, reset, hfile]
    rw [hrun]
    exact ⟨inv.of_same rfl rfl rfl, fun p hp => (hnone p hp).elim, le_refl _, le_refl _⟩
  | some content =>
    obtain ⟨eventSeq, backfillDone, rfl, hnonneg⟩ := inv.cursorWhole content hfile
    have hrun : (loadCursorState env { reset start with newOnly := newOnly }).2.2 =
        { reset start with
          newOnly := newOnly, eventSeq := eventSeq, backfillDone := backfillDone } := by
      simp [loadCursorState, Program.run_bind, Program.getEnv, Program.modifyWorld, reset, hfile,
        hstart.readable, extractJsonLong_cursorText, extractJsonBool_cursorText]
    rw [hrun]
    refine ⟨inv.of_same rfl rfl rfl, ?_, hnonneg, hnonneg⟩
    intro p hp
    obtain ⟨content, hsome, hle⟩ := hcovered p hp
    rw [hfile] at hsome
    cases hsome
    rwa [extractJsonLong_cursorText] at hle

/-- Setting globals that the invariant does not speak about. -/
theorem preserves_globals {f : BridgeWorld → BridgeWorld}
    (h : ∀ world, (f world).log = world.log ∧ (f world).checkpoint = world.checkpoint ∧
      (f world).cursorFile = world.cursorFile ∧ (f world).eventSeq = world.eventSeq ∧
      (f world).historySnapshotSequence = world.historySnapshotSequence) :
    Preserves SafeBridge (Program.modifyWorld f : BridgeProgram Unit) := by
  apply triple_modifyWorld
  intro env world hw
  obtain ⟨hlog, hcheckpoint, hcursor, hseq, hfrozen⟩ := h world
  refine ⟨hw.1, hw.2.of_same hlog hcheckpoint hcursor hseq ?_⟩
  rw [hfrozen, hseq]
  exact hw.2.frozen

theorem initBackfill_safe : Preserves SafeBridge initBackfill := by
  unfold initBackfill
  refine preserves_bind preserves_getWorld fun world => ?_
  split
  · refine preserves_bind (preserves_globals fun world => ⟨rfl, rfl, rfl, rfl, rfl⟩) fun _ => ?_
    exact preserves_bind saveCursorState_safe fun _ => preserves_pure ()
  · exact preserves_pure ()

/-- `OnInit` establishes the invariant, or leaves a fresh process on an empty directory. -/
theorem onInit_triple {start : BridgeWorld} (inv : DurableBridge start) :
    Triple (fun env world => env.WholeCursor ∧ StartSafe env start ∧ world = reset start)
      onInit (fun _ => SafeBridge) := by
  unfold onInit
  apply triple_readEnv
  intro env
  by_cases hcharts : env.chartsClosed = true
  · simp only [hcharts, not_true_eq_false, if_false]
    refine triple_seq (fun _ env world => env.WholeCursor ∧ StartSafe env start ∧
      ∃ newOnly, world = { reset start with newOnly := newOnly }) ?_ fun _ => ?_
    · apply triple_modifyWorld
      rintro env' world ⟨⟨hwhole, hstart, rfl⟩, -⟩
      exact ⟨hwhole, hstart, env.newOnlyFlag, rfl⟩
    · refine triple_seq (fun _ => SafeBridge) ?_ fun _ => ?_
      · rintro env world ⟨hwhole, hstart, newOnly, hworld⟩
        exact loadCursorState_triple inv newOnly env world ⟨hwhole, hstart, hworld⟩
      · refine preserves_bind initBackfill_safe fun _ => ?_
        split
        · exact preserves_bind writeAllSnapshots_safe fun _ => preserves_pure _
        · exact preserves_pure _
  · simp only [hcharts]
    apply triple_pure
    rintro env' world ⟨⟨hwhole, hstart, rfl⟩, rfl⟩
    have hempty : start.log = [] := hstart.charts.resolve_left hcharts
    refine ⟨hwhole, inv.of_same rfl rfl rfl, fun p hp => ?_, le_refl _, le_refl _⟩
    have hp' : p ∈ start.log := hp
    rw [hempty] at hp'
    exact absurd hp' List.not_mem_nil

theorem startTerminal_triple {start : BridgeWorld} (inv : DurableBridge start) :
    Triple (fun env world => env.WholeCursor ∧ StartSafe env start ∧ world = start)
      startTerminal (fun _ => SafeBridge) := by
  unfold startTerminal
  refine triple_seq (fun _ env world => env.WholeCursor ∧ StartSafe env start ∧
    world = reset start) ?_ fun _ => ?_
  · apply triple_modifyWorld
    rintro env world ⟨hwhole, hstart, rfl⟩
    exact ⟨hwhole, hstart, rfl⟩
  · refine triple_seq (fun _ => SafeBridge) ?_ fun succeeded => ?_
    · refine (onInit_triple inv).weaken (fun env world hw => hw) ?_
      intro exit env world hw
      cases exit <;> exact hw
    · cases succeeded with
      | true => exact preserves_globals fun world => ⟨rfl, rfl, rfl, rfl, rfl⟩
      | false => exact onDeinit_safe

/-- The invariant of a run: a terminal that does not run leaves the durable part. -/
structure RunInvariant (world : BridgeWorld) : Prop where
  durable : DurableBridge world
  inProcess : world.running = true → BridgeInvariant world

/-- The condition on one step: no truncated cursor write, and a start finds the cursor
readable and not behind the snapshots. -/
def StepSafe (world : BridgeWorld) : BridgeStep → Prop
  | .start env => env.WholeCursor ∧ StartSafe env world
  | .timer env => env.WholeCursor
  | .transaction _ env => env.WholeCursor
  | .stop env => env.WholeCursor
  | .crash => True
  | .acknowledge _ => True

def RunSafe : BridgeWorld → List BridgeStep → Prop
  | _, [] => True
  | world, step :: rest => StepSafe world step ∧ RunSafe (runBridgeStep world step) rest

theorem runHandler_invariant {handler : BridgeProgram Unit} {env : BridgeEnv}
    {world : BridgeWorld} (h : SafeBridge (handler env world).2.1 (handler env world).2.2) :
    RunInvariant (runHandler handler env world) := by
  unfold runHandler
  rcases he : handler env world with ⟨exit, env', world'⟩
  rw [he] at h
  rcases exit with u | error | _
  · exact ⟨h.2.toDurableBridge, fun _ => h.2⟩
  · exact error.elim
  · exact ⟨h.2.toDurableBridge.of_same rfl rfl rfl, fun hrun => absurd hrun Bool.false_ne_true⟩

theorem acknowledgeEvents_invariant {world : BridgeWorld} (inv : RunInvariant world)
    (through : Int) : RunInvariant (acknowledgeEvents world through) := by
  unfold acknowledgeEvents
  split
  next hack =>
    have hdurable : DurableBridge { world with checkpoint := through } :=
      ⟨⟨inv.durable.monotone.increasing, inv.durable.monotone.unacknowledged⟩, Or.inr hack.1,
        inv.durable.cursorWhole, inv.durable.eventsReserved⟩
    refine ⟨hdurable, fun hrun => ?_⟩
    have hprocess := inv.inProcess hrun
    exact ⟨hdurable, hprocess.below, hprocess.nonneg, hprocess.frozen⟩
  next => exact inv

theorem runBridgeStep_invariant {world : BridgeWorld} (inv : RunInvariant world)
    {step : BridgeStep} (hstep : StepSafe world step) :
    RunInvariant (runBridgeStep world step) := by
  have handled : ∀ {handler : BridgeProgram Unit} {env : BridgeEnv},
      Preserves SafeBridge handler → env.WholeCursor → world.running = true →
      RunInvariant (runHandler handler env world) := by
    intro handler env hpreserves hwhole hrun
    exact runHandler_invariant (hpreserves env world ⟨hwhole, inv.inProcess hrun⟩)
  have stopped : ∀ {world' : BridgeWorld}, DurableBridge world' →
      RunInvariant { world' with running := false } :=
    fun h => ⟨h.of_same rfl rfl rfl, fun hrun => absurd hrun Bool.false_ne_true⟩
  cases step with
  | start env =>
    have hdurable : DurableBridge { world with running := false } :=
      inv.durable.of_same rfl rfl rfl
    apply runHandler_invariant
    refine startTerminal_triple hdurable env _ ⟨hstep.1, ?_, rfl⟩
    exact ⟨hstep.2.readable, hstep.2.charts, hstep.2.snapshotsSaved⟩
  | timer env =>
    unfold runBridgeStep
    simp only
    split
    next hrun => exact handled onTimer_safe hstep hrun
    next => exact inv
  | transaction transaction env =>
    unfold runBridgeStep
    simp only
    split
    next hrun => exact handled (onTradeTransaction_safe transaction) hstep hrun
    next => exact inv
  | stop env =>
    unfold runBridgeStep
    simp only
    split
    next hrun => exact stopped (handled onDeinit_safe hstep hrun).durable
    next => exact inv
  | crash => exact stopped inv.durable
  | acknowledge sequence => exact acknowledgeEvents_invariant inv sequence

theorem runBridge_invariant {steps : List BridgeStep} {world : BridgeWorld}
    (inv : RunInvariant world) (hsafe : RunSafe world steps) :
    RunInvariant (runBridge world steps) := by
  induction steps generalizing world with
  | nil => exact inv
  | cons step rest ih => exact ih (runBridgeStep_invariant inv hsafe.1) hsafe.2

/-- From an empty directory, every run whose starts find the cursor readable and not
behind the published snapshots numbers its events upwards. -/
theorem monotone_of_runSafe (steps : List BridgeStep) (hsafe : RunSafe {} steps) :
    MonotoneSequences (runBridge {} steps) := by
  have hempty : RunInvariant {} := by
    refine ⟨⟨⟨List.Pairwise.nil, ?_⟩, Or.inl rfl, ?_, ?_⟩, fun hrun => absurd hrun Bool.false_ne_true⟩
    · exact fun p hp => absurd hp List.not_mem_nil
    · exact fun text h => by cases h
    · exact fun p hp => absurd hp List.not_mem_nil
  exact (runBridge_invariant hempty hsafe).durable.monotone

section Crash

def openFill : Option DealView := some { isTrade := true, symbol := "EURUSD", volume := 1 }

/-- A start, a fill, a crash after the reservation of the next fill, a restart and a fill. -/
def reservationCrash : List BridgeStep :=
  [.start { newOnlyFlag := true }, .transaction (.dealAdd 7) { newOnlyFlag := true, deals := [openFill] },
    .transaction (.dealAdd 8) { newOnlyFlag := true, deals := [openFill], publishes := [.crash] },
    .start { newOnlyFlag := true }, .transaction (.dealAdd 8) { newOnlyFlag := true, deals := [openFill] }]

theorem monotone_of_runSafe_crash :
    RunSafe {} reservationCrash ∧ MonotoneSequences (runBridge {} reservationCrash) := by
  have hwhole : ∀ env : BridgeEnv, env.cursorWrites = [] → env.WholeCursor := by
    intro env henv n hmem
    rw [henv] at hmem
    exact absurd hmem List.not_mem_nil
  have hstart : ∀ world : BridgeWorld, (∀ p ∈ world.log, p.file = .event) →
      StartSafe { newOnlyFlag := true } world :=
    fun world hevents => ⟨rfl, Or.inl rfl, fun p hp hne => absurd (hevents p hp) hne⟩
  have hsafe : RunSafe {} reservationCrash :=
    ⟨⟨hwhole _ rfl, hstart _ (by decide)⟩, hwhole _ rfl, hwhole _ rfl,
      ⟨hwhole _ rfl, hstart _ (by decide)⟩, hwhole _ rfl, trivial⟩
  exact ⟨hsafe, monotone_of_runSafe reservationCrash hsafe⟩

/-- The snapshot with number 1 is visible when the terminal crashes before the cursor
is saved; after the restart the first event takes number 1 again. -/
theorem not_monotone_after_crash :
    ¬ ∀ steps : List BridgeStep, MonotoneSequences (runBridge {} steps) := by
  intro h
  have hincreasing := (h [.start { newOnlyFlag := true },
    .timer { newOnlyFlag := true, cursorWrites := [.crash] }, .start { newOnlyFlag := true },
    .transaction (.dealAdd 7) { newOnlyFlag := true, deals := [openFill] }]).increasing
  revert hincreasing
  decide

end Crash

end TradeJournalWorker
