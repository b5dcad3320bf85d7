import TradeJournalWorker.BridgeSequence
import TradeJournalWorker.FaultRules

namespace TradeJournalWorker

open FaultProgram

/-- The law of the published files: the number of an event file is above every number
seen before it and above what the agent has acknowledged. -/
structure MonotoneSequences (world : BridgeWorld) : Prop where
  increasing : world.log.Pairwise fun earlier later =>
    later.file = .event → earlier.sequence < later.sequence
  unacknowledged : ∀ p ∈ world.log, p.file = .event → p.checkpoint < p.sequence

/-- What holds on disk at any time, whether a terminal runs or not. -/
structure DurableBridge (world : BridgeWorld) : Prop where
  monotone : MonotoneSequences world
  checkpointSeen : world.checkpoint = 0 ∨ ∃ p ∈ world.log, p.sequence = world.checkpoint
  cursorWhole : ∀ text, world.cursorFile = some text → ∃ eventSeq backfillDone,
    text = cursorText eventSeq backfillDone ∧ 0 ≤ eventSeq
  eventsReserved : ∀ p ∈ world.log, p.file = .event → ∃ eventSeq backfillDone,
    world.cursorFile = some (cursorText eventSeq backfillDone) ∧ p.sequence ≤ eventSeq

/-- What a running terminal adds: its counter is above everything visible. -/
structure BridgeInvariant (world : BridgeWorld) : Prop extends DurableBridge world where
  below : ∀ p ∈ world.log, p.sequence ≤ world.eventSeq
  nonneg : 0 ≤ world.eventSeq
  frozen : world.historySnapshotSequence ≤ world.eventSeq

theorem DurableBridge.of_same {world world' : BridgeWorld} (inv : DurableBridge world)
    (hlog : world'.log = world.log) (hcheckpoint : world'.checkpoint = world.checkpoint)
    (hcursor : world'.cursorFile = world.cursorFile) : DurableBridge world' := by
  refine ⟨⟨?_, ?_⟩, ?_, ?_, ?_⟩
  · rw [hlog]
    exact inv.monotone.increasing
  · rw [hlog]
    exact inv.monotone.unacknowledged
  · rw [hlog, hcheckpoint]
    exact inv.checkpointSeen
  · rw [hcursor]
    exact inv.cursorWhole
  · rw [hlog, hcursor]
    exact inv.eventsReserved

/-- The globals that the invariant does not speak about may change freely. -/
theorem BridgeInvariant.of_same {world world' : BridgeWorld} (inv : BridgeInvariant world)
    (hlog : world'.log = world.log) (hcheckpoint : world'.checkpoint = world.checkpoint)
    (hcursor : world'.cursorFile = world.cursorFile) (hseq : world'.eventSeq = world.eventSeq)
    (hfrozen : world'.historySnapshotSequence ≤ world'.eventSeq) : BridgeInvariant world' := by
  refine ⟨inv.toDurableBridge.of_same hlog hcheckpoint hcursor, ?_, ?_, hfrozen⟩
  · rw [hlog, hseq]
    exact inv.below
  · rw [hseq]
    exact inv.nonneg

/-- No write of the cursor is cut short behind the back of the bridge. -/
def BridgeEnv.WholeCursor (env : BridgeEnv) : Prop := ∀ n, FileAnswer.short n ∉ env.cursorWrites

def SafeBridge (env : BridgeEnv) (world : BridgeWorld) : Prop :=
  env.WholeCursor ∧ BridgeInvariant world

theorem BridgeEnv.WholeCursor.nextCursorWrite {env : BridgeEnv} (h : env.WholeCursor) :
    env.nextCursorWrite.2.WholeCursor ∧ ∀ n, env.nextCursorWrite.1 ≠ .short n := by
  refine ⟨fun n hmem => h n (nextAnswer_snd_subset env.cursorWrites hmem), ?_⟩
  intro n heq
  change (nextAnswer FileAnswer.done env.cursorWrites).1 = _ at heq
  rcases nextAnswer_fst_mem FileAnswer.done env.cursorWrites with hd | hm
  · rw [hd] at heq
    cases heq
  · exact h n (heq ▸ hm)

section Rules

variable {pre : BridgeEnv → BridgeWorld → Prop} {post : Exit Empty Bool → BridgeEnv → BridgeWorld → Prop}

/-- Success and failure may both leave the new text behind. -/
theorem writeJsonAtomic_triple {next : BridgeEnv → FileAnswer × BridgeEnv} {text : List Char}
    {store : List Char → BridgeWorld → BridgeWorld}
    (hfailed : ∀ env world, pre env world → post (.returned false) (next env).2 world)
    (hcrashed : ∀ env world, pre env world → post .crashed (next env).2 world)
    (hdone : ∀ env world b, pre env world → post (.returned b) (next env).2 (store text world))
    (hshort : ∀ env world n, pre env world → (next env).1 = .short n →
      post (.returned true) (next env).2 (store (text.take n) world)) :
    Triple pre (writeJsonAtomic next text store) post := by
  intro env world hw
  unfold writeJsonAtomic
  rw [Program.run_bind]
  unfold Program.consult
  cases hanswer : (next env).1 with
  | done => exact hdone env world true hw
  | short n => exact hshort env world n hw hanswer
  | failed => exact hfailed env world hw
  | failedLate => exact hdone env world false hw
  | crash => exact hcrashed env world hw

/-- The reservation: a successful save leaves the counter on disk. -/
theorem saveCursorState_triple
    (hwhole : ∀ env world, pre env world → env.WholeCursor)
    (hsame : ∀ env world exit, pre env world → exit ≠ .returned true →
      post exit env.nextCursorWrite.2 world)
    (hsaved : ∀ env world b, pre env world → post (.returned b) env.nextCursorWrite.2
      { world with cursorFile := some (cursorText world.eventSeq world.backfillDone) }) :
    Triple pre saveCursorState post := by
  unfold saveCursorState
  apply triple_read
  intro start
  apply writeJsonAtomic_triple
  · exact fun env world hw => hsame env world _ hw.1 (by simp)
  · exact fun env world hw => hsame env world _ hw.1 (by simp)
  · rintro env world b ⟨hw, rfl⟩
    exact hsaved env world b hw
  · intro env world n hw hanswer
    exact absurd hanswer ((hwhole env world hw.1).nextCursorWrite.2 n)

theorem publish_triple {file : PublishedFile} {sequence : Int} {deal : Option Nat}
    (hsame : ∀ env world exit, pre env world → post exit env.nextPublish.2 world)
    (hvisible : ∀ env world b, pre env world → post (.returned b) env.nextPublish.2
      { world with log := world.log ++
        [{ file := file, sequence := sequence, checkpoint := world.checkpoint, deal := deal }] }) :
    Triple pre (publish file sequence deal) post := by
  apply writeJsonAtomic_triple
  · exact fun env world hw => hsame env world _ hw
  · exact fun env world hw => hsame env world _ hw
  · exact fun env world b hw => hvisible env world b hw
  · exact fun env world n hw _ => hvisible env world true hw

end Rules

/-- A file of a bundle is published with a number the counter has reached. -/
theorem BridgeInvariant.bundle {world : BridgeWorld} (inv : BridgeInvariant world)
    {file : BundleFile} {sequence : Int} (hle : sequence ≤ world.eventSeq) :
    BridgeInvariant { world with log := world.log ++
      [{ file := .bundle file, sequence := sequence, checkpoint := world.checkpoint }] } := by
  refine ⟨⟨⟨?_, ?_⟩, ?_, inv.cursorWhole, ?_⟩, ?_, inv.nonneg, inv.frozen⟩
  · refine List.pairwise_append.mpr ⟨inv.monotone.increasing, List.pairwise_singleton _ _, ?_⟩
    intro earlier _ later hlater hevent
    rw [List.mem_singleton.mp hlater] at hevent
    cases hevent
  · intro p hp hevent
    rcases List.mem_append.mp hp with hp | hp
    · exact inv.monotone.unacknowledged p hp hevent
    · rw [List.mem_singleton.mp hp] at hevent
      cases hevent
  · rcases inv.checkpointSeen with hzero | ⟨p, hp, hseq⟩
    · exact Or.inl hzero
    · exact Or.inr ⟨p, List.mem_append_left _ hp, hseq⟩
  · intro p hp hevent
    rcases List.mem_append.mp hp with hp | hp
    · exact inv.eventsReserved p hp hevent
    · rw [List.mem_singleton.mp hp] at hevent
      cases hevent
  · intro p hp
    rcases List.mem_append.mp hp with hp | hp
    · exact inv.below p hp
    · rw [List.mem_singleton.mp hp]
      exact hle

/-- The state between the reservation of a number and the event file with it. -/
structure Reserved (world : BridgeWorld) : Prop extends BridgeInvariant world where
  fresh : ∀ p ∈ world.log, p.sequence < world.eventSeq
  positive : 0 < world.eventSeq
  onDisk : ∃ backfillDone, world.cursorFile = some (cursorText world.eventSeq backfillDone)

theorem Reserved.event {world : BridgeWorld} (h : Reserved world) (deal : Option Nat) :
    BridgeInvariant { world with log := world.log ++
      [{ file := .event, sequence := world.eventSeq, checkpoint := world.checkpoint
         deal := deal }] } := by
  obtain ⟨backfillDone, hdisk⟩ := h.onDisk
  refine ⟨⟨⟨?_, ?_⟩, ?_, h.cursorWhole, ?_⟩, ?_, h.nonneg, h.frozen⟩
  · refine List.pairwise_append.mpr ⟨h.monotone.increasing, List.pairwise_singleton _ _, ?_⟩
    intro earlier hearlier later hlater _
    rw [List.mem_singleton.mp hlater]
    exact h.fresh earlier hearlier
  · intro p hp hevent
    rcases List.mem_append.mp hp with hp | hp
    · exact h.monotone.unacknowledged p hp hevent
    · rw [List.mem_singleton.mp hp]
      rcases h.checkpointSeen with hzero | ⟨q, hq, hseq⟩
      · have := h.positive
        simp only
        omega
      · have := h.fresh q hq
        simp only
        omega
  · rcases h.checkpointSeen with hzero | ⟨p, hp, hseq⟩
    · exact Or.inl hzero
    · exact Or.inr ⟨p, List.mem_append_left _ hp, hseq⟩
  · intro p hp hevent
    rcases List.mem_append.mp hp with hp | hp
    · exact ⟨world.eventSeq, backfillDone, hdisk, h.below p hp⟩
    · refine ⟨world.eventSeq, backfillDone, hdisk, ?_⟩
      rw [List.mem_singleton.mp hp]
  · intro p hp
    rcases List.mem_append.mp hp with hp | hp
    · exact h.below p hp
    · rw [List.mem_singleton.mp hp]

/-- Saving the counter covers every number visible so far. -/
theorem BridgeInvariant.saved {world : BridgeWorld} (inv : BridgeInvariant world) :
    BridgeInvariant
      { world with cursorFile := some (cursorText world.eventSeq world.backfillDone) } :=
  { monotone := ⟨inv.monotone.increasing, inv.monotone.unacknowledged⟩
    checkpointSeen := inv.checkpointSeen
    cursorWhole := fun _ h => ⟨_, _, (Option.some.inj h).symm, inv.nonneg⟩
    eventsReserved := fun p hp _ => ⟨world.eventSeq, world.backfillDone, rfl, inv.below p hp⟩
    below := inv.below
    nonneg := inv.nonneg
    frozen := inv.frozen }

end TradeJournalWorker
