import TradeJournalWorker.OutboxRecovery
import TradeJournalWorker.PlannedIds

namespace TradeJournalWorker

open FaultProgram

/-- The reading fails or shows this bundle, whatever the clock says. -/
def Shows (reading : BridgeReading) (answer : Exit LiveError BridgeReading) : Prop :=
  ∀ found, answer = .returned found → ∃ now, found = { reading with now := now }

/-- An attempt to poll one reading: every write and every call may fail, only a permanent
rejection is left out. -/
def Attempt (reading : BridgeReading) (env : LiveEnv) : Prop :=
  env.outbox.NoRejection ∧ Shows reading env.reading

/-- An assertion about the outbox, one about the other stores, and the reading to come. -/
def Beside (answer : Exit LiveError BridgeReading)
    (outbox : OutboxEnv → OutboxWorld Payload → Prop) (rest : LiveWorld → Prop) (env : LiveEnv)
    (world : LiveWorld) : Prop :=
  env.reading = answer ∧ outbox env.outbox world.outbox ∧ rest world

/-- The assertion says nothing about the outbox. -/
def OutsideOutbox (rest : LiveWorld → Prop) : Prop :=
  ∀ world outbox, rest world → rest { world with outbox := outbox }

section Rules

variable {answer : Exit LiveError BridgeReading} {rest rest' : LiveWorld → Prop}
  {pre held : OutboxEnv → OutboxWorld Payload → Prop} {accepted : List String}

theorem onOutbox_beside {α : Type} {p : OutboxProgram Payload α}
    {mid : α → OutboxEnv → OutboxWorld Payload → Prop} {left : LiveEnv → LiveWorld → Prop}
    (hrest : OutsideOutbox rest) (h : Triple pre p (returning mid held))
    (hleft : ∀ env world, Beside answer held rest env world → left env world) :
    Triple (Beside answer pre rest) (onOutbox p)
      (returning (fun value => Beside answer (mid value) rest) left) := by
  intro env world hw
  have hrun := h env.outbox world.outbox hw.2.1
  rw [onOutbox_run]
  rcases he : p env.outbox world.outbox with ⟨exit, env', world'⟩
  rw [he] at hrun
  cases exit with
  | returned value => exact ⟨hw.1, hrun, hrest _ _ hw.2.2⟩
  | raised error => exact hleft _ _ ⟨hw.1, hrun, hrest _ _ hw.2.2⟩
  | crashed => exact hleft _ _ ⟨hw.1, hrun, hrest _ _ hw.2.2⟩

/-- A write outside the outbox happened or did not, whatever its answer was. -/
theorem write_beside {f : LiveWorld → LiveWorld} {left : LiveEnv → LiveWorld → Prop}
    (houtbox : ∀ world, (f world).outbox = world.outbox)
    (hdone : ∀ world, rest world → rest' (f world))
    (hbefore : ∀ env world, Beside answer pre rest env world → left env world)
    (hafter : ∀ env world, Beside answer pre rest' env world → left env world) :
    Triple (Beside answer pre rest) (Program.write LiveEnv.nextSave f)
      (returning (fun _ => Beside answer pre rest') left) := by
  intro env world hw
  have hwritten : Beside answer pre rest' env.nextSave.2 (f world) :=
    ⟨hw.1, (houtbox world).symm ▸ hw.2.1, hdone world hw.2.2⟩
  have hkept : Beside answer pre rest env.nextSave.2 world := hw
  unfold Program.write
  cases env.nextSave.1 with
  | done => exact hwritten
  | failed error => exact hbefore _ _ hkept
  | failedLate error => exact hafter _ _ hwritten
  | crash => exact hbefore _ _ hkept

theorem saveExcursions_beside {observed : Observed} {left : LiveEnv → LiveWorld → Prop}
    (hsaved : ∀ world, rest world → rest { world with excursions := observed.positions })
    (hleft : ∀ env world, Beside answer pre rest env world → left env world) :
    Triple (Beside answer pre rest) (saveExcursions observed)
      (returning (fun _ => Beside answer pre rest) left) := by
  unfold saveExcursions
  split
  next => exact write_beside (fun _ => rfl) hsaved hleft hleft
  next => exact triple_pure _ fun env world hw => hw

/-- After a drain that was complete nothing is pending. -/
def Empty (accepted : List String) (env : OutboxEnv) (world : OutboxWorld Payload) : Prop :=
  Ready accepted env world ∧ world.state = emptyState

theorem drainOutbox_beside {left : LiveEnv → LiveWorld → Prop} (hrest : OutsideOutbox rest)
    (hleft : ∀ env world, Beside answer (Held accepted) rest env world → left env world) :
    Triple (Beside answer (Ready accepted) rest) drainOutbox
      (returning (fun _ => Beside answer (Empty accepted) rest) left) := by
  unfold drainOutbox
  apply triple_read
  rintro start env world ⟨hw, rfl⟩
  rw [if_neg (by simp [hw.2.1.2.1.noDeadLetter])]
  refine triple_returning (onOutbox_beside hrest drain_ready hleft) ?_ env world hw
  rintro result env world ⟨hanswer, ⟨hready, hempty⟩, hrest⟩
  split
  next => exact hleft _ _ ⟨hanswer, hready.held, hrest⟩
  next hcomplete =>
    have hpending : result.pending = 0 := by
      by_contra hne
      exact hcomplete (by simp [deliveryIncomplete, hne])
    exact ⟨hanswer, ⟨hready, hempty hpending⟩, hrest⟩

theorem addDelivered_beside {left : LiveEnv → LiveWorld → Prop}
    (hsaved : ∀ world dedup, rest world → rest { world with dedup := dedup })
    (hleft : ∀ env world, Beside answer pre rest env world → left env world)
    (payloads : List Payload) :
    Triple (Beside answer pre rest) (addDelivered payloads)
      (returning (fun _ => Beside answer pre rest) left) := by
  induction payloads with
  | nil => exact triple_pure _ fun env world hw => hw
  | cons payload remaining ih =>
    unfold addDelivered
    exact triple_returning (write_beside (fun _ => rfl) (fun world h => hsaved world _ h) hleft hleft)
      fun _ => ih

end Rules

section Stages

variable (digest : Fingerprint → String) (sampleMs : Nat) (reading : BridgeReading)
  (start : LiveWorld)

/-- Beside the outbox only the tracker has moved since `start`. -/
structure Untouched (world : LiveWorld) : Prop where
  checkpoint : world.checkpoint = start.checkpoint
  archivedDeals : world.archivedDeals = start.archivedDeals
  snapshot : world.snapshot = start.snapshot
  dedup : world.dedup = start.dedup
  opened : ∀ events, preparedBatch start reading = .ok events →
    SameOpened reading events world.excursions start.excursions

/-- The records of the batch are acknowledged, the snapshot is still the old one. -/
structure Torn (world : LiveWorld) : Prop where
  records : pollRecords start reading ≠ []
  checkpoint : world.checkpoint = lastSequence (pollRecords start reading)
  snapshot : world.snapshot = start.snapshot

/-- The snapshot is in the store and none of its records is left. -/
structure Saved (world : LiveWorld) : Prop where
  records : pollRecords world reading = []
  snapshot : world.snapshot = reading.snapshot

/-- How far an attempt that began with these accepted ids has come. -/
inductive Stage (accepted : List String) (world : LiveWorld) : Prop
  | untouched (rest : Untouched reading start world)
      (within : ∀ id ∈ world.outbox.accepted,
        id ∈ accepted ∨ id ∈ pollIds digest sampleMs start reading)
      (kept : ∀ id ∈ accepted, id ∈ world.outbox.accepted)
  | torn (rest : Torn reading start world)
      (complete : ∀ id, id ∈ world.outbox.accepted ↔
        id ∈ accepted ∨ id ∈ pollIds digest sampleMs start reading)
  | saved (rest : Saved reading world)
      (complete : ∀ id, id ∈ world.outbox.accepted ↔
        id ∈ accepted ∨ id ∈ pollIds digest sampleMs start reading)

end Stages

section Attempts

variable {digest : Fingerprint → String} {sampleMs : Nat} {reading : BridgeReading}
  {start : LiveWorld} {answer : Exit LiveError BridgeReading} {accepted : List String}

theorem mem_appendNew_ids {π : Type} [Identified π] {payloads : List π} {id : String} :
    id ∈ (appendNew [] payloads).map eventId ↔ id ∈ payloads.map eventId := by
  constructor
  · intro h
    obtain ⟨payload, hmem, rfl⟩ := List.mem_map.mp h
    exact List.mem_map_of_mem (appendNew_subset payload hmem)
  · intro h
    obtain ⟨payload, hmem, rfl⟩ := List.mem_map.mp h
    rcases appendNew_covers [] hmem with hknown | ⟨added, hadded, hsame⟩
    · exact absurd hknown List.not_mem_nil
    · exact List.mem_map.mpr ⟨added, hadded, hsame⟩

theorem exists_pendingEvent {checkpoint : Nat} (archived : List String) {files : List EventRecord}
    {file : EventRecord} (hfile : file ∈ files) (habove : checkpoint < file.sequence) :
    ∃ record ∈ pendingEvents checkpoint archived files, record.sequence = file.sequence := by
  unfold pendingEvents
  simp only [List.mem_insertionSort, List.mem_map, List.mem_filter, decide_eq_true_eq]
  exact ⟨_, ⟨file, ⟨hfile, habove⟩, rfl⟩, rfl⟩

theorem exists_file_of_pendingEvent {checkpoint : Nat} {archived : List String}
    {files : List EventRecord} {record : EventRecord}
    (h : record ∈ pendingEvents checkpoint archived files) :
    ∃ file ∈ files, file.sequence = record.sequence := by
  unfold pendingEvents at h
  rw [List.mem_insertionSort] at h
  obtain ⟨file, hfile, rfl⟩ := List.mem_map.mp h
  exact ⟨file, (List.mem_filter.mp hfile).1, rfl⟩

/-- Acknowledged up to the last record, no record of the same files is left. -/
theorem pendingEvents_lastSequence {checkpoint : Nat} {archived archived' : List String}
    {files : List EventRecord} (h : pendingEvents checkpoint archived files ≠ []) :
    pendingEvents (lastSequence (pendingEvents checkpoint archived files)) archived' files = [] := by
  obtain ⟨first, hfirst⟩ := List.exists_mem_of_ne_nil _ h
  have hlast := le_lastSequence hfirst
  have hfloor := pendingEvents_above hfirst
  apply List.eq_nil_iff_forall_not_mem.mpr
  intro record hrecord
  have habove := pendingEvents_above hrecord
  obtain ⟨file, hfile, hsame⟩ := exists_file_of_pendingEvent hrecord
  have hfile_above : checkpoint < file.sequence := by omega
  obtain ⟨known, hknown, heq⟩ := exists_pendingEvent archived hfile hfile_above
  have hle := le_lastSequence hknown
  omega

theorem Untouched.records {world : LiveWorld} (h : Untouched reading start world) :
    pollRecords world reading = pollRecords start reading := by
  unfold pollRecords
  rw [h.checkpoint, h.archivedDeals]

theorem Torn.drained {world : LiveWorld} (h : Torn reading start world) :
    pollRecords world reading = [] := by
  unfold pollRecords
  rw [h.checkpoint]
  exact pendingEvents_lastSequence h.records

theorem Untouched.refl (world : LiveWorld) : Untouched reading world world :=
  ⟨rfl, rfl, rfl, rfl, fun _ _ _ _ => rfl⟩

theorem Untouched.ids {world : LiveWorld} (h : Untouched reading start world) (now : String) :
    pollIds digest sampleMs world { reading with now := now } =
      pollIds digest sampleMs start reading :=
  pollIds_again h.checkpoint h.archivedDeals h.snapshot h.dedup h.opened now

theorem untouched_outsideOutbox : OutsideOutbox (Untouched reading start) :=
  fun _ _ h => ⟨h.checkpoint, h.archivedDeals, h.snapshot, h.dedup, h.opened⟩

theorem saved_outsideOutbox : OutsideOutbox (Saved reading) := fun _ _ h => ⟨h.records, h.snapshot⟩

/-- Between the acknowledgement and the snapshot: without records nothing was written. -/
def Taken (reading : BridgeReading) (start world : LiveWorld) : Prop :=
  (pollRecords start reading = [] ∧ Untouched reading start world) ∨ Torn reading start world

/-- Whatever the exit, the outbox can be taken over and the stores are at some stage. -/
def Left (digest : Fingerprint → String) (sampleMs : Nat) (reading : BridgeReading)
    (start : LiveWorld) (accepted : List String) (world : LiveWorld) : Prop :=
  Recoverable world.outbox ∧ Stage digest sampleMs reading start accepted world

variable {env : LiveEnv} {world : LiveWorld} {enqueued : List String}

theorem left_untouched (h : Beside answer (Held accepted) (Untouched reading start) env world) :
    Left digest sampleMs reading start accepted world := by
  obtain ⟨-, ⟨-, hrecoverable, haccepted⟩, hrest⟩ := h
  refine ⟨hrecoverable, .untouched hrest ?_ ?_⟩
  · intro id hid
    exact Or.inl (haccepted ▸ hid)
  · intro id hid
    exact haccepted ▸ hid

/-- Every id of the batch has been accepted, on top of the earlier ones. -/
def Completes (digest : Fingerprint → String) (sampleMs : Nat) (reading : BridgeReading)
    (start : LiveWorld) (accepted enqueued : List String) : Prop :=
  ∀ id, id ∈ enqueued ↔ id ∈ accepted ∨ id ∈ pollIds digest sampleMs start reading

theorem left_taken (hids : Completes digest sampleMs reading start accepted enqueued)
    (h : Beside answer (Held enqueued) (Taken reading start) env world) :
    Left digest sampleMs reading start accepted world := by
  obtain ⟨-, ⟨-, hrecoverable, rfl⟩, ⟨-, hrest⟩ | hrest⟩ := h
  · refine ⟨hrecoverable, .untouched hrest ?_ ?_⟩
    · exact fun id hid => (hids id).mp hid
    · exact fun id hid => (hids id).mpr (Or.inl hid)
  · exact ⟨hrecoverable, .torn hrest hids⟩

theorem left_saved (hids : Completes digest sampleMs reading start accepted enqueued)
    (h : Beside answer (Held enqueued) (Saved reading) env world) :
    Left digest sampleMs reading start accepted world := by
  obtain ⟨-, ⟨-, hrecoverable, rfl⟩, hrest⟩ := h
  exact ⟨hrecoverable, .saved hrest hids⟩

theorem Beside.held {rest : LiveWorld → Prop}
    (h : Beside answer (Ready accepted) rest env world) :
    Beside answer (Held accepted) rest env world := ⟨h.1, h.2.1.held, h.2.2⟩

theorem acknowledgeRecords_taken (hids : Completes digest sampleMs reading start accepted enqueued) :
    Triple (Beside answer (Ready enqueued) (Untouched reading start))
      (acknowledgeRecords (pollRecords start reading))
      (returning (fun _ => Beside answer (Ready enqueued) (Taken reading start))
        fun _ => Left digest sampleMs reading start accepted) := by
  unfold acknowledgeRecords
  apply triple_read
  rintro world env world' ⟨hw, rfl⟩
  have huntouched := hw.2.2
  split
  next hnone => exact ⟨hw.1, hw.2.1, Or.inl ⟨hnone, huntouched⟩⟩
  next hrecords =>
    have hleft : ∀ env world, Beside answer (Ready enqueued) (Taken reading start) env world →
        Left digest sampleMs reading start accepted world :=
      fun env world h => left_taken hids h.held
    split
    next hback =>
      -- the records lie above the checkpoint, so this never happens
      obtain ⟨record, hmem⟩ := List.exists_mem_of_ne_nil _ hrecords
      have habove := pendingEvents_above hmem
      have hlast := le_lastSequence hmem
      have hsame := huntouched.checkpoint
      exact absurd hback (by unfold pollRecords at *; omega)
    next =>
      refine write_beside ?_ ?_ ?_ hleft env world' hw
      · exact fun _ => rfl
      · exact fun world h => Or.inr ⟨hrecords, rfl, h.snapshot⟩
      · intro env world h
        refine ⟨h.2.1.2.1.recoverable, .untouched h.2.2 ?_ ?_⟩
        · rw [h.2.1.2.2]
          exact fun id hid => (hids id).mp hid
        · rw [h.2.1.2.2]
          exact fun id hid => (hids id).mpr (Or.inl hid)

theorem saveSnapshot_saved (hids : Completes digest sampleMs reading start accepted enqueued) :
    Triple (Beside answer (Ready enqueued) (Taken reading start)) (saveSnapshot reading.snapshot)
      (returning (fun _ => Beside answer (Ready enqueued) (Saved reading))
        fun _ => Left digest sampleMs reading start accepted) := by
  refine write_beside (fun _ => rfl) ?_ ?_ ?_
  · intro world h
    rcases h with ⟨hnone, huntouched⟩ | htorn
    · exact ⟨huntouched.records.trans hnone, rfl⟩
    · exact ⟨htorn.drained, rfl⟩
  · exact fun env world h => left_taken hids h.held
  · exact fun env world h => left_saved hids h.held

theorem deliverBatch_left (enriched : Enriched) {fresh : List Payload} (delivered : Nat)
    (hnamed : ∀ p ∈ fresh, eventId p ≠ "")
    (hfresh : ∀ id, id ∈ fresh.map eventId ↔ id ∈ pollIds digest sampleMs start reading) :
    Triple (Beside answer (Empty accepted) (Untouched reading start))
      (deliverBatch reading.snapshot (pollRecords start reading) enriched fresh delivered)
      (returning (fun _ _ => Left digest sampleMs reading start accepted)
        fun _ => Left digest sampleMs reading start accepted) := by
  have hids : Completes digest sampleMs reading start accepted
      (accepted ++ (appendNew [] fresh).map eventId) := by
    intro id
    rw [List.mem_append, mem_appendNew_ids, hfresh]
  have hsaved : ∀ env world, Beside answer
      (Ready (accepted ++ (appendNew [] fresh).map eventId)) (Saved reading) env world →
      Left digest sampleMs reading start accepted world :=
    fun env world h => left_saved hids h.held
  have hcommit : Triple (Beside answer (Empty accepted) (Untouched reading start))
      (commitBatch reading.snapshot (pollRecords start reading) enriched fresh)
      (returning (fun _ => Beside answer (Ready (accepted ++ (appendNew [] fresh).map eventId))
        (Saved reading)) fun _ => Left digest sampleMs reading start accepted) := by
    unfold commitBatch
    refine triple_returning (onOutbox_beside untouched_outsideOutbox (enqueueMany_ready hnamed) ?_) ?_
    · exact fun env world h => left_untouched h
    · intro count
      refine triple_returning (acknowledgeRecords_taken hids) fun _ => ?_
      refine triple_returning (saveSnapshot_saved hids) fun _ => ?_
      exact saveExcursions_beside (fun world h => ⟨h.records, h.snapshot⟩) hsaved
  unfold deliverBatch
  refine triple_returning hcommit fun _ => ?_
  refine triple_returning (drainOutbox_beside saved_outsideOutbox ?_) ?_
  · exact fun env world h => left_saved hids h
  · intro more
    have hempty : ∀ env world, Beside answer
        (Empty (accepted ++ (appendNew [] fresh).map eventId)) (Saved reading) env world →
        Left digest sampleMs reading start accepted world :=
      fun env world h => hsaved env world ⟨h.1, h.2.1.1, h.2.2⟩
    refine triple_returning (addDelivered_beside ?_ hempty fresh) ?_
    · exact fun world dedup h => ⟨h.records, h.snapshot⟩
    · exact fun _ env world h => hempty env world h

theorem processReading_left (now : String) (delivered : Nat) (found : LiveWorld)
    (hfound : Untouched reading start found) :
    Triple (Beside answer (Empty accepted) (Untouched reading start))
      (processReading digest sampleMs { reading with now := now } found delivered)
      (returning (fun _ _ => Left digest sampleMs reading start accepted)
        fun _ => Left digest sampleMs reading start accepted) := by
  have hleft : ∀ env world, Beside answer (Empty accepted) (Untouched reading start) env world →
      Left digest sampleMs reading start accepted world :=
    fun env world h => left_untouched ⟨h.1, h.2.1.1.held, h.2.2⟩
  have hbatch : prepareEvents found.snapshot reading.snapshot
      (detectBatch (pollRecords start reading) found.snapshot reading.snapshot) =
        preparedBatch start reading := by
    unfold preparedBatch
    rw [hfound.snapshot]
  have hrecords : pendingEvents found.checkpoint found.archivedDeals reading.files =
      pollRecords start reading := hfound.records
  unfold processReading
  have hsnapshot : ({ reading with now := now } : BridgeReading).snapshot = reading.snapshot := rfl
  simp only [hsnapshot, hbatch, hrecords]
  cases hprepared : preparedBatch start reading with
  | error error => exact triple_raise error hleft
  | ok events =>
    have hopened := hfound.opened events hprepared
    simp only
    refine triple_returning (saveExcursions_beside ?_ hleft) fun _ => ?_
    · intro world h
      refine ⟨h.checkpoint, h.archivedDeals, h.snapshot, h.dedup, ?_⟩
      intro events' hevents'
      rw [hprepared] at hevents'
      cases hevents'
      exact hopened.opened
    · refine triple_returning (saveExcursions_beside ?_ hleft) fun _ => ?_
      · intro world h
        refine ⟨h.checkpoint, h.archivedDeals, h.snapshot, h.dedup, ?_⟩
        intro events' hevents'
        rw [hprepared] at hevents'
        cases hevents'
        exact hopened.opened.observed now
      · rw [normalizeAll_enriched reading.account now (prepareEvents_valid hprepared)]
        simp only
        apply deliverBatch_left
        · intro p hp
          exact Plan.payloads_nonempty (Plan.of sampleMs found.excursions
            { reading with now := now } events) { reading with now := now } p
              (List.mem_of_mem_filter hp)
        · have hagain : preparedBatch found { reading with now := now } = .ok events := by
            rw [← hprepared, ← hbatch, ← hrecords]
            rfl
          intro id
          rw [← hfound.ids now, pollIds_of_ok hagain]
          exact Iff.rfl

/-- One attempt from stores that earlier attempts have left untouched. -/
theorem pollOnce_left (digest : Fingerprint → String) (sampleMs : Nat) (hshows : Shows reading answer) :
    Triple (Beside answer (Held accepted) (Untouched reading start)) (pollOnce digest sampleMs)
      (returning (fun _ _ => Left digest sampleMs reading start accepted)
        fun _ => Left digest sampleMs reading start accepted) := by
  have hleft : ∀ env world, Beside answer (Held accepted) (Untouched reading start) env world →
      Left digest sampleMs reading start accepted world := fun env world h => left_untouched h
  unfold pollOnce
  refine triple_returning (onOutbox_beside untouched_outsideOutbox reload_ready hleft) fun _ => ?_
  refine triple_returning (drainOutbox_beside untouched_outsideOutbox hleft) fun delivered => ?_
  apply triple_read
  rintro found env world ⟨hw, rfl⟩
  obtain ⟨hanswer, ⟨hready, hempty⟩, hrest⟩ := hw
  rw [if_neg (by simp [hempty, emptyState])]
  rw [Program.run_bind]
  unfold Program.perform
  simp only [hanswer]
  cases answer with
  | raised error => exact hleft _ _ ⟨hanswer, hready.held, hrest⟩
  | crashed => exact hleft _ _ ⟨hanswer, hready.held, hrest⟩
  | returned reading' =>
    obtain ⟨now, rfl⟩ := hshows reading' rfl
    exact processReading_left now delivered world hrest env world ⟨hanswer, ⟨hready, hempty⟩, hrest⟩

theorem attempt_left (digest : Fingerprint → String) (sampleMs : Nat) {env : LiveEnv} {world : LiveWorld} (hattempt : Attempt reading env)
    (hrecoverable : Recoverable world.outbox) (hrest : Untouched reading start world) :
    Left digest sampleMs reading start world.outbox.accepted
      (pollOnce digest sampleMs env world).2.2 := by
  have hheld : Beside env.reading (Held world.outbox.accepted) (Untouched reading start) env world :=
    ⟨rfl, ⟨hattempt.1, hrecoverable, rfl⟩, hrest⟩
  have hleft := pollOnce_left digest sampleMs hattempt.2 env world hheld
  cases hexit : (pollOnce digest sampleMs env world).1 with
  | returned value =>
    rw [hexit] at hleft
    exact hleft
  | raised error =>
    rw [hexit] at hleft
    exact hleft
  | crashed =>
    rw [hexit] at hleft
    exact hleft

end Attempts

end TradeJournalWorker
