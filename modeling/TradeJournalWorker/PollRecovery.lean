import TradeJournalWorker.PollAttempts

namespace TradeJournalWorker

open FaultProgram

section CleanRetry

variable {digest : Fingerprint → String} {sampleMs : Nat} {world : LiveWorld}
  {reading : BridgeReading}

/-- A poll without faults first delivers what earlier attempts left in the outbox. -/
theorem runPoll_recoverable (digest : Fingerprint → String) (sampleMs : Nat) (h : Recoverable world.outbox) (reading : BridgeReading) :
    ∃ outbox, IdleOutbox outbox ∧ outbox.accepted = world.outbox.accepted ∧
      runPoll digest sampleMs world reading =
        cleanPoll digest sampleMs { world with outbox := outbox } reading := by
  obtain ⟨state, hload, hdead⟩ := h
  refine ⟨drained world.outbox state, idle_drained hload hdead, rfl, ?_⟩
  have hdrain := drain_delivers { world.outbox with state := state } hdead
  unfold runPoll pollOnce
  rw [Program.run_bind_returned (onOutbox_clean rfl (reload_loaded hload {}))]
  rw [Program.run_bind_returned (drainOutbox_clean rfl hdead hdrain)]
  rw [Program.run_bind]
  show ((if ([] : List (String × DeadLetter Payload)) ≠ [] then pure _ else _ : LiveProgram Nat)
    (cleanEnv reading) _).2.2 = _
  rw [if_neg (by simp)]
  exact processReading_clean (idle_drained hload hdead) _

theorem mem_cleanPoll_accepted {id : String} :
    id ∈ (cleanPoll digest sampleMs world reading).outbox.accepted ↔
      id ∈ world.outbox.accepted ∨ id ∈ pollIds digest sampleMs world reading := by
  unfold cleanPoll planPoll pollIds preparedBatch
  cases prepareEvents world.snapshot reading.snapshot
      (detectBatch (pollRecords world reading) world.snapshot reading.snapshot) with
  | error error => simp [bind, Except.bind]
  | ok events =>
    show id ∈ world.outbox.accepted ++ (appendNew [] _).map eventId ↔ _
    rw [List.mem_append, mem_appendNew_ids]

end CleanRetry

section Restarts

variable (digest : Fingerprint → String) (sampleMs : Nat)

/-- The stores after one attempt, however it ended. -/
def attemptPoll (world : LiveWorld) (env : LiveEnv) : LiveWorld :=
  (pollOnce digest sampleMs env world).2.2

/-- Each attempt starts on what the one before left, the last poll meets no fault. -/
def recover (reading : BridgeReading) (world : LiveWorld) (envs : List LiveEnv) : LiveWorld :=
  runPoll digest sampleMs (envs.foldl (attemptPoll digest sampleMs) world) reading

/-- The stores that the attempts find, and at last the poll without faults. -/
def restarts (world : LiveWorld) : List LiveEnv → List LiveWorld
  | [] => [world]
  | env :: rest => world :: restarts (attemptPoll digest sampleMs world env) rest

def SameIds (a b : LiveWorld) : Prop := ∀ id, id ∈ a.outbox.accepted ↔ id ∈ b.outbox.accepted

/-- A restart finds the records acknowledged and the snapshot old, and what it plans from
there has an id that is not one of the batch. -/
def Echoes (reading : BridgeReading) (start found : LiveWorld) : Prop :=
  found.checkpoint ≠ start.checkpoint ∧ found.snapshot = start.snapshot ∧
    ∃ id ∈ pollIds digest sampleMs found reading,
      id ∉ start.outbox.accepted ∧ id ∉ pollIds digest sampleMs start reading

instance (reading : BridgeReading) (start found : LiveWorld) :
    Decidable (Echoes digest sampleMs reading start found) :=
  inferInstanceAs (Decidable (_ ∧ _ ∧ ∃ id ∈ pollIds digest sampleMs found reading, _ ∧ _))

end Restarts

section Recovery

variable {digest : Fingerprint → String} {sampleMs : Nat} {reading : BridgeReading}
  {start world : LiveWorld}

theorem recover_cons (env : LiveEnv) (rest : List LiveEnv) :
    recover digest sampleMs reading world (env :: rest) =
      recover digest sampleMs reading (attemptPoll digest sampleMs world env) rest := rfl

theorem mem_recover_nil {id : String} (hrecoverable : Recoverable world.outbox)
    (hrest : Untouched reading start world) :
    id ∈ (recover digest sampleMs reading world []).outbox.accepted ↔
      id ∈ world.outbox.accepted ∨ id ∈ pollIds digest sampleMs start reading := by
  obtain ⟨outbox, -, haccepted, hrun⟩ := runPoll_recoverable digest sampleMs hrecoverable reading
  have hids : pollIds digest sampleMs { world with outbox := outbox } reading =
      pollIds digest sampleMs start reading :=
    Untouched.ids (untouched_outsideOutbox world outbox hrest) reading.now
  show id ∈ (runPoll digest sampleMs world reading).outbox.accepted ↔ _
  rw [hrun, mem_cleanPoll_accepted, hids, haccepted]

theorem mem_restarts_self (world : LiveWorld) (envs : List LiveEnv) :
    world ∈ restarts digest sampleMs world envs := by
  cases envs with
  | nil => exact List.mem_singleton_self world
  | cons env rest => exact List.mem_cons_self

theorem Torn.moved (h : Torn reading start world) : world.checkpoint ≠ start.checkpoint := by
  obtain ⟨record, hmem⟩ := List.exists_mem_of_ne_nil _ h.records
  have habove := pendingEvents_above hmem
  have hlast := le_lastSequence hmem
  have hcheckpoint := h.checkpoint
  omega

theorem Saved.ids (h : Saved reading world) : pollIds digest sampleMs world reading = [] := by
  have hbatch : preparedBatch world reading = .ok [] := by
    unfold preparedBatch
    rw [h.records, h.snapshot]
    show prepareEvents _ _ (detectWindowsEvents reading.snapshot reading.snapshot) = _
    rw [detectWindowsEvents_self]
    rfl
  rw [pollIds_of_ok hbatch]
  rfl

/-- Every id accepted since `start` is one of its batch. -/
def Within (digest : Fingerprint → String) (sampleMs : Nat) (reading : BridgeReading)
    (start world : LiveWorld) : Prop :=
  (∀ id ∈ world.outbox.accepted,
      id ∈ start.outbox.accepted ∨ id ∈ pollIds digest sampleMs start reading) ∧
    ∀ id ∈ start.outbox.accepted, id ∈ world.outbox.accepted

theorem Within.refl (world : LiveWorld) : Within digest sampleMs reading world world :=
  ⟨fun _ hid => Or.inl hid, fun _ hid => hid⟩

theorem Within.complete (h : Within digest sampleMs reading start world) {id : String} :
    (id ∈ world.outbox.accepted ∨ id ∈ pollIds digest sampleMs start reading) ↔
      id ∈ start.outbox.accepted ∨ id ∈ pollIds digest sampleMs start reading := by
  constructor
  · intro hid
    rcases hid with hid | hid
    · exact h.1 id hid
    · exact Or.inr hid
  · intro hid
    rcases hid with hid | hid
    · exact Or.inl (h.2 id hid)
    · exact Or.inr hid

theorem Within.step {next : LiveWorld} (h : Within digest sampleMs reading start world)
    (hwithin : ∀ id ∈ next.outbox.accepted,
      id ∈ world.outbox.accepted ∨ id ∈ pollIds digest sampleMs start reading)
    (hkept : ∀ id ∈ world.outbox.accepted, id ∈ next.outbox.accepted) :
    Within digest sampleMs reading start next :=
  ⟨fun id hid => h.complete.mp (hwithin id hid), fun id hid => hkept id (h.2 id hid)⟩

/-- With no record left to acknowledge, the attempts end on the batch and nothing else. -/
theorem recover_drained {envs : List LiveEnv} (hattempts : ∀ env ∈ envs, Attempt reading env) :
    ∀ {start world : LiveWorld}, pollRecords start reading = [] →
      Recoverable world.outbox → Untouched reading start world →
      Within digest sampleMs reading start world →
      (∀ id, id ∈ (recover digest sampleMs reading world envs).outbox.accepted ↔
        id ∈ start.outbox.accepted ∨ id ∈ pollIds digest sampleMs start reading) ∧
      ∀ found ∈ restarts digest sampleMs world envs, ∀ id ∈ pollIds digest sampleMs found reading,
        id ∈ pollIds digest sampleMs start reading := by
  induction envs with
  | nil =>
    intro start world hnone hrecoverable hrest hwithin
    refine ⟨fun id => (mem_recover_nil hrecoverable hrest).trans hwithin.complete, ?_⟩
    intro found hfound id hid
    obtain rfl := List.mem_singleton.mp hfound
    rwa [← hrest.ids reading.now]
  | cons env rest ih =>
    intro start world hnone hrecoverable hrest hwithin
    have hhead : ∀ id ∈ pollIds digest sampleMs world reading,
        id ∈ pollIds digest sampleMs start reading := by
      intro id hid
      rwa [← hrest.ids reading.now]
    have hlater : ∀ e ∈ rest, Attempt reading e := fun e he => hattempts e (List.mem_cons_of_mem _ he)
    have hleft := attempt_left digest sampleMs
      (hattempts env List.mem_cons_self) hrecoverable hrest
    obtain ⟨hrecoverable', hstage⟩ := hleft
    cases hstage with
    | untouched hrest' hin hkept =>
      obtain ⟨hids, hfound⟩ := ih hlater hnone hrecoverable' hrest' (hwithin.step hin hkept)
      refine ⟨hids, fun found hmem => ?_⟩
      rcases List.mem_cons.mp hmem with rfl | hmem
      · exact hhead
      · exact hfound found hmem
    | torn htorn hcomplete => exact absurd hnone htorn.records
    | saved hsaved hcomplete =>
      obtain ⟨hids, hfound⟩ :=
        ih hlater hsaved.records hrecoverable' (Untouched.refl _) (Within.refl _)
      rw [hsaved.ids] at hids hfound
      refine ⟨fun id => (hids id).trans ?_, fun found hmem => ?_⟩
      · have hnot : id ∉ ([] : List String) := List.not_mem_nil
        rw [or_iff_left hnot, ← hwithin.complete]
        exact hcomplete id
      · rcases List.mem_cons.mp hmem with rfl | hmem
        · exact hhead
        · exact fun id hid => absurd (hfound found hmem id hid) List.not_mem_nil

/-- The accepted ids are those of the batch and those that a torn restart plans. -/
theorem mem_recover {envs : List LiveEnv} (hattempts : ∀ env ∈ envs, Attempt reading env)
    {world : LiveWorld} (hrecoverable : Recoverable world.outbox)
    (hrest : Untouched reading start world) (hwithin : Within digest sampleMs reading start world)
    (id : String) :
    id ∈ (recover digest sampleMs reading world envs).outbox.accepted ↔
      (id ∈ start.outbox.accepted ∨ id ∈ pollIds digest sampleMs start reading) ∨
        ∃ found ∈ restarts digest sampleMs world envs, found.checkpoint ≠ start.checkpoint ∧
          found.snapshot = start.snapshot ∧ id ∈ pollIds digest sampleMs found reading := by
  induction envs generalizing world with
  | nil =>
    have hnone : ¬ ∃ found ∈ restarts digest sampleMs world [], found.checkpoint ≠ start.checkpoint ∧
        found.snapshot = start.snapshot ∧ id ∈ pollIds digest sampleMs found reading := by
      intro hfound
      obtain ⟨found, hmem, hmoved, -, -⟩ := hfound
      obtain rfl := List.mem_singleton.mp hmem
      exact hmoved hrest.checkpoint
    rw [or_iff_left hnone, mem_recover_nil hrecoverable hrest, hwithin.complete]
  | cons env rest ih =>
    have hlater : ∀ e ∈ rest, Attempt reading e := fun e he => hattempts e (List.mem_cons_of_mem _ he)
    have hskip : (∃ found ∈ restarts digest sampleMs world (env :: rest),
        found.checkpoint ≠ start.checkpoint ∧ found.snapshot = start.snapshot ∧
          id ∈ pollIds digest sampleMs found reading) ↔
        ∃ found ∈ restarts digest sampleMs (attemptPoll digest sampleMs world env) rest,
          found.checkpoint ≠ start.checkpoint ∧ found.snapshot = start.snapshot ∧
            id ∈ pollIds digest sampleMs found reading := by
      constructor
      · intro hfound
        obtain ⟨found, hmem, hmoved, hrest'⟩ := hfound
        rcases List.mem_cons.mp hmem with rfl | hmem
        · exact absurd hrest.checkpoint hmoved
        · exact ⟨found, hmem, hmoved, hrest'⟩
      · intro hfound
        obtain ⟨found, hmem, hrest'⟩ := hfound
        exact ⟨found, List.mem_cons_of_mem _ hmem, hrest'⟩
    rw [recover_cons, hskip]
    have hleft := attempt_left digest sampleMs
      (hattempts env List.mem_cons_self) hrecoverable hrest
    obtain ⟨hrecoverable', hstage⟩ := hleft
    cases hstage with
    | untouched hrest' hin hkept => exact ih hlater hrecoverable' hrest' (hwithin.step hin hkept)
    | torn htorn hcomplete =>
      obtain ⟨hids, hfound⟩ :=
        recover_drained hlater htorn.drained hrecoverable' (Untouched.refl _) (Within.refl _)
      refine (hids id).trans ?_
      rw [hcomplete id, hwithin.complete]
      apply or_congr Iff.rfl
      constructor
      · exact fun hid => ⟨_, mem_restarts_self _ _, htorn.moved, htorn.snapshot, hid⟩
      · intro h
        obtain ⟨found, hmem, -, -, hid⟩ := h
        exact hfound found hmem id hid
    | saved hsaved hcomplete =>
      obtain ⟨hids, hfound⟩ :=
        recover_drained hlater hsaved.records hrecoverable' (Untouched.refl _) (Within.refl _)
      have hnone : ¬ ∃ found ∈ restarts digest sampleMs (attemptPoll digest sampleMs world env) rest,
          found.checkpoint ≠ start.checkpoint ∧ found.snapshot = start.snapshot ∧
            id ∈ pollIds digest sampleMs found reading := by
        intro h
        obtain ⟨found, hmem, -, -, hid⟩ := h
        have hin := hfound found hmem id hid
        rw [hsaved.ids] at hin
        exact absurd hin List.not_mem_nil
      refine (hids id).trans ?_
      rw [hsaved.ids, or_iff_left hnone, or_iff_left List.not_mem_nil, hcomplete id,
        hwithin.complete]

/-- An outbox that cannot be read, or that a dead letter bars, stops every poll at once. -/
theorem attemptPoll_blocked (hblocked : ¬ Recoverable world.outbox) (env : LiveEnv) :
    ∃ state, attemptPoll digest sampleMs world env =
      { world with outbox := { world.outbox with state := state } } := by
  unfold attemptPoll pollOnce
  cases hload : load world.outbox.file with
  | error error =>
    refine ⟨world.outbox.state, ?_⟩
    rw [Program.run_bind, onOutbox_run, reload_unreadable hload]
    rfl
  | ok state =>
    have hdead : state.deadLetter ≠ [] := fun hnone => hblocked ⟨state, hload, hnone⟩
    refine ⟨state, ?_⟩
    have hrun : onOutbox reload env world = (.returned (), env,
        { world with outbox := { world.outbox with state := state } }) := by
      rw [onOutbox_run, reload_loaded hload]
      rfl
    have hdrain : drainOutbox env { world with outbox := { world.outbox with state := state } } =
        (.returned 0, env, { world with outbox := { world.outbox with state := state } }) := by
      unfold drainOutbox
      rw [Program.run_bind]
      show (if state.deadLetter ≠ [] then pure 0 else _ : LiveProgram Nat) env _ = _
      rw [if_pos hdead]
      rfl
    rw [Program.run_bind_returned hrun, Program.run_bind_returned hdrain, Program.run_bind]
    show ((if state.deadLetter ≠ [] then pure 0 else _ : LiveProgram Nat) env _).2.2 = _
    rw [if_pos hdead]
    rfl

theorem recover_blocked (hblocked : ¬ Recoverable world.outbox) (envs : List LiveEnv) :
    (recover digest sampleMs reading world envs).outbox.accepted = world.outbox.accepted ∧
      ∀ found ∈ restarts digest sampleMs world envs, found.checkpoint = world.checkpoint := by
  induction envs generalizing world with
  | nil =>
    obtain ⟨state, hrun⟩ := attemptPoll_blocked hblocked (cleanEnv reading)
    refine ⟨?_, ?_⟩
    · show (attemptPoll digest sampleMs world (cleanEnv reading)).outbox.accepted = _
      rw [hrun]
    · intro found hmem
      rw [List.mem_singleton.mp hmem]
  | cons env rest ih =>
    obtain ⟨state, hrun⟩ := attemptPoll_blocked hblocked env
    have hstill : ¬ Recoverable (attemptPoll digest sampleMs world env).outbox := by
      rw [hrun]
      exact hblocked
    obtain ⟨haccepted, hfound⟩ := ih hstill
    rw [hrun] at haccepted hfound
    refine ⟨?_, ?_⟩
    · rw [recover_cons, hrun]
      exact haccepted
    · intro found hmem
      rcases List.mem_cons.mp hmem with rfl | hmem
      · rfl
      · rw [hrun] at hmem
        exact hfound found hmem

/-- Restarted after any attempts, the polls enqueue the ids of the run without faults if and
only if no attempt was cut off between the acknowledgement and the snapshot in a batch whose
snapshot diff alone has other ids. -/
theorem recover_sameIds_iff (digest : Fingerprint → String) (sampleMs : Nat)
    (reading : BridgeReading) (start : LiveWorld) (envs : List LiveEnv)
    (hattempts : ∀ env ∈ envs, Attempt reading env) :
    SameIds (recover digest sampleMs reading start envs) (runPoll digest sampleMs start reading) ↔
      ∀ found ∈ restarts digest sampleMs start envs,
        ¬ Echoes digest sampleMs reading start found := by
  by_cases hrecoverable : Recoverable start.outbox
  · have hclean : ∀ id, id ∈ (runPoll digest sampleMs start reading).outbox.accepted ↔
        id ∈ start.outbox.accepted ∨ id ∈ pollIds digest sampleMs start reading :=
      fun id => mem_recover_nil hrecoverable (Untouched.refl start)
    have hids : ∀ id, id ∈ (recover digest sampleMs reading start envs).outbox.accepted ↔ _ :=
      mem_recover hattempts hrecoverable (Untouched.refl start) (Within.refl start)
    constructor
    · intro hsame found hmem hechoes
      obtain ⟨hmoved, hold, id, hid, hnew, hother⟩ := hechoes
      have hin := (hids id).mpr (Or.inr ⟨found, hmem, hmoved, hold, hid⟩)
      rcases (hclean id).mp ((hsame id).mp hin) with hknown | hplanned
      · exact hnew hknown
      · exact hother hplanned
    · intro hall id
      rw [hids id, hclean id, or_iff_left_iff_imp]
      intro hfound
      obtain ⟨found, hmem, hmoved, hold, hid⟩ := hfound
      by_contra hnot
      rw [not_or] at hnot
      exact hall found hmem ⟨hmoved, hold, id, hid, hnot.1, hnot.2⟩
  · have hblocked : ∀ envs,
        (recover digest sampleMs reading start envs).outbox.accepted = start.outbox.accepted ∧ _ :=
      recover_blocked hrecoverable
    obtain ⟨haccepted, hfound⟩ := hblocked envs
    have hclean := (hblocked []).1
    apply iff_of_true
    · intro id
      rw [haccepted]
      show _ ↔ id ∈ (recover digest sampleMs reading start []).outbox.accepted
      rw [hclean]
    · exact fun found hmem hechoes => hechoes.1 (hfound found hmem)

def heldPoll : BridgeReading :=
  { account := { login := some "1", server := some "demo" }
    positions := [{ ticket := some "7", symbol := some "EURUSD", direction := some "buy"
                    volume := some 1, openPrice := some 1 }]
    now := "now" }

/-- The position of `heldPoll` was closed by deal 9. -/
def closedPoll : BridgeReading :=
  { account := { login := some "1", server := some "demo" }
    files := [{ sequence := 1, eventType := .dealAdd, ticket := "9", dealId := some "9"
                positionId := some "7", symbol := some "EURUSD", volume := some 1
                price := some 2, entry := some .out }]
    now := "now" }

/-- The saves are answered in this order, everything else succeeds. -/
def savesEnv (saves : List (WriteAnswer Unit)) : LiveEnv :=
  { reading := .returned closedPoll, saves := saves }

theorem savesEnv_attempt (saves : List (WriteAnswer Unit)) : Attempt closedPoll (savesEnv saves) := by
  refine ⟨?_, ?_⟩
  · intro result h
    cases h
  · intro found h
    cases h
    exact ⟨closedPoll.now, rfl⟩

/-- Cut off before the acknowledgement, then between the snapshot and the dedup store. -/
theorem recover_sameIds_iff_close :
    SameIds
      (recover numbersDigest 2000 closedPoll (runPoll numbersDigest 2000 {} heldPoll)
        [savesEnv [.crash], savesEnv [.done, .done, .done, .crash]])
      (runPoll numbersDigest 2000 (runPoll numbersDigest 2000 {} heldPoll) closedPoll) := by
  apply (recover_sameIds_iff numbersDigest 2000 closedPoll
    (runPoll numbersDigest 2000 {} heldPoll) _ ?_).mpr
  · decide +kernel
  · intro env hmem
    rcases List.mem_cons.mp hmem with rfl | hmem
    · exact savesEnv_attempt _
    · rw [List.mem_singleton.mp hmem]
      exact savesEnv_attempt _

/-- Cut off between the acknowledgement and the snapshot, the close is enqueued under the id of
its deal and, after the restart, under that of the diff. -/
theorem not_sameIds_after_torn_poll :
    ¬ ∀ (digest : Fingerprint → String) (sampleMs : Nat) (reading : BridgeReading)
        (start : LiveWorld) (envs : List LiveEnv), HexDigits digest →
        (∀ env ∈ envs, Attempt reading env) →
          SameIds (recover digest sampleMs reading start envs)
            (runPoll digest sampleMs start reading) := by
  intro h
  have hattempts : ∀ env ∈ [savesEnv [.done, .crash]], Attempt closedPoll env := by
    intro env hmem
    rw [List.mem_singleton.mp hmem]
    exact savesEnv_attempt _
  have hsame := h numbersDigest 2000 closedPoll (runPoll numbersDigest 2000 {} heldPoll)
    [savesEnv [.done, .crash]] hexDigits_numbersDigest hattempts
  have hall : ∀ id ∈ (recover numbersDigest 2000 closedPoll (runPoll numbersDigest 2000 {} heldPoll)
      [savesEnv [.done, .crash]]).outbox.accepted,
      id ∈ (runPoll numbersDigest 2000 (runPoll numbersDigest 2000 {} heldPoll)
        closedPoll).outbox.accepted := fun id hid => (hsame id).mp hid
  revert hall
  decide +kernel

end Recovery

end TradeJournalWorker
