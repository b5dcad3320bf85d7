import TradeJournalWorker.FaultRules
import TradeJournalWorker.TrackedPolls

namespace TradeJournalWorker

open FaultProgram

/-- What the tracker holds in memory and what its file holds. -/
structure Tracker where
  memory : Excursions
  stored : Excursions

def TrackedWorld.tracker (world : TrackedWorld) : Tracker :=
  ⟨world.memory, world.live.excursions⟩

theorem tracker_memory (world : TrackedWorld) : world.tracker.memory = world.memory := rfl

def Tracker.persisted (tracker : Tracker) (observed : Observed) (saved : Bool) : Tracker :=
  { memory := observed.positions
    stored := if saved then observed.positions else tracker.stored }

/-- What one call makes of the tracker. -/
inductive TrackerStep (sampleMs : Nat) (tracker : Tracker) : TrackerCall → Tracker → Prop
  | opens (events : List RawEvent) (saved : Bool) :
      TrackerStep sampleMs tracker (.opens events saved)
        (tracker.persisted (observeOpenEvents tracker.memory events) saved)
  | rows (snapshot : Snapshot) (now : String) (saved : Bool) :
      TrackerStep sampleMs tracker (.rows snapshot now saved)
        (tracker.persisted (observeSnapshot tracker.memory snapshot now) saved)
  | closes (events : List RawEvent) (now : String) :
      TrackerStep sampleMs tracker
        (.closes events now (enrichCloseEvents sampleMs now tracker.memory events).events)
        { tracker with memory := (enrichCloseEvents sampleMs now tracker.memory events).positions }
  | discards (tickets : List String) (saved : Bool) :
      TrackerStep sampleMs tracker (.discards tickets saved)
        (tracker.persisted (discardClosed tracker.memory tickets) saved)
  | restart : TrackerStep sampleMs tracker .restart { tracker with memory := tracker.stored }

/-- The calls lead the tracker from `start` to where it is. -/
inductive Replays (sampleMs : Nat) (start : Tracker) : List TrackerCall → Tracker → Prop
  | start : Replays sampleMs start [] start
  | step {calls : List TrackerCall} {tracker tracker' : Tracker} {call : TrackerCall}
      (before : Replays sampleMs start calls tracker)
      (last : TrackerStep sampleMs tracker call tracker') :
      Replays sampleMs start (calls ++ [call]) tracker'

/-- Every call of a replay was made on what the calls before it had left. -/
theorem Replays.split {sampleMs : Nat} {start tracker : Tracker} {calls : List TrackerCall}
    (h : Replays sampleMs start calls tracker) :
    ∀ {before after : List TrackerCall} {call : TrackerCall}, calls = before ++ call :: after →
      ∃ found left, Replays sampleMs start before found ∧ TrackerStep sampleMs found call left := by
  induction h with
  | start =>
    intro before after call hcalls
    exact absurd hcalls (by simp)
  | @step calls tracker tracker' last hbefore hlast ih =>
    intro before after call hcalls
    rcases List.eq_nil_or_concat after with hafter | ⟨front, final, hafter⟩
    · subst hafter
      obtain ⟨hfront, hfinal⟩ := List.append_inj' hcalls rfl
      subst hfront
      cases hfinal
      exact ⟨tracker, tracker', hbefore, hlast⟩
    · subst hafter
      rw [List.concat_eq_append, ← List.cons_append, ← List.append_assoc] at hcalls
      obtain ⟨hfront, -⟩ := List.append_inj' hcalls rfl
      exact ih hfront

section Programs

variable {sampleMs : Nat} {start : TrackedWorld}

/-- The tracker is where the calls since `start` have led it. -/
def Replaying (sampleMs : Nat) (start : TrackedWorld) (_ : LiveEnv) (world : TrackedWorld) : Prop :=
  ∃ since, world.calls = start.calls ++ since ∧
    Replays sampleMs start.tracker since world.tracker

theorem Replaying.step {env env' : LiveEnv} {world world' : TrackedWorld} {call : TrackerCall}
    (h : Replaying sampleMs start env world) (hcalls : world'.calls = world.calls ++ [call])
    (hstep : TrackerStep sampleMs world.tracker call world'.tracker) :
    Replaying sampleMs start env' world' := by
  obtain ⟨since, hsince, hreplay⟩ := h
  refine ⟨since ++ [call], ?_, hreplay.step hstep⟩
  rw [hcalls, hsince, List.append_assoc]

def KeepsExcursions {α : Type} (p : LiveProgram α) : Prop :=
  ∀ excursions, Preserves (fun _ world => world.excursions = excursions) p

theorem keepsExcursions_bind {α β : Type} {p : LiveProgram α} {f : α → LiveProgram β}
    (first : KeepsExcursions p) (second : ∀ value, KeepsExcursions (f value)) :
    KeepsExcursions (p >>= f) :=
  fun excursions => preserves_bind (first excursions) fun value => second value excursions

theorem keepsExcursions_pure {α : Type} (value : α) : KeepsExcursions (pure value) :=
  fun _ => preserves_pure value

theorem keepsExcursions_raise {α : Type} (error : LiveError) :
    KeepsExcursions (Program.raise error : LiveProgram α) :=
  fun _ => preserves_raise error

theorem keepsExcursions_getWorld : KeepsExcursions Program.getWorld :=
  fun _ => preserves_getWorld

theorem keepsExcursions_write {f : LiveWorld → LiveWorld}
    (hf : ∀ world, (f world).excursions = world.excursions) :
    KeepsExcursions (Program.write LiveEnv.nextSave f) := by
  intro excursions
  apply triple_write
  intro env world hw
  cases env.nextSave.1 with
  | done => exact (hf world).trans hw
  | failed error => exact hw
  | failedLate error => exact (hf world).trans hw
  | crash => exact hw

theorem keepsExcursions_onOutbox {α : Type} (p : OutboxProgram Payload α) :
    KeepsExcursions (onOutbox p) :=
  fun _ _ _ hw => hw

theorem keepsExcursions_drainOutbox : KeepsExcursions drainOutbox := by
  unfold drainOutbox
  apply keepsExcursions_bind keepsExcursions_getWorld
  intro world
  split
  · exact keepsExcursions_pure _
  · apply keepsExcursions_bind (keepsExcursions_onOutbox _)
    intro result
    split
    · exact keepsExcursions_raise _
    · exact keepsExcursions_pure _

theorem keepsExcursions_storeBatch (current : Snapshot) (records : List EventRecord)
    (fresh : List Payload) : KeepsExcursions (storeBatch current records fresh) := by
  have hack : KeepsExcursions (acknowledgeRecords records) := by
    unfold acknowledgeRecords
    apply keepsExcursions_bind keepsExcursions_getWorld
    intro world
    split
    · exact keepsExcursions_pure _
    · split
      · exact keepsExcursions_raise _
      · exact keepsExcursions_write fun _ => rfl
  unfold storeBatch
  apply keepsExcursions_bind (keepsExcursions_onOutbox _)
  intro _
  apply keepsExcursions_bind hack
  intro _
  exact keepsExcursions_write fun _ => rfl

theorem keepsExcursions_finishBatch (fresh : List Payload) (delivered : Nat) :
    KeepsExcursions (finishBatch fresh delivered) := by
  have hadd : KeepsExcursions (addDelivered fresh) := by
    induction fresh with
    | nil => exact keepsExcursions_pure _
    | cons payload rest ih =>
      unfold addDelivered
      exact keepsExcursions_bind (keepsExcursions_write fun _ => rfl) fun _ => ih
  unfold finishBatch
  apply keepsExcursions_bind keepsExcursions_drainOutbox
  intro more
  exact keepsExcursions_bind hadd fun _ => keepsExcursions_pure _

/-- What leaves the file of the tracker alone is no call on the tracker. -/
theorem replaying_onLive {α : Type} {p : LiveProgram α} (hp : KeepsExcursions p) :
    Preserves (Replaying sampleMs start) (onLive p) := by
  intro env world hw
  have hkept := hp world.live.excursions env world.live rfl
  have hsame : (onLive p env world).2.2.tracker = world.tracker :=
    congrArg (Tracker.mk world.memory) hkept
  obtain ⟨since, hsince, hreplay⟩ := hw
  exact ⟨since, hsince, hsame ▸ hreplay⟩

theorem saveExcursions_stored (observed : Observed) (env : LiveEnv) (live : LiveWorld) :
    (saveExcursions observed env live).2.2.excursions =
      if observed.changed && tookEffect env.nextSave.1 then observed.positions
      else live.excursions := by
  unfold saveExcursions
  cases observed.changed with
  | false => rfl
  | true =>
    show (env.nextSave.1.apply _ live).excursions = _
    cases env.nextSave.1 <;> rfl

theorem replaying_method {method : Excursions → Observed} {call : Bool → TrackerCall}
    (hstep : ∀ tracker saved, TrackerStep sampleMs tracker (call saved)
      (tracker.persisted (method tracker.memory) saved)) :
    Preserves (Replaying sampleMs start) (trackerMethod method call) := by
  intro env world hw
  have hstored := saveExcursions_stored (method world.memory) env world.live
  have hlast := hstep world.tracker ((method world.memory).changed && tookEffect env.nextSave.1)
  have hafter : (trackerMethod method call env world).2.2.tracker =
      world.tracker.persisted (method world.memory)
        ((method world.memory).changed && tookEffect env.nextSave.1) :=
    congrArg (Tracker.mk (method world.memory).positions) hstored
  exact hw.step rfl (hafter ▸ hlast)

theorem replaying_closes (events : List RawEvent) (now : String) :
    Preserves (Replaying sampleMs start) (trackCloses sampleMs events now) :=
  fun _ _ hw => hw.step rfl (TrackerStep.closes events now)

theorem replaying_trackReading (digest : Fingerprint → String) (reading : BridgeReading)
    (live : LiveWorld) (delivered : Nat) :
    Preserves (Replaying sampleMs start)
      (trackReading digest sampleMs reading live delivered) := by
  unfold trackReading
  simp only
  split
  next => exact preserves_raise _
  next events _ =>
    apply preserves_bind (replaying_method fun tracker saved => TrackerStep.opens events saved)
    intro _
    apply preserves_bind (replaying_method fun tracker saved => TrackerStep.rows _ _ saved)
    intro _
    apply preserves_bind (replaying_closes events _)
    intro enriched
    split
    next => exact preserves_raise _
    next =>
      apply preserves_bind (replaying_onLive (keepsExcursions_storeBatch _ _ _))
      intro _
      apply preserves_bind (replaying_method fun tracker saved => TrackerStep.discards _ saved)
      intro _
      exact replaying_onLive (keepsExcursions_finishBatch _ _)

theorem replaying_trackedPoll (digest : Fingerprint → String) :
    Preserves (Replaying sampleMs start) (trackedPoll digest sampleMs) := by
  unfold trackedPoll
  apply preserves_bind (replaying_onLive keepsExcursions_drainOutbox)
  intro delivered
  apply preserves_bind preserves_getWorld
  intro world
  split
  · exact preserves_pure _
  · apply preserves_bind (fun _ _ hw => hw)
    intro reading
    exact replaying_trackReading digest reading world.live delivered

theorem replaying_restarted {world : TrackedWorld} (env : LiveEnv)
    (h : Replaying sampleMs start env world) :
    Replaying sampleMs start env (world.restarted env) := by
  have hkept := keepsExcursions_onOutbox reload world.live.excursions env world.live rfl
  have hafter : (world.restarted env).tracker =
      { world.tracker with memory := world.tracker.stored } :=
    congrArg (Tracker.mk world.live.excursions) hkept
  exact h.step rfl (hafter ▸ TrackerStep.restart)

theorem replaying_takeTurn (digest : Fingerprint → String) {env : LiveEnv} {world : TrackedWorld}
    (turn : Turn) (h : Replaying sampleMs start env world) :
    Replaying sampleMs start env (takeTurn digest sampleMs world turn) := by
  cases turn with
  | restart env => exact replaying_restarted env h
  | poll env =>
    have hpoll := replaying_trackedPoll digest env world h
    unfold takeTurn
    simp only
    split
    next env' after hrun =>
      rw [hrun] at hpoll
      exact replaying_restarted env' hpoll
    next after _ hrun =>
      rw [hrun] at hpoll
      exact hpoll

/-- In every run the tracker is where its calls have led it. -/
theorem replaying_turns (digest : Fingerprint → String) (sampleMs : Nat) (turns : List Turn)
    (world : TrackedWorld) :
    ∃ since, (turns.foldl (takeTurn digest sampleMs) world).calls = world.calls ++ since ∧
      Replays sampleMs world.tracker since
        (turns.foldl (takeTurn digest sampleMs) world).tracker := by
  have hfold : ∀ (turns : List Turn) (reached : TrackedWorld),
      Replaying sampleMs world { reading := .crashed } reached →
      Replaying sampleMs world { reading := .crashed }
        (turns.foldl (takeTurn digest sampleMs) reached) := by
    intro turns
    induction turns with
    | nil => exact fun reached h => h
    | cons turn rest ih => exact fun reached h => ih _ (replaying_takeTurn digest turn h)
  exact hfold turns world ⟨[], (List.append_nil _).symm, Replays.start⟩

theorem replays_runTurns (digest : Fingerprint → String) (sampleMs : Nat) (live : LiveWorld)
    (turns : List Turn) :
    Replays sampleMs ⟨live.excursions, live.excursions⟩ (runTurns digest sampleMs live turns).calls
      (runTurns digest sampleMs live turns).tracker := by
  unfold runTurns
  obtain ⟨since, hsince, hreplay⟩ := replaying_turns digest sampleMs turns
    { live := live, memory := live.excursions }
  rw [hsince]
  exact hreplay

theorem runTurns_append (digest : Fingerprint → String) (sampleMs : Nat) (live : LiveWorld)
    (earlier later : List Turn) :
    runTurns digest sampleMs live (earlier ++ later) =
      later.foldl (takeTurn digest sampleMs) (runTurns digest sampleMs live earlier) :=
  List.foldl_append

end Programs

section FreshProcess

variable {α β γ : Type}

theorem bind_assoc_run {ω σ ε : Type} (p : Program ω σ ε α) (f : α → Program ω σ ε β)
    (g : β → Program ω σ ε γ) : p >>= f >>= g = p >>= fun value => f value >>= g := by
  funext env world
  simp only [Program.run_bind]
  rcases p env world with ⟨exit, env', world'⟩
  cases exit <;> rfl

/-- From this memory on, the program does to the stores what `q` does to them. -/
def Mirrors (memory : Excursions) (p : TrackedProgram α) (q : LiveProgram α)
    (left : α → Excursions) : Prop :=
  ∀ env world, world.memory = memory →
    q env world.live = ((p env world).1, (p env world).2.1, (p env world).2.2.live) ∧
      ∀ value, (p env world).1 = .returned value → (p env world).2.2.memory = left value

theorem mirrors_bind {memory : Excursions} {p : TrackedProgram α} {q : LiveProgram α}
    {left : α → Excursions} {f : α → TrackedProgram β} {g : α → LiveProgram β}
    {final : β → Excursions} (first : Mirrors memory p q left)
    (second : ∀ value, Mirrors (left value) (f value) (g value) final) :
    Mirrors memory (p >>= f) (q >>= g) final := by
  intro env world hworld
  obtain ⟨hrun, hleft⟩ := first env world hworld
  simp only [Program.run_bind, hrun]
  rcases hp : p env world with ⟨exit, env', world'⟩
  rw [hp] at hleft
  cases exit with
  | returned value => exact second value env' world' (hleft value rfl)
  | raised error => exact ⟨rfl, fun value h => by cases h⟩
  | crashed => exact ⟨rfl, fun value h => by cases h⟩

theorem mirrors_raise {memory : Excursions} (error : LiveError) {left : α → Excursions} :
    Mirrors memory (Program.raise error) (Program.raise error) left :=
  fun _ _ _ => ⟨rfl, fun value h => by cases h⟩

theorem mirrors_onLive {memory : Excursions} (p : LiveProgram α) :
    Mirrors memory (onLive p) p fun _ => memory := by
  intro env world hworld
  have hexit : ∀ exit : Exit LiveError α, exit.mapError id = exit := by
    intro exit
    cases exit <;> rfl
  refine ⟨?_, fun _ _ => hworld⟩
  show _ = ((p env world.live).1.mapError id, (p env world.live).2.1, (p env world.live).2.2)
  rw [hexit]

theorem mirrors_method {memory : Excursions} {method : Excursions → Observed}
    {call : Bool → TrackerCall} :
    Mirrors memory (trackerMethod method call) (saveExcursions (method memory))
      fun _ => (method memory).positions := by
  intro env world hworld
  subst hworld
  have honLive := mirrors_onLive (saveExcursions (method world.memory)) env
    { world with
      memory := (method world.memory).positions
      calls := world.calls ++
        [call ((method world.memory).changed && tookEffect env.nextSave.1)] } rfl
  exact honLive

theorem deliverBatch_eq (current : Snapshot) (records : List EventRecord) (enriched : Enriched)
    (fresh : List Payload) (delivered : Nat) :
    deliverBatch current records enriched fresh delivered = (do
      storeBatch current records fresh
      saveExcursions (discardClosed enriched.positions enriched.closed)
      finishBatch fresh delivered) := by
  unfold deliverBatch commitBatch storeBatch finishBatch
  simp only [bind_assoc_run]

theorem mirrors_closes {memory : Excursions} {sampleMs : Nat} {events : List RawEvent}
    {now : String} {f : Enriched → TrackedProgram β} {q : LiveProgram β} {left : β → Excursions}
    (h : Mirrors (enrichCloseEvents sampleMs now memory events).positions
      (f (enrichCloseEvents sampleMs now memory events)) q left) :
    Mirrors memory (trackCloses sampleMs events now >>= f) q left := by
  intro env world hworld
  subst hworld
  exact h env
    { world with
      memory := (enrichCloseEvents sampleMs now world.memory events).positions
      calls := world.calls ++
        [.closes events now (enrichCloseEvents sampleMs now world.memory events).events] } rfl

theorem mirrors_trackReading (digest : Fingerprint → String) (sampleMs : Nat)
    (reading : BridgeReading) (start : LiveWorld) (memory : Excursions) (delivered : Nat) :
    ∃ left, Mirrors memory (trackReading digest sampleMs reading start delivered)
      (processReading digest sampleMs reading { start with excursions := memory } delivered)
      left := by
  unfold trackReading processReading
  simp only
  cases prepareEvents start.snapshot reading.snapshot
      (detectBatch (pendingEvents start.checkpoint start.archivedDeals reading.files)
        start.snapshot reading.snapshot) with
  | error error => exact ⟨fun _ => memory, mirrors_raise error⟩
  | ok events =>
    let opened := observeOpenEvents memory events
    let observed := observeSnapshot opened.positions reading.snapshot reading.now
    let enriched := enrichCloseEvents sampleMs reading.now observed.positions events
    refine ⟨fun _ => (discardClosed enriched.positions enriched.closed).positions, ?_⟩
    apply mirrors_bind mirrors_method
    intro _
    apply mirrors_bind mirrors_method
    intro _
    apply mirrors_closes
    show Mirrors enriched.positions _ _ _
    cases normalizeAll digest reading.account reading.now enriched.events with
    | error error => exact mirrors_raise error
    | ok payloads =>
      simp only [deliverBatch_eq]
      apply mirrors_bind (mirrors_onLive _)
      intro _
      apply mirrors_bind mirrors_method
      intro _
      exact mirrors_onLive _

/-- A poll of a process whose memory is what the file of the tracker holds. -/
theorem trackedPoll_live (digest : Fingerprint → String) (sampleMs : Nat) (env : LiveEnv)
    {world : TrackedWorld} (hmemory : world.memory = world.live.excursions) :
    (do
      let delivered ← drainOutbox
      let world ← Program.getWorld
      if world.outbox.state.deadLetter ≠ [] then return delivered
      else do
        let reading ← Program.perform fun env : LiveEnv => (env.reading, env)
        processReading digest sampleMs reading world delivered : LiveProgram Nat) env world.live =
      ((trackedPoll digest sampleMs env world).1, (trackedPoll digest sampleMs env world).2.1,
        (trackedPoll digest sampleMs env world).2.2.live) := by
  have hdrain := (mirrors_onLive drainOutbox env world rfl).1
  have hkept := keepsExcursions_drainOutbox world.live.excursions env world.live rfl
  unfold trackedPoll
  simp only [Program.run_bind]
  rcases hrun : onLive drainOutbox env world with ⟨exit, env₁, after⟩
  rw [hrun] at hdrain
  rw [hdrain] at hkept ⊢
  have hheld : after.memory = world.memory := by
    have hsame : (onLive drainOutbox env world).2.2.memory = world.memory := rfl
    rw [hrun] at hsame
    exact hsame
  cases exit with
  | raised error => rfl
  | crashed => rfl
  | returned delivered =>
    simp only [Program.getWorld]
    split
    next => rfl
    next =>
      simp only [Program.run_bind, Program.perform]
      cases hreading : env₁.reading with
      | raised error => rfl
      | crashed => rfl
      | returned reading =>
        obtain ⟨left, hmirrors⟩ := mirrors_trackReading digest sampleMs reading after.live
          after.memory delivered
        have hstart : { after.live with excursions := after.memory } = after.live := by
          have hsame : after.memory = after.live.excursions := by
            rw [hheld, hmemory]
            exact hkept.symm
          rw [hsame]
        rw [hstart] at hmirrors
        exact (hmirrors env₁ after rfl).1

/-- The first poll of a new process is the poll of an agent that was built on the files. -/
theorem trackedPoll_fresh (digest : Fingerprint → String) (sampleMs : Nat) {env env' : LiveEnv}
    {world : TrackedWorld} {live : LiveWorld}
    (hreload : onOutbox reload env world.live = (.returned (), env', live)) :
    pollOnce digest sampleMs env world.live =
      ((trackedPoll digest sampleMs env' (world.restarted env)).1,
        (trackedPoll digest sampleMs env' (world.restarted env)).2.1,
        (trackedPoll digest sampleMs env' (world.restarted env)).2.2.live) := by
  have hlive : (world.restarted env).live = live := by
    show (onOutbox reload env world.live).2.2 = live
    rw [hreload]
  have hmemory : (world.restarted env).memory = (world.restarted env).live.excursions := by
    have hkept := keepsExcursions_onOutbox reload world.live.excursions env world.live rfl
    exact hkept.symm
  have hpoll := trackedPoll_live digest sampleMs env' hmemory
  rw [hlive] at hpoll
  unfold pollOnce
  rw [Program.run_bind_returned hreload]
  exact hpoll

end FreshProcess

end TradeJournalWorker
