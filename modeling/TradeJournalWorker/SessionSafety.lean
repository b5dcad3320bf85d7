import TradeJournalWorker.SessionOrchestrator
import TradeJournalWorker.StateTriples

namespace TradeJournalWorker

open StateTriples

variable {σ Job Process α : Type}

def SessionEvent.createdJob : SessionEvent Job Process → Option Job
  | .createJob outcome => outcome
  | _ => none

def SessionEvent.tornJob : SessionEvent Job Process → Option Job
  | .teardownJob job _ => some job
  | _ => none

def createdJobs (history : List (SessionEvent Job Process)) : List Job :=
  history.filterMap SessionEvent.createdJob

def tornJobs (history : List (SessionEvent Job Process)) : List Job :=
  history.filterMap SessionEvent.tornJob

/-- The successful calls that `C0Retained` stands for. -/
def c0Calls (job : Job) (root : Process) : List (SessionEvent Job Process) :=
  [.resumeRoot root (some ()), .assignRootToJob job root (some ()),
    .launchSuspendedRoot job (some root), .createJob (some job)]

def c1Calls (job : Job) (root : Process) : List (SessionEvent Job Process) :=
  .verifyRootAlive job root (some true) :: c0Calls job root

def c2Calls (job : Job) (root submitter : Process) : List (SessionEvent Job Process) :=
  .resumeAndAwaitSubmitter job submitter (some ()) ::
    .verifySubmitterSameJob job submitter (some true) ::
    .assignSubmitterToJob job submitter (some ()) ::
    .launchSuspendedSubmitter job (some submitter) :: c1Calls job root

/-- The calls that a state stands for have succeeded. -/
def Supports (older : List (SessionEvent Job Process)) : C012State → Prop
  | .c0Retained => ∃ job root, c0Calls job root ⊆ older
  | .c1Retained => ∃ job root, c1Calls job root ⊆ older
  | .c2Teardown => ∃ job root submitter, c2Calls job root submitter ⊆ older
  | .terminated => ∃ job root submitter,
      .teardownJob job (some ()) :: c2Calls job root submitter ⊆ older
  | _ => True

/-- Every state of the history was entered after the calls that it stands for. -/
def Justified : List (SessionEvent Job Process) → Prop
  | [] => True
  | .entered state :: older => Supports older state ∧ Justified older
  | _ :: older => Justified older

inductive LauncherPhase (Job Process : Type) where
  | fresh
  | idle (job : Job) (tornDown : Bool)
  | pending (job : Job) (process : Process) (tornDown : Bool)

/-- What a launcher keeps true of its world while the orchestrator uses it. A call after the
teardown is answered for only where `late` holds. -/
structure LauncherContract (L : RootProcessLauncher σ Job Process) where
  holds : LauncherPhase Job Process → σ → Prop
  late : Prop
  createJob : ∀ world, holds .fresh world →
    holds ((L.createJob world).1.elim .fresh (.idle · false)) (L.createJob world).2
  launchSuspendedRoot : ∀ job torn world, (torn = true → late) → holds (.idle job torn) world →
    holds ((L.launchSuspendedRoot job world).1.elim (.idle job torn) (.pending job · torn))
      (L.launchSuspendedRoot job world).2
  assignRootToJob : ∀ job root torn world, (torn = true → late) →
    holds (.pending job root torn) world →
    holds (.idle job torn) (L.assignRootToJob job root world).2
  resumeRoot : ∀ job root torn world, (torn = true → late) → holds (.idle job torn) world →
    holds (.idle job torn) (L.resumeRoot root world).2
  verifyRootAlive : ∀ job root torn world, (torn = true → late) → holds (.idle job torn) world →
    holds (.idle job torn) (L.verifyRootAlive job root world).2
  launchSuspendedSubmitter : ∀ job torn world, (torn = true → late) →
    holds (.idle job torn) world →
    holds ((L.launchSuspendedSubmitter job world).1.elim (.idle job torn) (.pending job · torn))
      (L.launchSuspendedSubmitter job world).2
  assignSubmitterToJob : ∀ job submitter torn world, (torn = true → late) →
    holds (.pending job submitter torn) world →
    holds (.idle job torn) (L.assignSubmitterToJob job submitter world).2
  verifySubmitterSameJob : ∀ job submitter torn world, (torn = true → late) →
    holds (.idle job torn) world →
    holds (.idle job torn) (L.verifySubmitterSameJob job submitter world).2
  resumeAndAwaitSubmitter : ∀ job submitter torn world, (torn = true → late) →
    holds (.idle job torn) world →
    holds (.idle job torn) (L.resumeAndAwaitSubmitter job submitter world).2
  teardownJob : ∀ job world, holds (.idle job false) world →
    holds (.idle job true) (L.teardownJob job world).2

/-- The contract that asks nothing of the launcher. -/
def LauncherContract.anyLauncher (L : RootProcessLauncher σ Job Process) : LauncherContract L where
  holds _ _ := True
  late := True
  createJob _ _ := trivial
  launchSuspendedRoot _ _ _ _ _ := trivial
  assignRootToJob _ _ _ _ _ _ := trivial
  resumeRoot _ _ _ _ _ _ := trivial
  verifyRootAlive _ _ _ _ _ _ := trivial
  launchSuspendedSubmitter _ _ _ _ _ := trivial
  assignSubmitterToJob _ _ _ _ _ _ := trivial
  verifySubmitterSameJob _ _ _ _ _ _ := trivial
  resumeAndAwaitSubmitter _ _ _ _ _ _ := trivial
  teardownJob _ _ _ := trivial

def LauncherPhase.resting (job : Option Job) (tornDown : Bool) : LauncherPhase Job Process :=
  match job with
  | none => .fresh
  | some job => .idle job tornDown

/-- The job of the session is the one that it created and tore down. -/
structure Ledger {L : RootProcessLauncher σ Job Process} (C : LauncherContract L)
    (job : Option Job) (attempted : Bool) (phase : LauncherPhase Job Process)
    (s : Orchestrator σ Job Process) : Prop where
  job_eq : s.job = job
  attempted_eq : s.teardownAttempted = attempted
  world : C.holds phase s.launcher
  justified : Justified s.history
  created : createdJobs s.history = job.toList
  torn : tornJobs s.history = if attempted then job.toList else []

/-- A point of a session that is not over. -/
structure SessionPoint {L : RootProcessLauncher σ Job Process} (C : LauncherContract L)
    (state : C012State) (job : Option Job) (root : Option Process) (attempted : Bool)
    (phase : LauncherPhase Job Process) (evidence : List (SessionEvent Job Process))
    (s : Orchestrator σ Job Process) : Prop extends Ledger C job attempted phase s where
  state_eq : s.sequencer.currentState = state
  root_eq : s.root = root
  evidence : evidence ⊆ s.history
  lateTeardown : attempted = true →
    C.late ∧ ∃ torn, job = some torn ∧ .teardownJob torn (some ()) ∈ s.history

def SessionOver {L : RootProcessLauncher σ Job Process} (C : LauncherContract L)
    (s : Orchestrator σ Job Process) : Prop :=
  s.sequencer.currentState.IsTerminal ∧
    ∃ job, Ledger C job job.isSome (.resting job job.isSome) s

inductive Resting {L : RootProcessLauncher σ Job Process} (C : LauncherContract L)
    (s : Orchestrator σ Job Process) : Prop where
  | notStarted (h : SessionPoint C .notStarted none none false .fresh [] s)
  | c0Retained (job : Job) (root : Process) (attempted : Bool)
      (h : SessionPoint C .c0Retained (some job) (some root) attempted (.idle job attempted)
        (c0Calls job root) s)
  | c1Retained (job : Job) (root : Process) (attempted : Bool)
      (h : SessionPoint C .c1Retained (some job) (some root) attempted (.idle job attempted)
        (c1Calls job root) s)
  | ended (h : SessionOver C s)

/-- A call other than the creation and the teardown of a job. -/
def SessionEvent.isPlain : SessionEvent Job Process → Bool
  | .entered _ => false
  | .createJob _ => false
  | .teardownJob _ _ => false
  | _ => true

theorem justified_cons_plain {event : SessionEvent Job Process} (h : event.isPlain = true)
    {older : List (SessionEvent Job Process)} (hj : Justified older) : Justified (event :: older) := by
  cases event <;> first | exact hj | cases h

theorem createdJobs_cons_plain {event : SessionEvent Job Process} (h : event.isPlain = true)
    (older : List (SessionEvent Job Process)) : createdJobs (event :: older) = createdJobs older := by
  cases event <;> first | rfl | cases h

theorem tornJobs_cons_plain {event : SessionEvent Job Process} (h : event.isPlain = true)
    (older : List (SessionEvent Job Process)) : tornJobs (event :: older) = tornJobs older := by
  cases event <;> first | rfl | cases h

@[simp] theorem createdJobs_cons_entered (state : C012State)
    (older : List (SessionEvent Job Process)) :
    createdJobs (.entered state :: older) = createdJobs older := rfl

@[simp] theorem tornJobs_cons_entered (state : C012State)
    (older : List (SessionEvent Job Process)) :
    tornJobs (.entered state :: older) = tornJobs older := rfl

theorem supports_failedClosed (older : List (SessionEvent Job Process)) :
    Supports older .failedClosed := trivial

section Walk

variable {L : RootProcessLauncher σ Job Process} {C : LauncherContract L} {state : C012State}
  {job : Option Job} {root : Option Process} {attempted : Bool}
  {phase : LauncherPhase Job Process} {evidence : List (SessionEvent Job Process)}

theorem SessionPoint.called {s : Orchestrator σ Job Process}
    (h : SessionPoint C state job root attempted phase evidence s)
    {event : SessionEvent Job Process} (hplain : event.isPlain = true)
    {phase' : LauncherPhase Job Process} {world : σ} (hworld : C.holds phase' world) :
    SessionPoint C state job root attempted phase' (event :: evidence)
      { s with launcher := world, history := event :: s.history } := by
  constructor
  · constructor
    · exact h.job_eq
    · exact h.attempted_eq
    · exact hworld
    · exact justified_cons_plain hplain h.justified
    · exact (createdJobs_cons_plain hplain _).trans h.created
    · exact (tornJobs_cons_plain hplain _).trans h.torn
  · exact h.state_eq
  · exact h.root_eq
  · exact List.cons_subset_cons event h.evidence
  · intro ha
    obtain ⟨hlate, torn, hj, hmem⟩ := h.lateTeardown ha
    exact ⟨hlate, torn, hj, List.mem_cons_of_mem _ hmem⟩

theorem SessionPoint.entered {s : Orchestrator σ Job Process}
    (h : SessionPoint C state job root attempted phase evidence s) {next : C012State}
    {sequencer : C012RequestSequencer} (hnext : sequencer.currentState = next)
    (hsupports : Supports s.history next) :
    SessionPoint C next job root attempted phase evidence
      { s with sequencer := sequencer, history := .entered next :: s.history } := by
  constructor
  · constructor
    · exact h.job_eq
    · exact h.attempted_eq
    · exact h.world
    · exact ⟨hsupports, h.justified⟩
    · exact h.created
    · exact h.torn
  · exact hnext
  · exact h.root_eq
  · exact List.Subset.trans h.evidence (List.subset_cons_self _ _)
  · intro ha
    obtain ⟨hlate, torn, hj, hmem⟩ := h.lateTeardown ha
    exact ⟨hlate, torn, hj, List.mem_cons_of_mem _ hmem⟩

theorem SessionPoint.forget {s : Orchestrator σ Job Process} {less : List (SessionEvent Job Process)}
    (h : SessionPoint C state job root attempted phase evidence s) (hless : less ⊆ evidence) :
    SessionPoint C state job root attempted phase less s :=
  { h with evidence := List.Subset.trans hless h.evidence }

theorem ensures_applyInternal {trigger : C012Trigger} (next : C012State)
    (htable : C012StateMachine.apply state trigger = (.accept next, next))
    (hsupports : ∀ older, evidence ⊆ older → Supports older next) :
    Ensures (SessionPoint C state job root attempted phase evidence)
      (Orchestrator.applyInternal trigger)
      (fun result s => result = .accept next ∧
        SessionPoint C next job root attempted phase evidence s) := by
  apply ensures_modifyGet
  intro s h
  have happly := htable
  rw [← h.state_eq] at happly
  have hanswer : s.sequencer.applyInternal trigger =
      (.accept next, { s.sequencer with currentState := next }) := by
    simp [C012RequestSequencer.applyInternal, happly]
  rw [hanswer]
  exact ⟨rfl, h.entered rfl (hsupports _ h.evidence)⟩

theorem ensures_advance {β : Type} {trigger : C012Trigger} (next : C012State)
    {f : C012TransitionResult → Orchestrator.Action σ Job Process β}
    {post : β → Orchestrator σ Job Process → Prop}
    (htable : C012StateMachine.apply state trigger = (.accept next, next))
    (hsupports : ∀ older, evidence ⊆ older → Supports older next)
    (hnext : Ensures (SessionPoint C next job root attempted phase evidence)
      (f (.accept next)) post) :
    Ensures (SessionPoint C state job root attempted phase evidence)
      (Orchestrator.applyInternal trigger >>= f) post := by
  refine ensures_bind _ (ensures_applyInternal next htable hsupports) ?_
  intro result s ⟨hresult, h⟩
  rw [hresult]
  exact hnext s h

theorem returns_state {α τ : Type} (value : α) (s : τ) :
    (StateT.pure value : StateT τ Id α) s = (value, s) := rfl

theorem tryTeardown_done {s : Orchestrator σ Job Process}
    (h : s.job = none ∨ s.teardownAttempted = true) :
    (Orchestrator.tryTeardownReporting L).run s = (true, s) := by
  show (Orchestrator.tryTeardownReporting L) s = _
  unfold Orchestrator.tryTeardownReporting
  cases hj : s.job with
  | none => simp [bind, StateT.bind, get, getThe, MonadStateOf.get, StateT.get, hj, pure, returns_state]
  | some torn =>
    have ha : s.teardownAttempted = true := by simpa [hj] using h
    simp [bind, StateT.bind, get, getThe, MonadStateOf.get, StateT.get, hj, ha, pure, returns_state]

/-- The session after its teardown was invoked. -/
def Orchestrator.tornDown (L : RootProcessLauncher σ Job Process) (torn : Job)
    (s : Orchestrator σ Job Process) : Orchestrator σ Job Process :=
  { s with
    teardownAttempted := true
    launcher := (L.teardownJob torn s.launcher).2
    history := .teardownJob torn (L.teardownJob torn s.launcher).1 :: s.history }

theorem tryTeardown_invoked {s : Orchestrator σ Job Process} {torn : Job} (hj : s.job = some torn)
    (ha : s.teardownAttempted = false) :
    (Orchestrator.tryTeardownReporting L).run s =
      ((L.teardownJob torn s.launcher).1.isSome, s.tornDown L torn) := by
  show (Orchestrator.tryTeardownReporting L) s = _
  unfold Orchestrator.tryTeardownReporting
  simp only [bind, StateT.bind, get, getThe, MonadStateOf.get, StateT.get, hj, ha, pure]
  rfl

theorem Ledger.tornDown {s : Orchestrator σ Job Process} {torn : Job}
    (h : Ledger C (some torn) false (.idle torn false) s) :
    Ledger C (some torn) true (.idle torn true) (s.tornDown L torn) := by
  constructor
  · exact h.job_eq
  · rfl
  · exact C.teardownJob torn _ h.world
  · exact h.justified
  · exact h.created
  · show torn :: tornJobs s.history = [torn]
    rw [h.torn]
    rfl

/-- The teardown leaves a ledger of a job that has been torn down once. -/
theorem ensures_tryTeardown (K : C012RequestSequencer → Prop)
    (hjob : job = none → attempted = false) :
    Ensures
      (fun s : Orchestrator σ Job Process =>
        Ledger C job attempted (.resting job attempted) s ∧ K s.sequencer)
      (Orchestrator.tryTeardownReporting L)
      (fun _ s => Ledger C job job.isSome (.resting job job.isSome) s ∧ K s.sequencer) := by
  intro s ⟨h, hk⟩
  cases hj : job with
  | none =>
    subst hj
    have ha := hjob rfl
    subst ha
    rw [tryTeardown_done (.inl h.job_eq)]
    exact ⟨h, hk⟩
  | some torn =>
    subst hj
    cases ha : attempted with
    | true =>
      subst ha
      rw [tryTeardown_done (.inr h.attempted_eq)]
      exact ⟨h, hk⟩
    | false =>
      subst ha
      rw [tryTeardown_invoked h.job_eq h.attempted_eq]
      exact ⟨h.tornDown, hk⟩

theorem Ledger.failed {s : Orchestrator σ Job Process}
    (h : Ledger C job attempted phase s) (hstate : ¬ s.sequencer.currentState.IsTerminal)
    {trigger : C012Trigger} (hfailure : trigger.isFailure = true) :
    Ledger C job attempted phase ((Orchestrator.applyInternal trigger).run s : _ × _).2 ∧
      ((Orchestrator.applyInternal trigger).run s : _ × _).2.sequencer.currentState =
        .failedClosed := by
  have happly := C012StateMachine.apply_failure hfailure hstate
  have hrun : ((Orchestrator.applyInternal trigger).run s : _ × _).2 =
      { s with
        sequencer := { s.sequencer with currentState := .failedClosed }
        history := .entered .failedClosed :: s.history } := by
    show (Orchestrator.answered (s.sequencer.applyInternal trigger) s).2 = _
    simp [Orchestrator.answered, C012RequestSequencer.applyInternal, happly,
      C012TransitionResult.accept]
  rw [hrun]
  refine ⟨?_, rfl⟩
  constructor
  · exact h.job_eq
  · exact h.attempted_eq
  · exact h.world
  · exact ⟨trivial, h.justified⟩
  · exact h.created
  · exact h.torn

/-- Every failure ends the session with its teardown. -/
theorem ensures_failed {trigger : C012Trigger} (hfailure : trigger.isFailure = true)
    (hjob : job = none → attempted = false) (result : α) :
    Ensures
      (fun s : Orchestrator σ Job Process =>
        Ledger C job attempted (.resting job attempted) s ∧
          ¬ s.sequencer.currentState.IsTerminal)
      (do
        let _ ← Orchestrator.applyInternal trigger
        let _ ← Orchestrator.tryTeardownReporting L
        pure result)
      (fun _ s => SessionOver C s) := by
  refine ensures_bind (fun _ s => Ledger C job attempted (.resting job attempted) s ∧
    s.sequencer.currentState = .failedClosed) ?_ ?_
  · intro s ⟨h, hstate⟩
    exact h.failed hstate hfailure
  · intro _
    refine ensures_bind (fun _ s => Ledger C job job.isSome (.resting job job.isSome) s ∧
      s.sequencer.currentState = .failedClosed) ?_ ?_
    · exact ensures_tryTeardown (fun sequencer => sequencer.currentState = .failedClosed) hjob
    · intro _ s ⟨h, hstate⟩
      refine ⟨?_, job, h⟩
      show s.sequencer.currentState.IsTerminal
      rw [hstate]
      decide

theorem SessionPoint.lateJob {s : Orchestrator σ Job Process}
    (h : SessionPoint C state job root attempted phase evidence s) :
    job = none → attempted = false := by
  intro hj
  cases ha : attempted with
  | false => rfl
  | true =>
    obtain ⟨_, torn, hsome, _⟩ := h.lateTeardown ha
    rw [hj] at hsome
    cases hsome

theorem ensures_failOperation (hstate : ¬ state.IsTerminal)
    (hphase : phase = .resting job attempted) :
    Ensures (SessionPoint C state job root attempted phase evidence)
      (Orchestrator.failOperation L) (fun _ s => SessionOver C s) := by
  intro s h
  have hjob := h.lateJob
  refine ensures_failed (by rfl) hjob _ s ⟨?_, ?_⟩
  · rw [← hphase]
    exact h.toLedger
  · rw [h.state_eq]
    exact hstate

theorem ensures_failRootDied (hstate : ¬ state.IsTerminal)
    (hphase : phase = .resting job attempted) :
    Ensures (SessionPoint C state job root attempted phase evidence)
      (Orchestrator.failRootDied L) (fun _ s => SessionOver C s) := by
  intro s h
  have hjob := h.lateJob
  refine ensures_failed (by rfl) hjob _ s ⟨?_, ?_⟩
  · rw [← hphase]
    exact h.toLedger
  · rw [h.state_eq]
    exact hstate

/-- A call either goes on from the phase that its outcome leaves or ends the session. -/
theorem ensures_attempt {event : Option α → SessionEvent Job Process}
    {operation : LauncherCall σ α}
    {next : α → Orchestrator.Action σ Job Process C012TransitionResult}
    (after : Option α → LauncherPhase Job Process)
    (hplain : ∀ outcome, (event outcome).isPlain = true)
    (hworld : ∀ world, (attempted = true → C.late) → C.holds phase world →
      C.holds (after (operation world).1) (operation world).2)
    (hstate : ¬ state.IsTerminal) (hthrew : after none = .resting job attempted)
    (hnext : ∀ value, Ensures
      (SessionPoint C state job root attempted (after (some value))
        (event (some value) :: evidence)) (next value) (fun _ s => Resting C s)) :
    Ensures (SessionPoint C state job root attempted phase evidence)
      (Orchestrator.attempt L event operation next) (fun _ s => Resting C s) := by
  refine ensures_bind (fun outcome =>
    SessionPoint C state job root attempted (after outcome) (event outcome :: evidence)) ?_ ?_
  · apply ensures_modifyGet
    intro s h
    have hlate : attempted = true → C.late := fun ha => (h.lateTeardown ha).1
    exact h.called (hplain _) (hworld _ hlate h.world)
  · intro outcome
    cases outcome with
    | none => exact (ensures_failOperation hstate hthrew).weaken (fun _ h => h) (fun _ _ => .ended)
    | some value => exact hnext value

/-- The created job is the one that the session keeps. -/
theorem SessionPoint.jobCreated {s : Orchestrator σ Job Process}
    (h : SessionPoint C .c0JobCreating none none false .fresh [] s) :
    match (L.createJob s.launcher).1 with
    | none => SessionPoint C .c0JobCreating none none false .fresh []
        { s with
          launcher := (L.createJob s.launcher).2
          history := .createJob none :: s.history }
    | some created => SessionPoint C .c0JobCreating (some created) none false (.idle created false)
        [.createJob (some created)]
        { s with
          launcher := (L.createJob s.launcher).2
          history := .createJob (some created) :: s.history
          job := some created } := by
  have hworld := C.createJob s.launcher h.world
  cases hout : (L.createJob s.launcher).1 with
  | none =>
    rw [hout] at hworld
    constructor
    · exact ⟨h.job_eq, h.attempted_eq, hworld, h.justified, h.created, h.torn⟩
    · exact h.state_eq
    · exact h.root_eq
    · exact List.nil_subset _
    · intro ha
      cases ha
  | some created =>
    rw [hout] at hworld
    have hcreated : createdJobs s.history = [] := h.created
    constructor
    · refine ⟨rfl, h.attempted_eq, hworld, h.justified, ?_, h.torn⟩
      show created :: createdJobs s.history = [created]
      rw [hcreated]
    · exact h.state_eq
    · exact h.root_eq
    · exact List.cons_subset_cons _ (List.nil_subset _)
    · intro ha
      cases ha

theorem SessionPoint.keepRoot {s : Orchestrator σ Job Process}
    (h : SessionPoint C state job root attempted phase evidence s) (kept : Process) :
    SessionPoint C state job (some kept) attempted phase evidence { s with root := some kept } :=
  ⟨⟨h.job_eq, h.attempted_eq, h.world, h.justified, h.created, h.torn⟩, h.state_eq, rfl,
    h.evidence, h.lateTeardown⟩

theorem ensures_runC0 :
    Ensures (SessionPoint C .c0JobCreating none none false .fresh [])
      (Orchestrator.runC0 L) (fun _ s => Resting C s) := by
  refine ensures_bind (fun outcome s => match outcome with
    | none => SessionPoint C .c0JobCreating none none false .fresh [] s
    | some created => SessionPoint C .c0JobCreating (some created) none false
        (.idle created false) [.createJob (some created)] { s with job := some created }) ?_ ?_
  · apply ensures_modifyGet
    intro s h
    have hcreated := h.jobCreated
    dsimp only
    cases hout : (L.createJob s.launcher).1 with
    | none =>
      rw [hout] at hcreated
      exact hcreated
    | some created =>
      rw [hout] at hcreated
      exact hcreated
  · intro outcome
    cases outcome with
    | none =>
      have hfailed : Ensures (SessionPoint C .c0JobCreating none none false .fresh [])
          (Orchestrator.failOperation L) (fun _ s => SessionOver C s) :=
        ensures_failOperation (by decide) rfl
      exact hfailed.weaken (fun _ h => h) (fun _ _ => .ended)
    | some created =>
      refine ensures_bind (fun _ => SessionPoint C .c0JobCreating (some created) none false
        (.idle created false) [.createJob (some created)]) ?_ ?_
      · apply ensures_modify
        intro s h
        exact h
      · intro _
        refine ensures_advance .c0RootLaunching (by decide) (fun _ _ => trivial) ?_
        refine ensures_attempt
          (fun out => out.elim (.idle created false) (.pending created · false))
          (fun _ => rfl) (C.launchSuspendedRoot created false) (by decide) rfl ?_
        intro launched
        refine ensures_attempt (fun _ => .idle created false) (fun _ => rfl)
          (C.assignRootToJob created launched false) (by decide) rfl ?_
        intro _
        refine ensures_attempt (fun _ => .idle created false) (fun _ => rfl)
          (C.resumeRoot created launched false) (by decide) rfl ?_
        intro _
        refine ensures_bind (fun _ => SessionPoint C .c0RootLaunching (some created)
          (some launched) false (.idle created false) (c0Calls created launched)) ?_ ?_
        · apply ensures_modify
          intro s h
          exact h.keepRoot launched
        · intro _
          refine Ensures.weaken (ensures_applyInternal .c0Retained (by decide)
            (fun older hsub => ⟨created, launched, hsub⟩)) (fun _ h => h) ?_
          intro _ s ⟨_, h⟩
          exact .c0Retained created launched false h

theorem ensures_runC1 {created : Job} {launched : Process} {torn : Bool} :
    Ensures
      (SessionPoint C .c1DiscoveryRunning (some created) (some launched) torn
        (.idle created torn) (c0Calls created launched))
      (Orchestrator.runC1 L) (fun _ s => Resting C s) := by
  apply ensures_read
  intro start hstart
  rw [hstart.job_eq, hstart.root_eq]
  refine ensures_attempt (fun _ => .idle created torn) (fun _ => rfl)
    (C.verifyRootAlive created launched torn) (by decide) rfl ?_
  intro alive
  cases alive with
  | false =>
    exact (ensures_failRootDied (by decide) rfl).weaken (fun _ h => h) (fun _ _ => .ended)
  | true =>
    refine Ensures.weaken (ensures_applyInternal .c1Retained (by decide)
      (fun older hsub => ⟨created, launched, hsub⟩)) (fun _ h => h) ?_
    intro _ s ⟨_, h⟩
    exact .c1Retained created launched torn h

/-- After the login window only the teardown is left. -/
theorem ensures_teardownComplete {created : Job} {launched submitter : Process} {torn : Bool} :
    Ensures
      (SessionPoint C .c2Teardown (some created) (some launched) torn (.idle created torn)
        (c2Calls created launched submitter))
      (Orchestrator.tryTeardownReporting L >>= fun done =>
        if done then Orchestrator.applyInternal .c2TeardownComplete
        else Orchestrator.failOperation L)
      (fun _ s => SessionOver C s) := by
  refine ensures_bind (fun done s =>
    (Ledger C (some created) true (.idle created true) s ∧
      s.sequencer.currentState = .c2Teardown) ∧
    (done = true → .teardownJob created (some ()) :: c2Calls created launched submitter ⊆
      s.history)) ?_ ?_
  · intro s h
    cases torn with
    | true =>
      obtain ⟨_, job, hjob, hmem⟩ := h.lateTeardown rfl
      cases hjob
      rw [tryTeardown_done (.inr h.attempted_eq)]
      exact ⟨⟨h.toLedger, h.state_eq⟩, fun _ => List.cons_subset.mpr ⟨hmem, h.evidence⟩⟩
    | false =>
      rw [tryTeardown_invoked h.job_eq h.attempted_eq]
      refine ⟨⟨h.toLedger.tornDown, h.state_eq⟩, ?_⟩
      intro hdone
      obtain ⟨⟨⟩, hout⟩ := Option.isSome_iff_exists.mp hdone
      show _ ⊆ SessionEvent.teardownJob created (L.teardownJob created s.launcher).1 :: s.history
      rw [hout]
      exact List.cons_subset_cons _ h.evidence
  · intro done
    cases done with
    | false =>
      have hfailed : Ensures
          (fun s => Ledger C (some created) true (.resting (some created) true) s ∧
            ¬ s.sequencer.currentState.IsTerminal)
          (Orchestrator.failOperation L) (fun _ s => SessionOver C s) :=
        ensures_failed rfl (by intro h; cases h) _
      intro s ⟨⟨h, hstate⟩, _⟩
      refine hfailed s ⟨h, ?_⟩
      rw [hstate]
      decide
    | true =>
      apply ensures_modifyGet
      intro s ⟨⟨h, hstate⟩, hcalls⟩
      have happly : C012StateMachine.apply s.sequencer.currentState .c2TeardownComplete =
          (.accept .terminated, .terminated) := by
        rw [hstate]
        decide
      have hanswer : s.sequencer.applyInternal .c2TeardownComplete =
          (.accept .terminated, { s.sequencer with currentState := .terminated }) := by
        simp [C012RequestSequencer.applyInternal, happly]
      rw [hanswer]
      have hterminal : C012State.IsTerminal .terminated := by decide
      refine ⟨hterminal, some created, h.job_eq, h.attempted_eq, h.world, ?_, h.created, h.torn⟩
      exact ⟨⟨created, launched, submitter, hcalls rfl⟩, h.justified⟩

theorem ensures_runC2 {created : Job} {launched : Process} {torn : Bool} :
    Ensures
      (SessionPoint C .c2Submitting (some created) (some launched) torn
        (.idle created torn) (c1Calls created launched))
      (Orchestrator.runC2 L) (fun _ s => Resting C s) := by
  apply ensures_read
  intro start hstart
  rw [hstart.job_eq, hstart.root_eq]
  refine ensures_attempt (fun out => out.elim (.idle created torn) (.pending created · torn))
    (fun _ => rfl) (C.launchSuspendedSubmitter created torn) (by decide) rfl ?_
  intro submitter
  refine ensures_attempt (fun _ => .idle created torn) (fun _ => rfl)
    (C.assignSubmitterToJob created submitter torn) (by decide) rfl ?_
  intro _
  refine ensures_attempt (fun _ => .idle created torn) (fun _ => rfl)
    (C.verifySubmitterSameJob created submitter torn) (by decide) rfl ?_
  intro sameJob
  cases sameJob with
  | false =>
    exact (ensures_failOperation (by decide) rfl).weaken (fun _ h => h) (fun _ _ => .ended)
  | true =>
    refine ensures_advance .c2LoginWindow (by decide) (fun _ _ => trivial) ?_
    refine ensures_attempt (fun _ => .idle created torn) (fun _ => rfl)
      (C.resumeAndAwaitSubmitter created submitter torn) (by decide) rfl ?_
    intro _
    refine ensures_advance .c2Teardown (by decide)
      (fun older hsub => ⟨created, launched, submitter, hsub⟩) ?_
    exact ensures_teardownComplete.weaken (fun _ h => h) (fun _ _ => .ended)

theorem gate_rejected {s : Orchestrator σ Job Process} {request : C012RequestEnvelope}
    (h : (s.sequencer.apply request).1.accepted = false) :
    (Orchestrator.apply L request).run s = ((s.sequencer.apply request).1, s) := by
  obtain ⟨reason, hrejected⟩ | ⟨_, _, _, _, _, _, _, haccepted⟩ :=
    C012RequestSequencer.apply_cases s.sequencer request
  · show (Orchestrator.gate request >>= _) s = _
    simp [bind, StateT.bind, Orchestrator.gate, modifyGet, MonadStateOf.modifyGet,
      StateT.modifyGet, Orchestrator.answered, hrejected, C012TransitionResult.reject, pure,
      returns_state]
  · rw [haccepted] at h
    cases h

/-- The command that a client's trigger starts. -/
def Orchestrator.command (L : RootProcessLauncher σ Job Process) (trigger : C012Trigger) :
    Orchestrator.Action σ Job Process C012TransitionResult :=
  match trigger with
  | .beginC0 => Orchestrator.runC0 L
  | .beginC1 => Orchestrator.runC1 L
  | _ => Orchestrator.runC2 L

def Orchestrator.gated (next : C012State) (sequence : Int) (s : Orchestrator σ Job Process) :
    Orchestrator σ Job Process :=
  { s with
    sequencer :=
      { s.sequencer with currentState := next, lastAcceptedSequence := sequence }
    history := .entered next :: s.history }

theorem gate_accepted {s : Orchestrator σ Job Process} {request : C012RequestEnvelope}
    {trigger : C012Trigger} {next : C012State}
    (hmap : C012RequestSequencer.mapToTrigger request = some trigger)
    (haccepted : s.sequencer.apply request = (.accept next, { s.sequencer with
      currentState := next, lastAcceptedSequence := request.sequenceNumber })) :
    (Orchestrator.apply L request).run s =
      (Orchestrator.command L trigger).run (s.gated next request.sequenceNumber) := by
  have hgate : (Orchestrator.gate request).run s =
      (.accept next, s.gated next request.sequenceNumber) := by
    show Orchestrator.gate request s = _
    simp [Orchestrator.gate, modifyGet, MonadStateOf.modifyGet, StateT.modifyGet,
      Orchestrator.answered, haccepted, C012TransitionResult.accept, Orchestrator.gated, pure]
  have htrigger : (request.control = .c0 ∧ request.requestType = .start ∧ trigger = .beginC0) ∨
      (request.control = .c1 ∧ request.requestType = .query ∧ trigger = .beginC1) ∨
      (request.control = .c2 ∧ request.requestType = .submitConfig ∧ trigger = .beginC2) := by
    unfold C012RequestSequencer.mapToTrigger at hmap
    split at hmap
    next hcontrol htype => exact .inl ⟨hcontrol, htype, (Option.some.inj hmap).symm⟩
    next hcontrol htype => exact .inr (.inl ⟨hcontrol, htype, (Option.some.inj hmap).symm⟩)
    next hcontrol htype => exact .inr (.inr ⟨hcontrol, htype, (Option.some.inj hmap).symm⟩)
    next => cases hmap
  unfold Orchestrator.apply
  rw [StateT.run_bind, hgate]
  obtain ⟨hcontrol, htype, rfl⟩ | ⟨hcontrol, htype, rfl⟩ | ⟨hcontrol, htype, rfl⟩ := htrigger <;>
    rw [hcontrol, htype] <;> rfl

theorem Resting.of_notStarted {s : Orchestrator σ Job Process} (h : Resting C s)
    (hstate : s.sequencer.currentState = .notStarted) :
    SessionPoint C .notStarted none none false .fresh [] s := by
  cases h with
  | notStarted h => exact h
  | c0Retained job root attempted h => cases h.state_eq.symm.trans hstate
  | c1Retained job root attempted h => cases h.state_eq.symm.trans hstate
  | ended h => exact absurd (hstate ▸ h.1) (by decide)

theorem Resting.of_c0Retained {s : Orchestrator σ Job Process} (h : Resting C s)
    (hstate : s.sequencer.currentState = .c0Retained) :
    ∃ job root attempted, SessionPoint C .c0Retained (some job) (some root) attempted
      (.idle job attempted) (c0Calls job root) s := by
  cases h with
  | notStarted h => cases h.state_eq.symm.trans hstate
  | c0Retained job root attempted h => exact ⟨job, root, attempted, h⟩
  | c1Retained job root attempted h => cases h.state_eq.symm.trans hstate
  | ended h => exact absurd (hstate ▸ h.1) (by decide)

theorem Resting.of_c1Retained {s : Orchestrator σ Job Process} (h : Resting C s)
    (hstate : s.sequencer.currentState = .c1Retained) :
    ∃ job root attempted, SessionPoint C .c1Retained (some job) (some root) attempted
      (.idle job attempted) (c1Calls job root) s := by
  cases h with
  | notStarted h => cases h.state_eq.symm.trans hstate
  | c0Retained job root attempted h => cases h.state_eq.symm.trans hstate
  | c1Retained job root attempted h => exact ⟨job, root, attempted, h⟩
  | ended h => exact absurd (hstate ▸ h.1) (by decide)

theorem SessionPoint.gated {s : Orchestrator σ Job Process}
    (h : SessionPoint C state job root attempted phase evidence s) (next : C012State)
    (hsupports : ∀ older : List (SessionEvent Job Process), Supports older next)
    (sequence : Int) :
    SessionPoint C next job root attempted phase evidence (s.gated next sequence) :=
  h.entered rfl (hsupports _)

/-- Every request leaves the session at rest or over. -/
theorem ensures_apply (request : C012RequestEnvelope) :
    Ensures (Resting C) (Orchestrator.apply L request) (fun _ s => Resting C s) := by
  intro s h
  obtain ⟨reason, hrejected⟩ | ⟨trigger, next, _, _, hmap, htable, _, haccepted⟩ :=
    C012RequestSequencer.apply_cases s.sequencer request
  · rw [gate_rejected (by rw [hrejected]; rfl)]
    exact h
  · rw [gate_accepted hmap haccepted]
    obtain ⟨htrigger, hstate, hnext⟩ | ⟨htrigger, hstate, hnext⟩ | ⟨htrigger, hstate, hnext⟩ :=
      C012StateMachine.table_client htable (C012RequestSequencer.mapToTrigger_client hmap)
    · subst htrigger hnext
      exact ensures_runC0 _ ((h.of_notStarted hstate).gated .c0JobCreating (fun _ => trivial) _)
    · subst htrigger hnext
      obtain ⟨job, root, attempted, hpoint⟩ := h.of_c0Retained hstate
      exact ensures_runC1 _ (hpoint.gated .c1DiscoveryRunning (fun _ => trivial) _)
    · subst htrigger hnext
      obtain ⟨job, root, attempted, hpoint⟩ := h.of_c1Retained hstate
      exact ensures_runC2 _ (hpoint.gated .c2Submitting (fun _ => trivial) _)

/-- The teardown of a created job is still to come, and it will throw. -/
def TeardownThrows (L : RootProcessLauncher σ Job Process) (s : Orchestrator σ Job Process) : Prop :=
  ∃ job, s.job = some job ∧ s.teardownAttempted = false ∧ (L.teardownJob job s.launcher).1 = none

/-- A host call with a failure, with a trigger that it refuses, or, where calls after the
teardown are answered for, with a teardown that returns. -/
def HostMay (C : LauncherContract L) (s : Orchestrator σ Job Process) : SessionInput → Prop
  | .request _ => True
  | .failFromHost trigger => trigger.isFailure = true ∨ trigger.isClientOriginated = true ∨
      (C.late ∧ ¬ TeardownThrows L s)

theorem apply_progress {trigger : C012Trigger} (hclient : trigger.isClientOriginated = false)
    (hfailure : trigger.isFailure = false)
    (hstate : state = .notStarted ∨ state = .c0Retained ∨ state = .c1Retained) :
    C012StateMachine.apply state trigger = (.reject state .illegalTransition, state) := by
  obtain rfl | rfl | rfl := hstate <;> revert hclient hfailure <;> cases trigger <;> decide

theorem SessionPoint.refused {s : Orchestrator σ Job Process}
    (h : SessionPoint C state job root attempted phase evidence s) {trigger : C012Trigger}
    {reason : C012RejectionReason}
    (hrejected : C012StateMachine.apply state trigger = (.reject state reason, state)) :
    (Orchestrator.applyInternal trigger).run s = (.reject state reason, s) := by
  have hstate := h.state_eq
  subst hstate
  show Orchestrator.answered (s.sequencer.applyInternal trigger) s = _
  simp [Orchestrator.answered, C012RequestSequencer.applyInternal, hrejected,
    C012TransitionResult.reject]

/-- A teardown that returns leaves a session at rest where it was. -/
theorem SessionPoint.tornDown {s : Orchestrator σ Job Process} {created : Job}
    (h : SessionPoint C state (some created) root attempted (.idle created attempted) evidence s)
    (hlate : C.late) (hreturns : ¬ TeardownThrows L s) :
    ∃ torn, SessionPoint C state (some created) root torn (.idle created torn) evidence
      ((Orchestrator.tryTeardownReporting L).run s : _ × _).2 := by
  cases attempted with
  | true =>
    rw [tryTeardown_done (.inr h.attempted_eq)]
    exact ⟨true, h⟩
  | false =>
    rw [tryTeardown_invoked h.job_eq h.attempted_eq]
    cases hout : (L.teardownJob created s.launcher).1 with
    | none => exact absurd ⟨created, h.job_eq, h.attempted_eq, hout⟩ hreturns
    | some done =>
      refine ⟨true, h.toLedger.tornDown, h.state_eq, h.root_eq, ?_, ?_⟩
      · exact List.Subset.trans h.evidence (List.subset_cons_self _ _)
      · intro _
        refine ⟨hlate, created, rfl, ?_⟩
        show _ ∈ SessionEvent.teardownJob created (L.teardownJob created s.launcher).1 :: s.history
        rw [hout]
        exact List.mem_cons_self

theorem SessionOver.refused {s : Orchestrator σ Job Process} (h : SessionOver C s)
    (trigger : C012Trigger) :
    ((Orchestrator.applyInternal trigger).run s : _ × _).2 = s := by
  have hrejected := C012StateMachine.apply_terminal h.1 trigger
  show (Orchestrator.answered (s.sequencer.applyInternal trigger) s).2 = _
  simp [Orchestrator.answered, C012RequestSequencer.applyInternal, hrejected,
    C012TransitionResult.reject]

theorem SessionOver.keepsTornDown {s : Orchestrator σ Job Process} (h : SessionOver C s) :
    (Orchestrator.tryTeardownReporting L).run s = (true, s) := by
  obtain ⟨_, job, hledger⟩ := h
  cases job with
  | none => exact tryTeardown_done (.inl hledger.job_eq)
  | some torn => exact tryTeardown_done (.inr hledger.attempted_eq)

theorem failFromHost_run (trigger : C012Trigger) (s : Orchestrator σ Job Process) :
    ((Orchestrator.failFromHost L trigger).run s : _ × _).2 =
      if trigger.isClientOriginated then s
      else ((Orchestrator.tryTeardownReporting L).run
        ((Orchestrator.applyInternal trigger).run s : _ × _).2 : _ × _).2 := by
  unfold Orchestrator.failFromHost
  split
  next => rfl
  next => rfl

theorem resting_failFromHost {s : Orchestrator σ Job Process} {trigger : C012Trigger}
    (h : Resting C s) (hmay : HostMay C s (.failFromHost trigger)) :
    Resting C ((Orchestrator.failFromHost L trigger).run s : _ × _).2 := by
  rw [failFromHost_run]
  cases hclient : trigger.isClientOriginated with
  | true => exact h
  | false =>
    simp only [Bool.false_eq_true, ↓reduceIte]
    cases hfailure : trigger.isFailure with
    | true =>
      cases h with
      | notStarted h =>
        exact .ended (ensures_failed hfailure h.lateJob true s
          ⟨h.toLedger, by rw [h.state_eq]; decide⟩)
      | c0Retained job root attempted h =>
        exact .ended (ensures_failed hfailure h.lateJob true s
          ⟨h.toLedger, by rw [h.state_eq]; decide⟩)
      | c1Retained job root attempted h =>
        exact .ended (ensures_failed hfailure h.lateJob true s
          ⟨h.toLedger, by rw [h.state_eq]; decide⟩)
      | ended h =>
        rw [h.refused, h.keepsTornDown]
        exact .ended h
    | false =>
      have hprogress : C.late ∧ ¬ TeardownThrows L s := by
        obtain h | h | h := hmay
        · rw [hfailure] at h
          cases h
        · rw [hclient] at h
          cases h
        · exact h
      cases h with
      | notStarted h =>
        rw [h.refused (apply_progress hclient hfailure (.inl rfl)),
          tryTeardown_done (.inl h.job_eq)]
        exact .notStarted h
      | c0Retained job root attempted h =>
        rw [h.refused (apply_progress hclient hfailure (.inr (.inl rfl)))]
        obtain ⟨torn, htorn⟩ := h.tornDown hprogress.1 hprogress.2
        exact .c0Retained job root torn htorn
      | c1Retained job root attempted h =>
        rw [h.refused (apply_progress hclient hfailure (.inr (.inr rfl)))]
        obtain ⟨torn, htorn⟩ := h.tornDown hprogress.1 hprogress.2
        exact .c1Retained job root torn htorn
      | ended h =>
        rw [h.refused, h.keepsTornDown]
        exact .ended h

theorem Ledger.drift {s : Orchestrator σ Job Process} (h : Ledger C job attempted phase s)
    {world : σ} (hworld : C.holds phase world) :
    Ledger C job attempted phase { s with launcher := world } :=
  ⟨h.job_eq, h.attempted_eq, hworld, h.justified, h.created, h.torn⟩

theorem SessionPoint.drift {s : Orchestrator σ Job Process}
    (h : SessionPoint C state job root attempted phase evidence s) {world : σ}
    (hworld : C.holds phase world) :
    SessionPoint C state job root attempted phase evidence { s with launcher := world } :=
  ⟨h.toLedger.drift hworld, h.state_eq, h.root_eq, h.evidence, h.lateTeardown⟩

theorem Resting.drift {s : Orchestrator σ Job Process} (h : Resting C s) {world : σ}
    (hworld : ∀ job torn, C.holds (.resting job torn) s.launcher →
      C.holds (.resting job torn) world) :
    Resting C { s with launcher := world } := by
  cases h with
  | notStarted h => exact .notStarted (h.drift (hworld none false h.world))
  | c0Retained job root attempted h =>
    exact .c0Retained job root attempted (h.drift (hworld (some job) attempted h.world))
  | c1Retained job root attempted h =>
    exact .c1Retained job root attempted (h.drift (hworld (some job) attempted h.world))
  | ended h =>
    obtain ⟨hterminal, job, hledger⟩ := h
    exact .ended ⟨hterminal, job, hledger.drift (hworld job job.isSome hledger.world)⟩

/-- In every run the session is at rest between two calls. -/
theorem resting_of_run {drift : σ → σ → Prop} {start s : Orchestrator σ Job Process}
    (hdrift : ∀ job torn world world', drift world world' →
      C.holds (.resting job torn) world → C.holds (.resting job torn) world')
    (hstart : Resting C start) (run : SessionRun L drift (HostMay C) start s) : Resting C s := by
  induction run with
  | start => exact hstart
  | step input prior hmay ih =>
    cases input with
    | request envelope => exact ensures_apply envelope _ ih
    | failFromHost trigger => exact resting_failFromHost ih hmay
  | drift world prior h ih => exact ih.drift (fun job torn => hdrift job torn _ _ h)

end Walk

theorem SessionRun.mono {L : RootProcessLauncher σ Job Process} {drift : σ → σ → Prop}
    {allowed allowed' : Orchestrator σ Job Process → SessionInput → Prop}
    {start s : Orchestrator σ Job Process} (h : ∀ s input, allowed s input → allowed' s input)
    (run : SessionRun L drift allowed start s) : SessionRun L drift allowed' start s := by
  induction run with
  | start => exact .start
  | step input prior hmay ih => exact .step input ih (h _ _ hmay)
  | drift world prior hdrift ih => exact .drift world ih hdrift

def Orchestrator.fresh (sessionId : Guid) (launcher : σ) : Orchestrator σ Job Process where
  sequencer := { sessionId := sessionId }
  launcher := launcher

theorem resting_fresh {L : RootProcessLauncher σ Job Process} (C : LauncherContract L)
    (sessionId : Guid) {launcher : σ} (h : C.holds .fresh launcher) :
    Resting C (Orchestrator.fresh sessionId launcher) := by
  apply Resting.notStarted
  constructor
  · exact ⟨rfl, rfl, h, trivial, rfl, rfl⟩
  · rfl
  · rfl
  · exact List.nil_subset _
  · intro ha
    cases ha

/-- A session enters a state only after its calls, tears its job down at most once and at its
end always, and calls nothing for a request that the gate rejects. -/
structure SessionSafe (L : RootProcessLauncher σ Job Process) (s : Orchestrator σ Job Process) :
    Prop where
  justified : Justified s.history
  tornOnce : (tornJobs s.history).length ≤ 1
  tornAtEnd : s.sequencer.currentState.IsTerminal → tornJobs s.history = createdJobs s.history
  rejected : ∀ envelope, (s.sequencer.apply envelope).1.accepted = false →
    L.step (.request envelope) s = s

theorem Ledger.tornOnce {L : RootProcessLauncher σ Job Process} {C : LauncherContract L}
    {job : Option Job} {attempted : Bool} {phase : LauncherPhase Job Process}
    {s : Orchestrator σ Job Process} (h : Ledger C job attempted phase s) :
    (tornJobs s.history).length ≤ 1 := by
  rw [h.torn]
  cases attempted <;> cases job <;> simp

theorem SessionOver.torn_eq_created {L : RootProcessLauncher σ Job Process}
    {C : LauncherContract L} {s : Orchestrator σ Job Process} (h : SessionOver C s) :
    tornJobs s.history = createdJobs s.history := by
  obtain ⟨_, job, hledger⟩ := h
  rw [hledger.torn, hledger.created]
  cases job <;> rfl

theorem Resting.safe {L : RootProcessLauncher σ Job Process} {C : LauncherContract L}
    {s : Orchestrator σ Job Process} (h : Resting C s) : SessionSafe L s := by
  have hledger : ∃ job attempted phase, Ledger C job attempted phase s := by
    cases h with
    | notStarted h => exact ⟨_, _, _, h.toLedger⟩
    | c0Retained job root attempted h => exact ⟨_, _, _, h.toLedger⟩
    | c1Retained job root attempted h => exact ⟨_, _, _, h.toLedger⟩
    | ended h => exact ⟨_, _, _, h.2.choose_spec⟩
  obtain ⟨job, attempted, phase, hledger⟩ := hledger
  constructor
  · exact hledger.justified
  · exact hledger.tornOnce
  · intro hterminal
    cases h with
    | notStarted h => exact absurd hterminal (by rw [h.state_eq]; decide)
    | c0Retained job root attempted h => exact absurd hterminal (by rw [h.state_eq]; decide)
    | c1Retained job root attempted h => exact absurd hterminal (by rw [h.state_eq]; decide)
    | ended h => exact h.torn_eq_created
  · intro envelope hrejected
    show ((Orchestrator.apply L envelope).run s : _ × _).2 = s
    rw [gate_rejected hrejected]

end TradeJournalWorker
