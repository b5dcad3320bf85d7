import TradeJournalWorker.InnocuousLauncher

namespace TradeJournalWorker

open C012InnocuousRootProcessLauncher

/-- The calls of `LaunchSuspended` up to the token succeed. -/
structure LaunchPasses (pattern : NativePattern) : Prop where
  prepared : pattern.prepareLaunch = .succeeded
  created : pattern.createProcess = .succeeded
  times : pattern.getProcessTimes = .succeeded

/-- A process that is not handed on is terminated, none is lost to an exception of the
assignment, and the job's handle closes. -/
structure NoLeak (pattern : NativePattern) : Prop where
  launchCleaned : pattern.prepareLaunch = .succeeded → pattern.createProcess = .succeeded →
    pattern.getProcessTimes ≠ .succeeded → pattern.terminateProcess = .succeeded
  assignReturns : LaunchPasses pattern → pattern.assignProcessToJobObject ≠ .threw
  assignCleaned : LaunchPasses pattern → pattern.assignProcessToJobObject = .failed →
    pattern.terminateProcess = .succeeded
  jobCloses : pattern.closeJobHandle = .succeeded

/-- Processes end by themselves and the calls of the next request end as they will. -/
structure NativeDrift (world world' : NativeWorld) : Prop where
  created_eq : world'.created = world.created
  job_eq : world'.job = world.job
  createdJobs_eq : world'.createdJobs = world.createdJobs
  rootState_eq : world'.rootState = world.rootState
  process : ∀ id, world'.process id = world.process id ∨
    world'.process id = { world.process id with terminated := true }
  noLeak : NoLeak world'.pattern

/-- Every created process has ended or is a member of the job. -/
def MembersOnly (job : Nat) (world : NativeWorld) (except : Nat → Prop) : Prop :=
  ∀ id < world.created, ¬ except id →
    (world.process id).terminated = true ∨ (world.process id).job = some job

structure JobOpen (job : Nat) (world : NativeWorld) : Prop where
  noLeak : NoLeak world.pattern
  kills : (world.job job).killOnJobClose = true
  held : (world.job job).disposed = false
  opened : (world.job job).closed = false

structure JobClosed (job : Nat) (world : NativeWorld) : Prop where
  noLeak : NoLeak world.pattern
  disposed : (world.job job).disposed = true
  closed : (world.job job).closed = true
  ended : ∀ id < world.created, (world.process id).terminated = true

def holdsNative : LauncherPhase Nat Nat → NativeWorld → Prop
  | .fresh, world => NoLeak world.pattern ∧ world.created = 0
  | .idle job false, world => JobOpen job world ∧ MembersOnly job world (fun _ => False)
  | .idle job true, world => JobClosed job world
  | .pending job id _, world => JobOpen job world ∧ LaunchPasses world.pattern ∧
      id < world.created ∧ (world.process id).handleOpen = true ∧
      MembersOnly job world (fun other => other = id)

section Frames

variable {world : NativeWorld} {id other job : Nat} {process : NativeProcess}

@[simp] theorem setProcess_pattern : (world.setProcess id process).pattern = world.pattern := rfl

@[simp] theorem setProcess_created : (world.setProcess id process).created = world.created := rfl

@[simp] theorem setProcess_job : (world.setProcess id process).job = world.job := rfl

@[simp] theorem setProcess_self : (world.setProcess id process).process id = process := by
  simp [NativeWorld.setProcess]

@[simp] theorem setProcess_other (h : other ≠ id) :
    (world.setProcess id process).process other = world.process other := by
  simp [NativeWorld.setProcess, h]

theorem JobOpen.frame {world' : NativeWorld} (h : JobOpen job world)
    (hpattern : world'.pattern = world.pattern) (hjob : world'.job = world.job) :
    JobOpen job world' := by
  constructor
  · rw [hpattern]
    exact h.noLeak
  · rw [hjob]
    exact h.kills
  · rw [hjob]
    exact h.held
  · rw [hjob]
    exact h.opened

variable (id process) in
/-- A step on one process that keeps it contained keeps all of them. -/
theorem MembersOnly.setProcess {except : Nat → Prop} (h : MembersOnly job world except)
    (hprocess : process.terminated = true ∨ process.job = some job) :
    MembersOnly job (world.setProcess id process) (fun other => except other ∧ other ≠ id) := by
  intro other hlt hnot
  by_cases hself : other = id
  · subst hself
    rw [setProcess_self]
    exact hprocess
  · rw [setProcess_other hself]
    exact h other hlt (fun he => hnot ⟨he, hself⟩)

theorem MembersOnly.weaken {except except' : Nat → Prop} (h : MembersOnly job world except)
    (hexcept : ∀ id, except id → except' id) : MembersOnly job world except' := by
  intro id hlt hnot
  exact h id hlt (fun he => hnot (hexcept id he))

theorem terminateAndClose_pattern : (world.terminateAndClose id).pattern = world.pattern := by
  unfold NativeWorld.terminateAndClose
  split <;> rfl

theorem terminateAndClose_job : (world.terminateAndClose id).job = world.job := by
  unfold NativeWorld.terminateAndClose
  split <;> rfl

theorem terminateAndClose_created : (world.terminateAndClose id).created = world.created := by
  unfold NativeWorld.terminateAndClose
  split <;> rfl

variable (id) in
/-- A process that `TerminateProcess` ended is contained, the others are as they were. -/
theorem MembersOnly.terminated {except : Nat → Prop} (h : MembersOnly job world except)
    (hterminate : world.pattern.terminateProcess = .succeeded) :
    MembersOnly job (world.terminateAndClose id) (fun other => except other ∧ other ≠ id) := by
  unfold NativeWorld.terminateAndClose
  rw [hterminate]
  intro other hlt hnot
  by_cases hself : other = id
  · subst hself
    left
    simp [NativeWorld.closeHandles]
  · have hother := h other hlt (fun he => hnot ⟨he, hself⟩)
    simpa [NativeWorld.closeHandles, hself] using hother

theorem disposeJob_pattern : (world.disposeJob job).pattern = world.pattern := by
  unfold NativeWorld.disposeJob
  split
  next => rfl
  next =>
    split
    next =>
      dsimp only
      split <;> rfl
    next => rfl

theorem disposeJob_created : (world.disposeJob job).created = world.created := by
  unfold NativeWorld.disposeJob
  split
  next => rfl
  next =>
    split
    next =>
      dsimp only
      split <;> rfl
    next => rfl

end Frames

section Calls

variable {world : NativeWorld} {job id : Nat}

theorem configure_cases (world : NativeWorld) (job : Nat) :
    ((configureAndVerifyKillOnJobClose job world).1 = none ∧
        (configureAndVerifyKillOnJobClose job world).2.pattern = world.pattern ∧
        (configureAndVerifyKillOnJobClose job world).2.created = world.created) ∨
      configureAndVerifyKillOnJobClose job world =
        (some (), world.setJob job { world.job job with killOnJobClose := true }) := by
  unfold configureAndVerifyKillOnJobClose
  split
  next => exact .inl ⟨rfl, rfl, rfl⟩
  next =>
    dsimp only
    split
    next => exact .inl ⟨rfl, rfl, rfl⟩
    next =>
      right
      simp [NativeWorld.setJob]

theorem holdsNative_createJob (h : holdsNative .fresh world) :
    holdsNative ((createJob world).1.elim .fresh (.idle · false)) (createJob world).2 := by
  obtain ⟨hleak, hcreated⟩ := h
  unfold createJob
  split
  next => exact ⟨hleak, hcreated⟩
  next =>
    dsimp only
    obtain ⟨hnone, hpattern, hsame⟩ | hconfigured := configure_cases
      { world.setJob world.createdJobs {} with createdJobs := world.createdJobs + 1 }
      world.createdJobs
    · split
      next heq =>
        rw [heq] at hnone
        cases hnone
      next configured heq =>
        rw [heq] at hpattern hsame
        constructor
        · rw [disposeJob_pattern, hpattern]
          exact hleak
        · rw [disposeJob_created, hsame]
          exact hcreated
    · rw [hconfigured]
      constructor
      · constructor
        · exact hleak
        · simp [NativeWorld.setJob]
        · simp [NativeWorld.setJob]
        · simp [NativeWorld.setJob]
      · intro id hlt
        have hzero : id < world.created := hlt
        omega

theorem holdsNative_launchSuspended (h : holdsNative (.idle job false) world) :
    holdsNative ((launchSuspended world).1.elim (.idle job false) (.pending job · false))
      (launchSuspended world).2 := by
  obtain ⟨hopen, hmembers⟩ := h
  unfold launchSuspended
  split
  next => exact ⟨hopen, hmembers⟩
  next hprepared =>
    split
    next => exact ⟨hopen, hmembers⟩
    next hcreated =>
      have hp : world.pattern.prepareLaunch = .succeeded := by simpa using hprepared
      have hc : world.pattern.createProcess = .succeeded := by simpa using hcreated
      dsimp only
      split
      next htimes =>
        refine ⟨hopen.frame rfl rfl, ⟨hp, hc, htimes⟩, Nat.lt_succ_self _, ?_, ?_⟩
        · simp
        · intro other hlt hne
          have hother : other < world.created := by
            have : other < world.created + 1 := hlt
            omega
          simpa [hne] using hmembers other hother id
      next htimes =>
        refine ⟨hopen.frame terminateAndClose_pattern terminateAndClose_job, ?_⟩
        have hterminate := hopen.noLeak.launchCleaned hp hc htimes
        have hlaunched : MembersOnly job
            { world.setProcess world.created {} with created := world.created + 1 }
            (fun other => other = world.created) := by
          intro other hlt hne
          have hother : other < world.created := by
            have : other < world.created + 1 := hlt
            omega
          have hold := hmembers other hother (fun hfalse => hfalse)
          simpa [NativeWorld.setProcess, hne] using hold
        have hcleaned := hlaunched.terminated world.created hterminate
        exact hcleaned.weaken (fun other hboth => hboth.2 hboth.1)

theorem holdsNative_launchSuspendedRoot (h : holdsNative (.idle job false) world) :
    holdsNative ((launchSuspendedRoot job world).1.elim (.idle job false) (.pending job · false))
      (launchSuspendedRoot job world).2 := by
  have hlaunched := holdsNative_launchSuspended h
  unfold launchSuspendedRoot
  split
  next id launched heq =>
    rw [heq] at hlaunched
    obtain ⟨hopen, hrest⟩ := hlaunched
    exact ⟨hopen.frame rfl rfl, hrest⟩
  next launched heq =>
    rw [heq] at hlaunched
    exact hlaunched

theorem holdsNative_assign (h : holdsNative (.pending job id false) world) :
    holdsNative (.idle job false) (assign job id world).2 := by
  obtain ⟨hopen, hpasses, hlt, hhandle, hmembers⟩ := h
  unfold assign
  rw [if_neg (by simp [hopen.held, hhandle])]
  split
  next =>
    refine ⟨hopen.frame rfl rfl, ?_⟩
    have hassigned := hmembers.setProcess id
      { world.process id with job := some job } (.inr rfl)
    exact hassigned.weaken (fun other hboth => hboth.2 hboth.1)
  next hthrew => exact absurd hthrew (hopen.noLeak.assignReturns hpasses)
  next hfailed =>
    refine ⟨hopen.frame terminateAndClose_pattern terminateAndClose_job, ?_⟩
    have hcleaned := hmembers.terminated id (hopen.noLeak.assignCleaned hpasses hfailed)
    exact hcleaned.weaken (fun other hboth => hboth.2 hboth.1)

/-- A change of one process that ends it or keeps its membership keeps the phase. -/
theorem holdsNative_setProcess {process : NativeProcess} (h : holdsNative (.idle job false) world)
    (hprocess : (world.process id).terminated = true ∨ (world.process id).job = some job →
      process.terminated = true ∨ process.job = some job) :
    holdsNative (.idle job false) (world.setProcess id process) := by
  obtain ⟨hopen, hmembers⟩ := h
  refine ⟨hopen.frame rfl rfl, ?_⟩
  intro other hlt hnot
  by_cases hself : other = id
  · subst hself
    rw [setProcess_self]
    exact hprocess (hmembers other hlt hnot)
  · rw [setProcess_other hself]
    exact hmembers other hlt hnot

variable (id) in
theorem holdsNative_resume (h : holdsNative (.idle job false) world) :
    holdsNative (.idle job false) (resume id world).2 := by
  unfold resume
  split
  next => exact h
  next =>
    split
    next => exact h
    next =>
      split
      next => exact h
      next => exact holdsNative_setProcess h (fun hp => hp)

theorem isProcessInJob_world (job id : Nat) (world : NativeWorld) :
    (isProcessInJob job id world).2 = world := by
  unfold isProcessInJob
  split
  next => rfl
  next => split <;> rfl

theorem verifyRootAlive_world (job id : Nat) (world : NativeWorld) :
    (verifyRootAlive job id world).2 = world := by
  unfold verifyRootAlive
  split
  next => rfl
  next =>
    split
    next => rfl
    next =>
      split
      next => rfl
      next =>
        split
        next => rfl
        next => exact isProcessInJob_world job id world

theorem holdsNative_await (h : holdsNative (.idle job false) world) :
    holdsNative (.idle job false) (resumeAndAwaitSubmitter job id world).2 := by
  have hresumed := holdsNative_resume id h
  unfold resumeAndAwaitSubmitter
  split
  next resumed heq =>
    rw [heq] at hresumed
    exact hresumed
  next resumed heq =>
    rw [heq] at hresumed
    split
    next =>
      exact holdsNative_setProcess (holdsNative_setProcess hresumed (fun _ => .inl rfl))
        (fun hp => hp)
    next => exact holdsNative_setProcess hresumed (fun hp => hp)

theorem JobOpen.terminateMembers (h : JobOpen job world) : JobOpen job (world.terminateMembers job) :=
  h.frame rfl rfl

theorem MembersOnly.terminateMembers {except : Nat → Prop} (h : MembersOnly job world except) :
    MembersOnly job (world.terminateMembers job) except := by
  intro id hlt hnot
  by_cases hmember : (world.process id).job = some job
  · left
    simp [NativeWorld.terminateMembers, hmember]
  · obtain hended | hmember' := h id hlt hnot
    · left
      simpa [NativeWorld.terminateMembers, hmember] using hended
    · exact absurd hmember' hmember

/-- Closing the last handle of the job ends everything that the launcher created. -/
theorem JobOpen.disposed (h : JobOpen job world) (hmembers : MembersOnly job world (fun _ => False)) :
    JobClosed job (world.disposeJob job) := by
  have hdisposed : world.disposeJob job =
      ((world.setJob job { world.job job with disposed := true }).setJob job
        { world.job job with disposed := true, closed := true }).terminateMembers job := by
    unfold NativeWorld.disposeJob
    simp [h.held, h.noLeak.jobCloses, h.kills]
  rw [hdisposed]
  constructor
  · exact h.noLeak
  · simp [NativeWorld.terminateMembers, NativeWorld.setJob]
  · simp [NativeWorld.terminateMembers, NativeWorld.setJob]
  · intro id hlt
    obtain hended | hmember := hmembers id hlt (fun hfalse => hfalse)
    · show (if (world.process id).job = some job then _ else world.process id).terminated = true
      split
      next => rfl
      next => exact hended
    · show (if (world.process id).job = some job then _ else world.process id).terminated = true
      rw [if_pos hmember]

theorem JobClosed.disposeRootState (h : JobClosed job world) :
    JobClosed job (disposeRootState world) := by
  unfold C012InnocuousRootProcessLauncher.disposeRootState
  split
  next => exact h
  next root _ =>
    refine ⟨h.noLeak, h.disposed, h.closed, ?_⟩
    intro id hlt
    by_cases hself : id = root
    · subst hself
      have hended := h.ended id hlt
      simpa [NativeWorld.closeProcessHandle] using hended
    · have hended := h.ended id hlt
      simpa [NativeWorld.closeProcessHandle, hself] using hended

theorem holdsNative_teardown (h : holdsNative (.idle job false) world) :
    holdsNative (.idle job true) (teardownJob job world).2 := by
  obtain ⟨hopen, hmembers⟩ := h
  have hclosed : JobClosed job
      ((if (!(world.job job).disposed && decide (world.pattern.terminateJobObject = .succeeded)) then
        world.terminateMembers job else world).disposeJob job) := by
    split
    next => exact hopen.terminateMembers.disposed hmembers.terminateMembers
    next => exact hopen.disposed hmembers
  unfold teardownJob
  dsimp only
  split
  next => exact hclosed
  next =>
    split
    next => exact hclosed.disposeRootState
    next => exact hclosed.disposeRootState

end Calls

/-- The launcher keeps its processes contained until the teardown ends them all. -/
def innocuousContract : LauncherContract innocuousRootProcessLauncher where
  holds := holdsNative
  late := False
  createJob _ h := holdsNative_createJob h
  launchSuspendedRoot job torn world hlate h := by
    cases torn with
    | true => exact (hlate rfl).elim
    | false => exact holdsNative_launchSuspendedRoot h
  assignRootToJob job root torn world hlate h := by
    cases torn with
    | true => exact (hlate rfl).elim
    | false => exact holdsNative_assign h
  resumeRoot job root torn world hlate h := by
    cases torn with
    | true => exact (hlate rfl).elim
    | false => exact holdsNative_resume _ h
  verifyRootAlive job root torn world hlate h := by
    show holdsNative _ (verifyRootAlive job root world).2
    rw [verifyRootAlive_world]
    exact h
  launchSuspendedSubmitter job torn world hlate h := by
    cases torn with
    | true => exact (hlate rfl).elim
    | false => exact holdsNative_launchSuspended h
  assignSubmitterToJob job submitter torn world hlate h := by
    cases torn with
    | true => exact (hlate rfl).elim
    | false => exact holdsNative_assign h
  verifySubmitterSameJob job submitter torn world hlate h := by
    show holdsNative _ (isProcessInJob job submitter world).2
    rw [isProcessInJob_world]
    exact h
  resumeAndAwaitSubmitter job submitter torn world hlate h := by
    cases torn with
    | true => exact (hlate rfl).elim
    | false => exact holdsNative_await h
  teardownJob _ _ h := holdsNative_teardown h

theorem holdsNative_drift {job : Option Nat} {torn : Bool} {world world' : NativeWorld}
    (hdrift : NativeDrift world world') (h : holdsNative (.resting job torn) world) :
    holdsNative (.resting job torn) world' := by
  have hended : ∀ id, (world.process id).terminated = true →
      (world'.process id).terminated = true := by
    intro id hid
    obtain hsame | hdied := hdrift.process id
    · rw [hsame]
      exact hid
    · rw [hdied]
  have hmember : ∀ id, (world'.process id).job = (world.process id).job := by
    intro id
    obtain hsame | hdied := hdrift.process id
    · rw [hsame]
    · rw [hdied]
  cases job with
  | none => exact ⟨hdrift.noLeak, hdrift.created_eq.trans h.2⟩
  | some job =>
    cases torn with
    | false =>
      obtain ⟨hopen, hmembers⟩ := h
      refine ⟨⟨hdrift.noLeak, ?_, ?_, ?_⟩, ?_⟩
      · rw [hdrift.job_eq]
        exact hopen.kills
      · rw [hdrift.job_eq]
        exact hopen.held
      · rw [hdrift.job_eq]
        exact hopen.opened
      · intro id hlt hnot
        rw [hdrift.created_eq] at hlt
        rw [hmember]
        exact (hmembers id hlt hnot).imp_left (hended id)
    | true =>
      have hclosed : JobClosed job world := h
      refine ⟨hdrift.noLeak, ?_, ?_, ?_⟩
      · rw [hdrift.job_eq]
        exact hclosed.disposed
      · rw [hdrift.job_eq]
        exact hclosed.closed
      · intro id hlt
        rw [hdrift.created_eq] at hlt
        exact hended id (hclosed.ended id hlt)

/-- The host fails a session with a failure, or with a trigger that is refused. -/
def HostFails (_ : Orchestrator NativeWorld Nat Nat) : SessionInput → Prop
  | .request _ => True
  | .failFromHost trigger => trigger.isFailure = true ∨ trigger.isClientOriginated = true

/-- Every created process has ended or is a member of an open kill-on-close job, and at the end
of the session the job is closed and every process has ended. -/
structure NoOrphan (s : Orchestrator NativeWorld Nat Nat) : Prop where
  contained : ∀ id < s.launcher.created, (s.launcher.process id).terminated = true ∨
    ∃ job, (s.launcher.process id).job = some job ∧
      (s.launcher.job job).killOnJobClose = true ∧ (s.launcher.job job).closed = false
  ended : s.sequencer.currentState.IsTerminal →
    (∀ job, s.job = some job → (s.launcher.job job).closed = true) ∧
      ∀ id < s.launcher.created, (s.launcher.process id).terminated = true

theorem SessionPoint.noOrphan {state : C012State} {job : Nat} {root : Option Nat}
    {attempted : Bool} {evidence : List (SessionEvent Nat Nat)}
    {s : Orchestrator NativeWorld Nat Nat}
    (h : SessionPoint innocuousContract state (some job) root attempted (.idle job attempted)
      evidence s) (hstate : ¬ state.IsTerminal) : NoOrphan s := by
  cases attempted with
  | true => exact (h.lateTeardown rfl).1.elim
  | false =>
    obtain ⟨hopen, hmembers⟩ : JobOpen job s.launcher ∧ MembersOnly job s.launcher _ := h.world
    constructor
    · intro id hlt
      obtain hended | hmember := hmembers id hlt (fun hfalse => hfalse)
      · exact .inl hended
      · exact .inr ⟨job, hmember, hopen.kills, hopen.opened⟩
    · intro hterminal
      rw [h.state_eq] at hterminal
      exact absurd hterminal hstate

theorem Resting.noOrphan {s : Orchestrator NativeWorld Nat Nat}
    (h : Resting innocuousContract s) : NoOrphan s := by
  cases h with
  | notStarted h =>
    have hcreated : s.launcher.created = 0 := h.world.2
    constructor
    · intro id hlt
      omega
    · intro hterminal
      rw [h.state_eq] at hterminal
      exact absurd hterminal (by decide)
  | c0Retained job root attempted h => exact h.noOrphan (by decide)
  | c1Retained job root attempted h => exact h.noOrphan (by decide)
  | ended h =>
    obtain ⟨_, job, hledger⟩ := h
    cases job with
    | none =>
      have hcreated : s.launcher.created = 0 := hledger.world.2
      constructor
      · intro id hlt
        omega
      · intro _
        refine ⟨?_, ?_⟩
        · intro job hjob
          rw [hledger.job_eq] at hjob
          cases hjob
        · intro id hlt
          omega
    | some job =>
      have hclosed : JobClosed job s.launcher := hledger.world
      constructor
      · intro id hlt
        exact .inl (hclosed.ended id hlt)
      · intro _
        refine ⟨?_, hclosed.ended⟩
        intro other hother
        rw [hledger.job_eq] at hother
        cases hother
        exact hclosed.closed

theorem no_orphan_process {sessionId : Guid} {pattern : NativePattern}
    {s : Orchestrator NativeWorld Nat Nat} (hpattern : NoLeak pattern)
    (run : SessionRun innocuousRootProcessLauncher NativeDrift HostFails
      (.fresh sessionId { pattern := pattern }) s) : NoOrphan s := by
  have hstart : Resting innocuousContract
      (.fresh sessionId { pattern := pattern } : Orchestrator NativeWorld Nat Nat) :=
    resting_fresh innocuousContract sessionId ⟨hpattern, rfl⟩
  have hmay : SessionRun innocuousRootProcessLauncher NativeDrift (HostMay innocuousContract)
      (.fresh sessionId { pattern := pattern }) s := by
    refine run.mono ?_
    intro s input h
    cases input with
    | request envelope => trivial
    | failFromHost trigger =>
      obtain h | h := h
      · exact .inl h
      · exact .inr (.inl h)
  exact (resting_of_run (fun _ _ _ _ => holdsNative_drift) hstart hmay).noOrphan

/-- A fresh session after C0 was started with native calls that end in this way. -/
def startedC0 (pattern : NativePattern) : Orchestrator NativeWorld Nat Nat :=
  innocuousRootProcessLauncher.step (.request ⟨7, 1, .c0, .start⟩) (.fresh 7 { pattern := pattern })

/-- An assignment that throws, and one that fails together with its clean-up, each leave a
suspended process behind that nobody ends. -/
theorem lost_root_process :
    (∀ pattern, SessionRun innocuousRootProcessLauncher (fun _ _ => False) (fun _ _ => True)
      (.fresh 7 { pattern := pattern }) (startedC0 pattern)) ∧
    ¬ NoOrphan (startedC0 { assignProcessToJobObject := .threw }) ∧
    ¬ NoOrphan (startedC0 { assignProcessToJobObject := .failed, terminateProcess := .failed }) := by
  refine ⟨?_, ?_, ?_⟩
  · intro pattern
    exact SessionRun.step _ .start trivial
  · intro h
    exact absurd ((h.ended (by decide)).2 0 (by decide)) (by decide)
  · intro h
    exact absurd ((h.ended (by decide)).2 0 (by decide)) (by decide)

theorem no_orphan_process_c0 :
    NoLeak { assignProcessToJobObject := .failed } ∧
      NoOrphan (startedC0 { assignProcessToJobObject := .failed }) := by
  have hpattern : NoLeak { assignProcessToJobObject := .failed } := by
    constructor
    · intro _ _ htimes
      exact absurd rfl htimes
    · intro _ hthrew
      cases hthrew
    · intro _ _
      rfl
    · rfl
  refine ⟨hpattern, ?_⟩
  exact no_orphan_process hpattern (SessionRun.step _ .start trivial)

end TradeJournalWorker
