import TradeJournalWorker.SessionProtocol

namespace TradeJournalWorker

/-- A call of the launcher: it changes the launcher's world and returns, or throws (`none`). -/
abbrev LauncherCall (σ α : Type) := σ → Option α × σ

/-- `IC012RootProcessLauncher`. -/
structure RootProcessLauncher (σ Job Process : Type) where
  createJob : LauncherCall σ Job
  launchSuspendedRoot : Job → LauncherCall σ Process
  assignRootToJob : Job → Process → LauncherCall σ Unit
  resumeRoot : Process → LauncherCall σ Unit
  verifyRootAlive : Job → Process → LauncherCall σ Bool
  launchSuspendedSubmitter : Job → LauncherCall σ Process
  assignSubmitterToJob : Job → Process → LauncherCall σ Unit
  verifySubmitterSameJob : Job → Process → LauncherCall σ Bool
  resumeAndAwaitSubmitter : Job → Process → LauncherCall σ Unit
  teardownJob : Job → LauncherCall σ Unit

/-- What a session did: its launcher calls with their outcomes and the states it entered. -/
inductive SessionEvent (Job Process : Type) where
  | entered (state : C012State)
  | createJob (outcome : Option Job)
  | launchSuspendedRoot (job : Job) (outcome : Option Process)
  | assignRootToJob (job : Job) (root : Process) (outcome : Option Unit)
  | resumeRoot (root : Process) (outcome : Option Unit)
  | verifyRootAlive (job : Job) (root : Process) (outcome : Option Bool)
  | launchSuspendedSubmitter (job : Job) (outcome : Option Process)
  | assignSubmitterToJob (job : Job) (submitter : Process) (outcome : Option Unit)
  | verifySubmitterSameJob (job : Job) (submitter : Process) (outcome : Option Bool)
  | resumeAndAwaitSubmitter (job : Job) (submitter : Process) (outcome : Option Unit)
  | teardownJob (job : Job) (outcome : Option Unit)
  deriving DecidableEq, Repr

/-- `C012OrchestratingProcessor` with its sequencer and the world of its launcher. The
history, newest event first, is read by no function of the source. -/
structure Orchestrator (σ Job Process : Type) where
  sequencer : C012RequestSequencer
  job : Option Job := none
  root : Option Process := none
  teardownAttempted : Bool := false
  launcher : σ
  history : List (SessionEvent Job Process) := []

namespace Orchestrator

variable {σ Job Process α : Type}

abbrev Action (σ Job Process α : Type) := StateM (Orchestrator σ Job Process) α

def call (event : Option α → SessionEvent Job Process) (operation : LauncherCall σ α) :
    Action σ Job Process (Option α) :=
  modifyGet fun s => ((operation s.launcher).1,
    { s with
      launcher := (operation s.launcher).2
      history := event (operation s.launcher).1 :: s.history })

/-- The sequencer answered; an accepted trigger entered its state. -/
def answered (answer : C012TransitionResult × C012RequestSequencer)
    (s : Orchestrator σ Job Process) : C012TransitionResult × Orchestrator σ Job Process :=
  (answer.1,
    { s with
      sequencer := answer.2
      history := if answer.1.accepted then .entered answer.2.currentState :: s.history
        else s.history })

def gate (request : C012RequestEnvelope) : Action σ Job Process C012TransitionResult :=
  modifyGet fun s => answered (s.sequencer.apply request) s

def applyInternal (trigger : C012Trigger) : Action σ Job Process C012TransitionResult :=
  modifyGet fun s => answered (s.sequencer.applyInternal trigger) s

variable (L : RootProcessLauncher σ Job Process)

def tryTeardownReporting : Action σ Job Process Bool := do
  let s ← get
  match s.job with
  | none => pure true
  | some job =>
    if s.teardownAttempted then pure true
    else do
      modify fun s => { s with teardownAttempted := true }
      let outcome ← call (.teardownJob job) (L.teardownJob job)
      pure outcome.isSome

def failOperation : Action σ Job Process C012TransitionResult := do
  let _ ← applyInternal .operationFailed
  let _ ← tryTeardownReporting L
  pure ⟨false, .failedClosed, .operationFailed⟩

def failRootDied : Action σ Job Process C012TransitionResult := do
  let _ ← applyInternal .rootProcessDied
  let _ ← tryTeardownReporting L
  pure ⟨false, .failedClosed, .rootProcessDied⟩

/-- Run the operation; a call that throws fails the session. -/
def attempt (event : Option α → SessionEvent Job Process) (operation : LauncherCall σ α)
    (next : α → Action σ Job Process C012TransitionResult) :
    Action σ Job Process C012TransitionResult := do
  match ← call event operation with
  | none => failOperation L
  | some value => next value

def runC0 : Action σ Job Process C012TransitionResult :=
  attempt L .createJob L.createJob fun job => do
    modify fun s => { s with job := some job }
    let _ ← applyInternal .c0JobCreated
    attempt L (.launchSuspendedRoot job) (L.launchSuspendedRoot job) fun root =>
      attempt L (.assignRootToJob job root) (L.assignRootToJob job root) fun _ =>
        attempt L (.resumeRoot root) (L.resumeRoot root) fun _ => do
          modify fun s => { s with root := some root }
          applyInternal .c0RootLaunched

def runC1 : Action σ Job Process C012TransitionResult := do
  let s ← get
  match s.job, s.root with
  | some job, some root =>
    attempt L (.verifyRootAlive job root) (L.verifyRootAlive job root) fun alive =>
      if alive then applyInternal .c1DiscoveryComplete else failRootDied L
  | _, _ => failOperation L

def runC2 : Action σ Job Process C012TransitionResult := do
  let s ← get
  match s.job, s.root with
  | some job, some _ =>
    attempt L (.launchSuspendedSubmitter job) (L.launchSuspendedSubmitter job) fun submitter =>
      attempt L (.assignSubmitterToJob job submitter) (L.assignSubmitterToJob job submitter)
        fun _ =>
          attempt L (.verifySubmitterSameJob job submitter)
            (L.verifySubmitterSameJob job submitter) fun sameJob =>
              if sameJob then do
                let assigned ← applyInternal .c2SubmitterAssigned
                if assigned.accepted then
                  attempt L (.resumeAndAwaitSubmitter job submitter)
                    (L.resumeAndAwaitSubmitter job submitter) fun _ => do
                      let loginComplete ← applyInternal .c2LoginWindowComplete
                      if loginComplete.accepted then do
                        if ← tryTeardownReporting L then applyInternal .c2TeardownComplete
                        else failOperation L
                      else failOperation L
                else failOperation L
              else failOperation L
  | _, _ => failOperation L

def apply (request : C012RequestEnvelope) : Action σ Job Process C012TransitionResult := do
  let gateResult ← gate request
  if gateResult.accepted then
    match request.control, request.requestType with
    | .c0, .start => runC0 L
    | .c1, .query => runC1 L
    | .c2, .submitConfig => runC2 L
    | _, _ => pure gateResult
  else pure gateResult

/-- `FailFromHost`; a client-originated trigger throws `ArgumentException` (`false`). -/
def failFromHost (trigger : C012Trigger) : Action σ Job Process Bool :=
  if trigger.isClientOriginated then pure false
  else do
    let _ ← applyInternal trigger
    let _ ← tryTeardownReporting L
    pure true

end Orchestrator

/-- What the outside asks of an orchestrator. -/
inductive SessionInput where
  | request (envelope : C012RequestEnvelope)
  | failFromHost (trigger : C012Trigger)
  deriving DecidableEq, Repr

variable {σ Job Process : Type}

def RootProcessLauncher.step (L : RootProcessLauncher σ Job Process) (input : SessionInput)
    (s : Orchestrator σ Job Process) : Orchestrator σ Job Process :=
  match input with
  | .request envelope => ((Orchestrator.apply L envelope).run s : _ × _).2
  | .failFromHost trigger => ((Orchestrator.failFromHost L trigger).run s : _ × _).2

/-- Runs of the orchestrator: the world of the launcher may drift between its calls. -/
inductive SessionRun (L : RootProcessLauncher σ Job Process) (drift : σ → σ → Prop)
    (allowed : Orchestrator σ Job Process → SessionInput → Prop)
    (start : Orchestrator σ Job Process) : Orchestrator σ Job Process → Prop where
  | start : SessionRun L drift allowed start start
  | step {s : Orchestrator σ Job Process} (input : SessionInput)
      (prior : SessionRun L drift allowed start s) (h : allowed s input) :
      SessionRun L drift allowed start (L.step input s)
  | drift {s : Orchestrator σ Job Process} (world : σ)
      (prior : SessionRun L drift allowed start s) (h : drift s.launcher world) :
      SessionRun L drift allowed start { s with launcher := world }

end TradeJournalWorker
