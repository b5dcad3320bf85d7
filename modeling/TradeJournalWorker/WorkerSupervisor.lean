import TradeJournalWorker.AccountOnboarding
import TradeJournalWorker.ActionPrograms

namespace TradeJournalWorker

open ActionPrograms

inductive WorkerState where
  | running
  | starting
  | loginRequired
  | healthy
  | degraded
  | restarting
  | failedClosed
  | stopped
  deriving DecidableEq, Repr

/-- The fields of `worker.json` that the supervisor and the worker host use. -/
structure WorkerStateFile where
  workerId : String
  state : WorkerState
  restartCount : Nat := 0
  lastHeartbeatUnixMs : Option Nat := none
  onboardingState : OnboardingState := .new
  failureReason : Option FailureReason := none
  launcherPid : Option Nat := none
  deriving DecidableEq, Repr

structure AccountWorker where
  stateFile : WorkerStateFile
  onboarding : OnboardingStateMachine
  deriving DecidableEq, Repr

/-- `AccountWorker.resume`: the machine goes on where the file says. -/
def AccountWorker.resume (stateFile : WorkerStateFile) : AccountWorker :=
  ⟨stateFile, ⟨stateFile.onboardingState, stateFile.failureReason⟩⟩

inductive LauncherError where
  | supervisorError (message : String)
  | other (message : String)
  deriving DecidableEq, Repr

/-- Handles are numbered in the order in which the factory made them. -/
inductive SupervisorAction where
  | saveState (file : WorkerStateFile)
  | now
  | createHandle
  | startHandle (handle : Nat)
  | isAlive (handle : Nat)
  | terminate (handle : Nat)
  | clock
  | sleep (seconds : Nat)
  deriving DecidableEq, Repr

abbrev SupervisorAction.Answer : SupervisorAction → Type
  | saveState _ => Unit
  | now => Nat
  | createHandle => Nat
  | startHandle _ => Except LauncherError Unit
  | isAlive _ => Bool
  | terminate _ => Except LauncherError Unit
  | clock => Nat
  | sleep _ => Unit

structure Supervisor where
  worker : AccountWorker
  maxRestarts : Nat
  handle : Option Nat := none
  log : List String := []
  deriving DecidableEq, Repr

abbrev SupervisorMethod (α : Type) :=
  Method SupervisorAction SupervisorAction.Answer Supervisor LauncherError α

namespace AccountWorker

/-- What `_persist` writes. -/
def persisted (worker : AccountWorker) : WorkerStateFile :=
  { worker.stateFile with
    onboardingState := worker.onboarding.currentState
    failureReason := worker.onboarding.lastFailureReason }

def afterTrigger (worker : AccountWorker) (trigger : OnboardingTrigger) : AccountWorker :=
  { worker with onboarding := (worker.onboarding.apply trigger).2 }

def withState (worker : AccountWorker) (state : WorkerState) : AccountWorker :=
  { worker with stateFile := { worker.stateFile with state := state } }

def withHeartbeat (worker : AccountWorker) (now : Nat) : AccountWorker :=
  { worker with stateFile := { worker.stateFile with lastHeartbeatUnixMs := some now } }

def withLauncherPid (worker : AccountWorker) (pid : Option Nat) : AccountWorker :=
  { worker with stateFile := { worker.stateFile with launcherPid := pid } }

def countRestart (worker : AccountWorker) : AccountWorker :=
  { worker with stateFile :=
      { worker.stateFile with restartCount := worker.stateFile.restartCount + 1 } }

/-- The object's fields take what the file got as well. -/
def settled (worker : AccountWorker) : AccountWorker :=
  { worker with stateFile := worker.persisted }

end AccountWorker

namespace Supervisor

def record (message : String) : SupervisorMethod Unit :=
  Method.modifyFields fun supervisor =>
    { supervisor with
      log := supervisor.log ++
        ["worker=" ++ supervisor.worker.stateFile.workerId ++ " " ++ message] }

/-- Change the worker and write its state file. -/
def updateWorker (f : AccountWorker → AccountWorker) : SupervisorMethod Unit := do
  Method.modifyFields fun supervisor =>
    { supervisor with worker := (f supervisor.worker).settled }
  let supervisor ← Method.readFields
  Method.perform (SupervisorAction.saveState supervisor.worker.stateFile)

def setState (state : WorkerState) : SupervisorMethod Unit :=
  updateWorker (·.withState state)

def heartbeat : SupervisorMethod Unit := do
  let now ← Method.perform SupervisorAction.now
  updateWorker (·.withHeartbeat now)

def applyOnboardingTrigger (trigger : OnboardingTrigger) : SupervisorMethod Unit :=
  updateWorker (·.afterTrigger trigger)

def refuseIfFailedClosed : SupervisorMethod Unit := do
  let supervisor ← Method.readFields
  if supervisor.worker.stateFile.state = .failedClosed then
    Method.raise (.supervisorError
      "worker is FAILED_CLOSED; construct a new worker instead of restarting")
  else
    pure ()

def failClosed (reason : FailureReason) : SupervisorMethod Unit := do
  applyOnboardingTrigger (.failure reason)
  setState .failedClosed
  record ("FAILED_CLOSED reason=" ++ reason.name)

/-- `self._handle = self._launcher_factory()`. -/
def newHandle : SupervisorMethod Nat := do
  let handle ← Method.perform SupervisorAction.createHandle
  Method.modifyFields fun supervisor => { supervisor with handle := some handle }
  pure handle

def startHandle (handle : Nat) : SupervisorMethod Unit := do
  let answer ← Method.perform (SupervisorAction.startHandle handle)
  Method.ofExcept answer

/-- The loop of `_wait_until_alive`; with no polls left it is still going on. -/
def pollUntilAlive (handle deadline pollInterval : Nat) : Nat → SupervisorMethod Bool
  | 0 => Method.hang
  | polls + 1 => do
    let alive ← Method.perform (SupervisorAction.isAlive handle)
    if alive then
      pure true
    else do
      let now ← Method.perform SupervisorAction.clock
      if deadline ≤ now then
        pure false
      else do
        Method.perform (SupervisorAction.sleep pollInterval)
        pollUntilAlive handle deadline pollInterval polls

def waitUntilAlive (handle timeout pollInterval polls : Nat) : SupervisorMethod Bool := do
  let now ← Method.perform SupervisorAction.clock
  pollUntilAlive handle (now + timeout) pollInterval polls

def becomeHealthy (message : String) : SupervisorMethod Unit := do
  setState .healthy
  heartbeat
  record message

def start (timeout pollInterval polls : Nat) : SupervisorMethod Unit := do
  refuseIfFailedClosed
  setState .starting
  let handle ← newHandle
  record "starting"
  (startHandle handle).tryExcept fun error => do
    failClosed .processDied
    Method.raise error
  let alive ← waitUntilAlive handle timeout pollInterval polls
  if alive then
    becomeHealthy "healthy"
  else do
    failClosed .timeout
    Method.raise (.supervisorError "worker did not become healthy before the start timeout")

/-- The second half of `_on_crash_detected`. -/
def restart (attempt : Nat) : SupervisorMethod Unit := do
  Method.modifyFields fun supervisor => { supervisor with worker := supervisor.worker.countRestart }
  setState .restarting
  record ("restarting attempt=" ++ toString attempt)
  let handle ← newHandle
  let answer ← Method.perform (SupervisorAction.startHandle handle)
  match (answer : Except LauncherError Unit) with
  | .error _ => failClosed .processDied
  | .ok () =>
    let alive ← Method.perform (SupervisorAction.isAlive handle)
    if alive then
      becomeHealthy "healthy after restart"
    else
      failClosed .processDied

def onCrashDetected : SupervisorMethod Unit := do
  record "crash detected"
  let supervisor ← Method.readFields
  if supervisor.maxRestarts ≤ supervisor.worker.stateFile.restartCount then
    failClosed .processDied
  else
    restart (supervisor.worker.stateFile.restartCount + 1)

def handleIsAlive : SupervisorMethod Bool := do
  let supervisor ← Method.readFields
  match supervisor.handle with
  | none => pure false
  | some handle => Method.perform (SupervisorAction.isAlive handle)

def checkLiveness : SupervisorMethod WorkerState := do
  let supervisor ← Method.readFields
  if supervisor.worker.stateFile.state = .failedClosed then
    pure .failedClosed
  else do
    let alive ← handleIsAlive
    if alive then do
      setState .healthy
      heartbeat
      pure .healthy
    else do
      onCrashDetected
      let after ← Method.readFields
      pure after.worker.stateFile.state

/-- `stop` gives up when the handle is still alive after `terminate`. -/
def terminateHandle : SupervisorMethod Unit := do
  let supervisor ← Method.readFields
  match supervisor.handle with
  | none => pure ()
  | some handle => do
    let answer ← Method.perform (SupervisorAction.terminate handle)
    Method.ofExcept answer
    let alive ← Method.perform (SupervisorAction.isAlive handle)
    if alive then
      Method.raise (.supervisorError
        "launcher handle still reports alive after terminate; refusing to declare stopped")
    else
      pure ()

def stop : SupervisorMethod Unit := do
  record "stopping"
  terminateHandle
  applyOnboardingTrigger .stop
  setState .stopped
  record "stopped"

end Supervisor

end TradeJournalWorker
