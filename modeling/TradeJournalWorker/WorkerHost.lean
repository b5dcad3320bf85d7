import TradeJournalWorker.WorkerSupervisor

namespace TradeJournalWorker

open ActionPrograms

/-- What a process of the account does besides what its supervisor does: it uses `worker.json`,
the PID file and the control file, and asks and acts on processes. -/
inductive HostAction where
  | supervise (action : SupervisorAction)
  | loadState
  | readPid
  | writePid
  | unlinkPid
  | pidIsAlive (pid : Nat)
  | launcherPid (handle : Nat)
  | launcherIsAlive (pid : Nat)
  | controlExists
  | writeControl
  | unlinkControl
  | signalled
  | listSession
  | removeAttempts
  | spawnHost
  | forceKill (pid : Nat)
  deriving DecidableEq, Repr

/-- The unlinks tell whether the file was there, `listSession` whether the control file and the
PID file are. -/
abbrev HostAction.Answer : HostAction → Type
  | supervise action => action.Answer
  | loadState => Except LauncherError WorkerStateFile
  | readPid => Option Nat
  | writePid => Unit
  | unlinkPid => Bool
  | pidIsAlive _ => Bool
  | launcherPid _ => Option Nat
  | launcherIsAlive _ => Bool
  | controlExists => Bool
  | writeControl => Unit
  | unlinkControl => Bool
  | signalled => Bool
  | listSession => Bool × Bool
  | removeAttempts => Except LauncherError Unit
  | spawnHost => Unit
  | forceKill _ => Unit

abbrev HostProgram (α : Type) := ActionProgram HostAction HostAction.Answer α

abbrev HostMethod (α : Type) := Method HostAction HostAction.Answer Supervisor LauncherError α

structure PersistentStatus where
  state : WorkerState
  onboardingState : OnboardingState
  restartCount : Nat
  pid : Option Nat
  processAlive : Bool
  launcherPid : Option Nat
  launcherProcessAlive : Bool
  deriving DecidableEq, Repr

namespace WorkerHost

def exitStopped : Nat := 0
def exitFailedClosed : Nat := 1
def exitAlreadyRunning : Nat := 3
def exitStartupFailure : Nat := 4

/-- A call of the supervisor that the host owns. -/
def supervise {α : Type} (method : SupervisorMethod α) : HostMethod α :=
  Method.lift HostAction.supervise (fun _ given => given) id (fun part _ => part) id method

def pidIsAlive {ω : Type} :
    Option Nat → Method HostAction HostAction.Answer ω LauncherError Bool
  | none => pure false
  | some pid => Method.perform (HostAction.pidIsAlive pid)

def launcherPidOf : Option Nat → HostMethod (Option Nat)
  | none => pure none
  | some handle => Method.perform (HostAction.launcherPid handle)

def setLauncherPid (pid : Option Nat) : HostMethod Unit :=
  supervise (Supervisor.updateWorker (·.withLauncherPid pid))

/-- HEALTHY is the supervisor's word; what the command line sees is RUNNING. -/
def markRunning : HostMethod Unit := do
  let supervisor ← Method.readFields
  if supervisor.worker.stateFile.state = .healthy then
    supervise (Supervisor.setState .running)
  else
    pure ()

def syncProcessMetadata : HostMethod Unit := do
  markRunning
  let supervisor ← Method.readFields
  let pid ← launcherPidOf supervisor.handle
  setLauncherPid pid

/-- The unlinks of `cleanup` raise for a file that is gone by then. -/
def unlinkListed (listed : Bool) (action : HostAction) (answer : action.Answer → Bool) :
    HostMethod Unit :=
  if listed then do
    let found ← Method.perform action
    if answer found then pure () else Method.raise (.other "FileNotFoundError")
  else
    pure ()

/-- `Supervisor.cleanup`: the children of the session directory in the order of their names. -/
def cleanup : HostMethod Unit := do
  let listed ← Method.perform HostAction.listSession
  let removed ← Method.perform HostAction.removeAttempts
  Method.ofExcept removed
  unlinkListed listed.1 .unlinkControl id
  unlinkListed listed.2 .unlinkPid id
  supervise (Supervisor.record "cleanup complete")

/-- The `finally` block of `run_worker_host`. -/
def finish : HostMethod Unit := do
  cleanup.tryExcept fun _ => pure ()
  setLauncherPid none
  let _ ← Method.perform HostAction.unlinkPid
  let _ ← Method.perform HostAction.unlinkControl
  pure ()

/-- The exit code when the supervisor does not start. -/
def startSupervisor (timeout interval polls : Nat) : HostMethod (Option Nat) :=
  Method.tryExcept (do
    supervise (Supervisor.start timeout interval polls)
    pure none)
    fun
      | .supervisorError _ => pure (some exitStartupFailure)
      | .other message => Method.raise (.other message)

def stopRequested : HostMethod Bool := do
  let control ← Method.perform HostAction.controlExists
  if control then
    pure true
  else
    Method.perform HostAction.signalled

/-- The host's loop; with no ticks left it hangs. -/
def tick (interval : Nat) : Nat → HostMethod Nat
  | 0 => Method.hang
  | ticks + 1 => do
    let requested ← stopRequested
    if requested then do
      supervise Supervisor.stop
      pure exitStopped
    else do
      let state ← supervise Supervisor.checkLiveness
      if state = .failedClosed then
        pure exitFailedClosed
      else do
        syncProcessMetadata
        Method.perform (HostAction.supervise (.sleep interval))
        tick interval ticks

def serve (timeout interval polls ticks : Nat) : HostMethod Nat := do
  let failure ← startSupervisor timeout interval polls
  match failure with
  | some code => pure code
  | none => do
    syncProcessMetadata
    tick interval ticks

def runChecked (timeout interval polls ticks : Nat) : HostMethod Nat := do
  let existing ← Method.perform HostAction.readPid
  let running ← pidIsAlive existing
  if running then
    pure exitAlreadyRunning
  else do
    let _ ← Method.perform HostAction.unlinkControl
    Method.perform HostAction.writePid
    (serve timeout interval polls ticks).tryFinally finish

end WorkerHost

/-- `run_worker_host`, for as many polls and ticks as the host gets to. -/
def runWorkerHost (maxRestarts timeout interval polls ticks : Nat) :
    HostProgram (Except LauncherError Nat) :=
  .act .loadState fun
    | .error error => .ret (.error error)
    | .ok file =>
      (WorkerHost.runChecked timeout interval polls ticks
        { worker := AccountWorker.resume file, maxRestarts := maxRestarts }).andThen
        fun left => .ret left.1

/-- What a command line process knows: the worker that it resumed. -/
abbrev CallerMethod (α : Type) :=
  Method HostAction HostAction.Answer AccountWorker LauncherError α

namespace WorkerCaller

def launcherIsAlive : Option Nat → CallerMethod Bool
  | none => pure false
  | some launcher => Method.perform (HostAction.launcherIsAlive launcher)

def readPersistentStatus : CallerMethod PersistentStatus := do
  let worker ← Method.readFields
  let pid ← Method.perform HostAction.readPid
  let alive ← WorkerHost.pidIsAlive pid
  let launcherAlive ← launcherIsAlive worker.stateFile.launcherPid
  pure {
    state := worker.stateFile.state
    onboardingState := worker.onboarding.currentState
    restartCount := worker.stateFile.restartCount
    pid := pid
    processAlive := alive
    launcherPid := worker.stateFile.launcherPid
    launcherProcessAlive := launcherAlive }

def resume : CallerMethod Unit := do
  let file ← Method.perform HostAction.loadState
  match (file : Except LauncherError WorkerStateFile) with
  | .error error => Method.raise error
  | .ok file => Method.modifyFields fun _ => AccountWorker.resume file

def updateWorker (f : AccountWorker → AccountWorker) : CallerMethod Unit := do
  Method.modifyFields fun worker => (f worker).settled
  let worker ← Method.readFields
  Method.perform (HostAction.supervise (.saveState worker.stateFile))

/-- Whether the process is gone before the deadline. -/
def waitUntilGone (pid deadline interval : Nat) : Nat → CallerMethod Bool
  | 0 => Method.hang
  | polls + 1 => do
    let now ← Method.perform (HostAction.supervise .clock)
    if now < deadline then do
      let alive ← Method.perform (HostAction.pidIsAlive pid)
      if alive then do
        Method.perform (HostAction.supervise (.sleep interval))
        waitUntilGone pid deadline interval polls
      else
        pure true
    else
      pure false

/-- What the forced stop does in the place of the host's own end. -/
def forceStop (pid : Nat) (graceful : Bool) : CallerMethod Unit :=
  if graceful then
    pure ()
  else do
    Method.perform (HostAction.forceKill pid)
    updateWorker (·.withState .stopped)
    updateWorker (·.withLauncherPid none)
    let _ ← Method.perform HostAction.unlinkPid
    let _ ← Method.perform HostAction.unlinkControl
    pure ()

def stopRunning (pid timeout interval polls : Nat) : CallerMethod PersistentStatus := do
  Method.perform HostAction.writeControl
  let now ← Method.perform (HostAction.supervise .clock)
  let graceful ← waitUntilGone pid (now + timeout) interval polls
  resume
  forceStop pid graceful
  readPersistentStatus

def requestStopAndWait (timeout interval polls : Nat) : CallerMethod PersistentStatus := do
  let pid ← Method.perform HostAction.readPid
  match (pid : Option Nat) with
  | none => readPersistentStatus
  | some pid => do
    let alive ← Method.perform (HostAction.pidIsAlive pid)
    if alive then
      stopRunning pid timeout interval polls
    else
      readPersistentStatus

/-- The wait for the new host to have synced its launcher. -/
def waitUntilSynced (deadline : Nat) : Nat → CallerMethod PersistentStatus
  | 0 => Method.hang
  | polls + 1 => do
    let now ← Method.perform (HostAction.supervise .clock)
    if now < deadline then do
      let pid ← Method.perform HostAction.readPid
      let alive ← WorkerHost.pidIsAlive pid
      if alive then do
        resume
        let fresh ← Method.readFields
        if fresh.stateFile.launcherPid.isSome ∨ fresh.stateFile.state = .failedClosed then
          readPersistentStatus
        else do
          Method.perform (HostAction.supervise (.sleep 1))
          waitUntilSynced deadline polls
      else do
        Method.perform (HostAction.supervise (.sleep 1))
        waitUntilSynced deadline polls
    else do
      resume
      readPersistentStatus

def startPersistentWorker (timeout polls : Nat) : CallerMethod PersistentStatus := do
  let worker ← Method.readFields
  if worker.stateFile.state = .failedClosed then
    Method.raise (.supervisorError
      "worker is FAILED_CLOSED; create a new account instead of starting it")
  else do
    let pid ← Method.perform HostAction.readPid
    let alive ← WorkerHost.pidIsAlive pid
    if alive then
      readPersistentStatus
    else do
      Method.perform HostAction.spawnHost
      let now ← Method.perform (HostAction.supervise .clock)
      waitUntilSynced (now + timeout) polls

end WorkerCaller

end TradeJournalWorker
