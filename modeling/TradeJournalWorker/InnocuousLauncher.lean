import Mathlib.Logic.Function.Basic
import TradeJournalWorker.SessionSafety

namespace TradeJournalWorker

inductive NativeAnswer where
  | succeeded
  | failed
  | threw
  deriving DecidableEq, Repr

/-- How the native calls of one request end, and the values that they return. -/
structure NativePattern where
  createJobObject : NativeAnswer := .succeeded
  setInformationJobObject : NativeAnswer := .succeeded
  queryInformationJobObject : NativeAnswer := .succeeded
  prepareLaunch : NativeAnswer := .succeeded
  createProcess : NativeAnswer := .succeeded
  getProcessTimes : NativeAnswer := .succeeded
  creationTime : Nat := 0
  terminateProcess : NativeAnswer := .succeeded
  assignProcessToJobObject : NativeAnswer := .succeeded
  resumeThread : NativeAnswer := .succeeded
  previousSuspendCount : Nat := 1
  getExitCodeProcess : NativeAnswer := .succeeded
  isProcessInJob : NativeAnswer := .succeeded
  waitForSingleObject : NativeAnswer := .succeeded
  terminateJobObject : NativeAnswer := .succeeded
  closeJobHandle : NativeAnswer := .succeeded
  deriving DecidableEq, Repr

/-- A process that the launcher created, with the state its token wraps. -/
structure NativeProcess where
  terminated : Bool := false
  job : Option Nat := none
  handleOpen : Bool := true
  threadOpen : Bool := true
  kernelCreation : Nat := 0
  deriving DecidableEq, Repr

/-- A job object. `disposed` is the flag of its handle, `closed` what the kernel did. -/
structure NativeJob where
  killOnJobClose : Bool := false
  disposed : Bool := false
  closed : Bool := false
  deriving DecidableEq, Repr

structure NativeWorld where
  pattern : NativePattern := {}
  created : Nat := 0
  process : Nat → NativeProcess := fun _ => {}
  createdJobs : Nat := 0
  job : Nat → NativeJob := fun _ => {}
  rootState : Option Nat := none

namespace NativeWorld

def setProcess (id : Nat) (process : NativeProcess) (world : NativeWorld) : NativeWorld :=
  { world with process := Function.update world.process id process }

def setJob (id : Nat) (job : NativeJob) (world : NativeWorld) : NativeWorld :=
  { world with job := Function.update world.job id job }

def terminateMembers (id : Nat) (world : NativeWorld) : NativeWorld :=
  { world with
    process := fun process =>
      if (world.process process).job = some id then
        { world.process process with terminated := true }
      else world.process process }

/-- `SafeJobHandle.Dispose`; closing the last handle kills the members of a kill-on-close job. -/
def disposeJob (id : Nat) (world : NativeWorld) : NativeWorld :=
  if (world.job id).disposed then world
  else
    let disposed := world.setJob id { world.job id with disposed := true }
    if world.pattern.closeJobHandle = .succeeded then
      let closed := disposed.setJob id { world.job id with disposed := true, closed := true }
      if (world.job id).killOnJobClose then closed.terminateMembers id else closed
    else disposed

/-- The thread and the process handle are disposed. -/
def closeHandles (id : Nat) (world : NativeWorld) : NativeWorld :=
  world.setProcess id { world.process id with handleOpen := false, threadOpen := false }

def closeProcessHandle (id : Nat) (world : NativeWorld) : NativeWorld :=
  world.setProcess id { world.process id with handleOpen := false }

/-- `TerminateProcess` and the disposal of the handles: what the call returns is not looked
at, an exception leaves before the disposal. -/
def terminateAndClose (id : Nat) (world : NativeWorld) : NativeWorld :=
  match world.pattern.terminateProcess with
  | .succeeded =>
    (world.setProcess id { world.process id with terminated := true }).closeHandles id
  | .failed => world.closeHandles id
  | .threw => world

end NativeWorld

namespace C012InnocuousRootProcessLauncher

open NativeWorld

def configureAndVerifyKillOnJobClose (job : Nat) : LauncherCall NativeWorld Unit := fun world =>
  if world.pattern.setInformationJobObject ≠ .succeeded then (none, world)
  else
    let world := world.setJob job { world.job job with killOnJobClose := true }
    if world.pattern.queryInformationJobObject ≠ .succeeded then (none, world)
    else if (world.job job).killOnJobClose then (some (), world)
    else (none, world)

def createJob : LauncherCall NativeWorld Nat := fun world =>
  if world.pattern.createJobObject ≠ .succeeded then (none, world)
  else
    let job := world.createdJobs
    let world : NativeWorld := { world.setJob job {} with createdJobs := job + 1 }
    match configureAndVerifyKillOnJobClose job world with
    | (some _, world) => (some job, world)
    | (none, world) => (none, world.disposeJob job)

/-- After `CreateProcess` a failing step terminates the process and drops its handles. -/
def launchSuspended : LauncherCall NativeWorld Nat := fun world =>
  if world.pattern.prepareLaunch ≠ .succeeded then (none, world)
  else if world.pattern.createProcess ≠ .succeeded then (none, world)
  else
    let id := world.created
    let launched : NativeWorld := { world.setProcess id {} with created := id + 1 }
    if world.pattern.getProcessTimes = .succeeded then
      (some id, launched.setProcess id { kernelCreation := world.pattern.creationTime })
    else (none, launched.terminateAndClose id)

def launchSuspendedRoot (_job : Nat) : LauncherCall NativeWorld Nat := fun world =>
  match launchSuspended world with
  | (some id, world) => (some id, { world with rootState := some id })
  | (none, world) => (none, world)

/-- `Assign`. A disposed handle makes the call throw; only a call that returns `false` is
cleaned up after. -/
def assign (job process : Nat) : LauncherCall NativeWorld Unit := fun world =>
  if (world.job job).disposed || !(world.process process).handleOpen then (none, world)
  else
    match world.pattern.assignProcessToJobObject with
    | .succeeded =>
      (some (), world.setProcess process { world.process process with job := some job })
    | .threw => (none, world)
    | .failed => (none, world.terminateAndClose process)

def resume (process : Nat) : LauncherCall NativeWorld Unit := fun world =>
  if !(world.process process).threadOpen then (none, world)
  else if world.pattern.resumeThread ≠ .succeeded then (none, world)
  else if world.pattern.previousSuspendCount ≠ 1 then (none, world)
  else (some (), world.setProcess process { world.process process with threadOpen := false })

def isProcessInJob (job process : Nat) : LauncherCall NativeWorld Bool := fun world =>
  if (world.job job).disposed || !(world.process process).handleOpen then (none, world)
  else if world.pattern.isProcessInJob ≠ .succeeded then (none, world)
  else (some ((world.process process).job = some job), world)

def verifyRootAlive (job root : Nat) : LauncherCall NativeWorld Bool := fun world =>
  if !(world.process root).handleOpen || world.pattern.getExitCodeProcess ≠ .succeeded then
    (none, world)
  else if (world.process root).terminated then (some false, world)
  else if world.pattern.getProcessTimes ≠ .succeeded then (none, world)
  else if world.pattern.creationTime ≠ (world.process root).kernelCreation then
    (some false, world)
  else isProcessInJob job root world

/-- `WaitForSingleObject` returns when the process has ended; a timeout counts as failed. -/
def resumeAndAwaitSubmitter (_job submitter : Nat) : LauncherCall NativeWorld Unit := fun world =>
  match resume submitter world with
  | (none, world) => (none, world)
  | (some _, world) =>
    if world.pattern.waitForSingleObject = .succeeded then
      (some (), (world.setProcess submitter
        { world.process submitter with terminated := true }).closeProcessHandle submitter)
    else (none, world.closeProcessHandle submitter)

def disposeRootState (world : NativeWorld) : NativeWorld :=
  match world.rootState with
  | none => world
  | some root => { world.closeProcessHandle root with rootState := none }

def teardownJob (job : Nat) : LauncherCall NativeWorld Unit := fun world =>
  let opened := !(world.job job).disposed
  let terminates := opened && decide (world.pattern.terminateJobObject = .succeeded)
  let terminated := if terminates then world.terminateMembers job else world
  let disposed := terminated.disposeJob job
  if opened && decide (world.pattern.closeJobHandle = .threw) then (none, disposed)
  else if opened && decide (world.pattern.terminateJobObject = .threw) then
    (none, disposeRootState disposed)
  else (some (), disposeRootState disposed)

end C012InnocuousRootProcessLauncher

open C012InnocuousRootProcessLauncher in
def innocuousRootProcessLauncher : RootProcessLauncher NativeWorld Nat Nat where
  createJob := createJob
  launchSuspendedRoot := launchSuspendedRoot
  assignRootToJob := assign
  resumeRoot := resume
  verifyRootAlive := verifyRootAlive
  launchSuspendedSubmitter _ := launchSuspended
  assignSubmitterToJob := assign
  verifySubmitterSameJob := isProcessInJob
  resumeAndAwaitSubmitter := resumeAndAwaitSubmitter
  teardownJob := teardownJob

end TradeJournalWorker
