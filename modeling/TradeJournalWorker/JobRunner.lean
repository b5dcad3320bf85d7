import TradeJournalWorker.FaultProgram

namespace TradeJournalWorker

open FaultProgram

/-- An exception other than `LeaseLost`. -/
structure Failure where
  typeName : String
  errorCode : Option String := none
  isValueError : Bool := false
  deriving DecidableEq, Repr

inductive JobError where
  | leaseLost
  | failure (exc : Failure)
  deriving DecidableEq, Repr

structure Job where
  jobId : String
  action : String
  connectionId : String
  leaseId : String
  deriving DecidableEq, Repr

inductive JobStatus where
  | running
  | complete
  | leaseLost
  | failed
  deriving DecidableEq, Repr

def JobStatus.text : JobStatus → String
  | running => "running"
  | complete => "complete"
  | leaseLost => "lease_lost"
  | failed => "failed"

/-- The local job state; `minimal` with a status and, after a failure, the error. -/
structure LocalJobState where
  job : Job
  status : JobStatus
  error : Option String := none
  deriving DecidableEq, Repr

/-- A request to the control plane: the body of a terminal one is part of it. -/
inductive TransitionRequest (ρ : Type) where
  | running
  | complete (result : ρ)
  | fail (errorCode : String)
  deriving DecidableEq, Repr

namespace TransitionRequest

variable {ρ : Type}

/-- `"failed" if status == "fail" else status`. -/
def expected : TransitionRequest ρ → String
  | running => "running"
  | complete _ => "complete"
  | fail _ => "failed"

def isComplete : TransitionRequest ρ → Bool
  | complete _ => true
  | _ => false

def isFail : TransitionRequest ρ → Bool
  | fail _ => true
  | _ => false

def isTerminal (request : TransitionRequest ρ) : Bool := request.isComplete || request.isFail

end TransitionRequest

/-- What the API returns for a transition; anything but an object is `notObject`. -/
inductive TransitionResponse where
  | notObject
  | object (status : Option String) (errorCode : Option String)
  deriving DecidableEq, Repr

/-- The stretches of a run between which the keeper thread may report a loss:
while the handler runs, from the check after it to the request of `complete`, and
from there, or from the handler's exception, to the request of `fail`. -/
inductive Moment where
  | handling
  | confirming
  | failing
  deriving DecidableEq, Repr

def Moment.index : Moment → Nat
  | handling => 0
  | confirming => 1
  | failing => 2

/-- Everything outside the runner: the answers of the control plane, of the handler
and of the disk at each call site, and when the keeper sees the lease lost. -/
structure JobBehaviour (ρ : Type) where
  claim : Exit Failure (Option Job)
  runningWrite : WriteAnswer Failure
  runningResponse : Exit Failure TransitionResponse
  keeperStart : Exit Failure Unit
  lossSeen : Option Moment
  handler : Exit JobError ρ
  finalHeartbeat : Exit Failure Bool
  completeResponse : Exit Failure TransitionResponse
  completeWrite : WriteAnswer Failure
  leaseLostWrite : WriteAnswer Failure
  failResponse : Exit Failure TransitionResponse
  uncertainWrite : WriteAnswer Failure
  failedWrite : WriteAnswer Failure
  redactedWrite : WriteAnswer Failure

/-- A request carries whether the keeper had reported the loss when it was made. -/
inductive JobEvent (ρ : Type) where
  | requested (request : TransitionRequest ρ) (lossSeen : Bool)
  | acknowledged (request : TransitionRequest ρ)
  deriving DecidableEq, Repr

/-- The local state written by this run and the exchange with the control plane. -/
structure JobWorld (ρ : Type) where
  file : Option LocalJobState := none
  keeperStarted : Bool := false
  trace : List (JobEvent ρ) := []

abbrev JobProgram (ρ α : Type) := Program (JobBehaviour ρ) (JobWorld ρ) JobError α

variable {ρ : Type}

/-- `keeper.lease_lost` at a moment of the run. -/
def leaseLostAt (behaviour : JobBehaviour ρ) (world : JobWorld ρ) (moment : Moment) : Bool :=
  world.keeperStarted && behaviour.lossSeen.any (fun seen => seen.index ≤ moment.index)

def secretMarkers : List String := ["password", "token", "secret", "authorization"]

/-- The guard of `atomic_json` on one JSON string: some marker follows a quote. -/
def startsSecret (text : String) : Bool :=
  secretMarkers.any fun marker =>
    (('"' :: text.toList).map Char.toLower).tails.any ('"' :: marker.toList).isPrefixOf

def LocalJobState.texts (state : LocalJobState) : List String :=
  [state.job.action, state.job.connectionId, state.job.jobId, state.job.leaseId, state.status.text] ++
    state.error.toList

def secretsForbidden : Failure := { typeName := "ValueError", isValueError := true }

def atomicJson (answer : JobBehaviour ρ → WriteAnswer Failure) (state : LocalJobState) :
    JobProgram ρ Unit :=
  if state.texts.any startsSecret then Program.raise (.failure secretsForbidden)
  else
    Program.write (fun behaviour => ((answer behaviour).mapError .failure, behaviour))
      fun world => { world with file := some state }

/-- A call of the control plane. -/
def callApi {α : Type} (answer : JobBehaviour ρ → Exit Failure α) : JobProgram ρ α :=
  Program.perform fun behaviour => ((answer behaviour).mapError .failure, behaviour)

def requireTransition (response : TransitionResponse) (expected : String) : JobProgram ρ Unit :=
  match response with
  | .notObject => Program.raise .leaseLost
  | .object status errorCode =>
    if errorCode = some "lease_lost" then Program.raise .leaseLost
    else if status ≠ some expected then Program.raise .leaseLost
    else pure ()

/-- `_transition`: every doubt about the acknowledgement is a lost lease. -/
def transition (answer : JobBehaviour ρ → Exit Failure TransitionResponse) (moment : Moment)
    (request : TransitionRequest ρ) : JobProgram ρ Unit := do
  let behaviour ← Program.getEnv
  Program.modifyWorld fun world =>
    { world with trace := world.trace ++ [.requested request (leaseLostAt behaviour world moment)] }
  let response ← Program.tryCatch (callApi answer) fun _ => Program.raise .leaseLost
  requireTransition response request.expected
  Program.modifyWorld fun world => { world with trace := world.trace ++ [.acknowledged request] }

def requireValid (moment : Moment) : JobProgram ρ Unit := do
  let behaviour ← Program.getEnv
  let world ← Program.getWorld
  if leaseLostAt behaviour world moment then Program.raise .leaseLost

/-- `with keeper`: the thread may fail to start. -/
def startKeeper : JobProgram ρ Unit := do
  callApi JobBehaviour.keeperStart
  Program.modifyWorld fun world => { world with keeperStarted := true }

def handle : JobProgram ρ ρ := Program.perform fun behaviour => (behaviour.handler, behaviour)

def requireHeartbeat : JobProgram ρ Unit := do
  let leaseValid ← callApi JobBehaviour.finalHeartbeat
  if leaseValid then pure () else Program.raise .leaseLost

/-- The body of the `try` of `run_once`. -/
def workOn (job : Job) : JobProgram ρ Unit := do
  transition JobBehaviour.runningResponse .handling .running
  startKeeper
  let result ← handle
  requireValid .handling
  requireHeartbeat
  transition JobBehaviour.completeResponse .confirming (.complete result)
  atomicJson JobBehaviour.completeWrite { job, status := .complete }

def errorCodeOf (exc : Failure) : String :=
  match exc.errorCode with
  | some code => if code = "" then exc.typeName.toLower else code
  | none => exc.typeName.toLower

/-- The local record of an acknowledged failure: a class name that the guard takes for a
secret is replaced. -/
def recordFailed (job : Job) (exc : Failure) : JobProgram ρ Unit :=
  Program.tryCatch
    (atomicJson JobBehaviour.failedWrite { job, status := .failed, error := some exc.typeName })
    fun
    | .failure raised =>
      if raised.isValueError then
        atomicJson JobBehaviour.redactedWrite { job, status := .failed, error := some "redacted" }
      else Program.raise (.failure raised)
    | .leaseLost => Program.raise .leaseLost

def requestFail (exc : Failure) : JobProgram ρ Bool := do
  transition JobBehaviour.failResponse .failing (.fail (errorCodeOf exc))
  return true

def recordUncertain (job : Job) : JobProgram ρ Bool := do
  atomicJson JobBehaviour.uncertainWrite { job, status := .leaseLost }
  return false

/-- The branch of `run_once` for an exception other than `LeaseLost`. -/
def reportFailure (job : Job) (exc : Failure) : JobProgram ρ Bool := do
  let acknowledged ← Program.tryCatch (requestFail exc) fun _ => recordUncertain job
  if acknowledged then
    recordFailed job exc
    return true
  else return false

def recordLeaseLost (job : Job) : JobProgram ρ Bool := do
  atomicJson JobBehaviour.leaseLostWrite { job, status := .leaseLost }
  return false

def work (job : Job) : JobProgram ρ Bool := do
  workOn job
  return true

/-- `run_once`. -/
def runOnce : JobProgram ρ Bool := do
  match ← callApi JobBehaviour.claim with
  | none => return false
  | some job =>
    atomicJson JobBehaviour.runningWrite { job, status := .running }
    Program.tryCatch (work job) fun
      | .leaseLost => recordLeaseLost job
      | .failure exc => reportFailure job exc

end TradeJournalWorker
