import TradeJournalWorker.FaultRules

namespace TradeJournalWorker

open FaultProgram

/-- The statuses the handlers write into `job_progress.json`. -/
inductive LocalStatus where
  | provisioning
  | censusingBroker
  | brokerCensused
  | brokerDiscoveryFailed
  | provisioned
  | startingNativeFileBridge
  | authenticating
  | terminalStarted
  | bridgeReady
  | verifyingReadOnly
  | readOnlyVerified
  | importingHistory
  | historyReady
  | startingLiveSync
  | connected
  | candidateEndpointAuthenticated
  | candidateEndpointRejected
  | liveSyncRunning
  | disconnecting
  | disconnected
  deriving DecidableEq, Repr

def LocalStatus.text : LocalStatus → String
  | provisioning => "provisioning"
  | censusingBroker => "censusing_broker"
  | brokerCensused => "broker_censused"
  | brokerDiscoveryFailed => "broker_discovery_failed"
  | provisioned => "provisioned"
  | startingNativeFileBridge => "starting_native_file_bridge"
  | authenticating => "authenticating"
  | terminalStarted => "terminal_started"
  | bridgeReady => "bridge_ready"
  | verifyingReadOnly => "verifying_read_only"
  | readOnlyVerified => "read_only_verified"
  | importingHistory => "importing_history"
  | historyReady => "history_ready"
  | startingLiveSync => "starting_live_sync"
  | connected => "connected"
  | candidateEndpointAuthenticated => "candidate_endpoint_authenticated"
  | candidateEndpointRejected => "candidate_endpoint_rejected"
  | liveSyncRunning => "live_sync_running"
  | disconnecting => "disconnecting"
  | disconnected => "disconnected"

/-- `FAILED_PROVISION_LOCAL_STATUSES`. -/
def failedProvisionLocalStatuses : List LocalStatus :=
  [.censusingBroker, .brokerCensused, .brokerDiscoveryFailed, .provisioned,
    .startingNativeFileBridge, .authenticating, .terminalStarted, .bridgeReady,
    .verifyingReadOnly, .readOnlyVerified, .importingHistory, .historyReady, .startingLiveSync]

/-- `job_progress.json` of an instance; `none` is an absent field or one of another type. -/
inductive ProgressFile where
  | missing
  | unreadable
  | entry (connectionId : Option String) (status : Option LocalStatus)
  deriving DecidableEq, Repr

/-- The directory of an instance. `tree` tells one copy of its files (terminal, live
snapshot, outbox, event checkpoint) from another. -/
structure Instance where
  tree : Nat
  progress : ProgressFile
  deriving DecidableEq, Repr

/-- One connection on disk. `activated` is a history: the tree that reached `connected`
and was not deprovisioned since. -/
structure AccountWorld where
  root : Option Instance := none
  secrets : Bool := false
  trees : Nat := 0
  activated : Option Nat := none
  deriving DecidableEq, Repr

/-- `_is_protected_instance`. -/
def isProtectedInstance (cid : String) (root : Option Instance) : Bool :=
  match root with
  | none => false
  | some inst =>
    match inst.progress with
    | .missing => true
    | .unreadable => true
    | .entry connectionId status =>
      if connectionId ≠ some cid then true
      else
        match status with
        | none => true
        | some status => status ∉ failedProvisionLocalStatuses

/-- What a handler can raise: `LeaseLost`, an `AgentError` that disproves an endpoint,
another `AgentError`, a `BrokerWizardError`, anything else. -/
inductive HandlerError where
  | leaseLost
  | endpoint
  | agent
  | wizard
  | other
  deriving DecidableEq, Repr

/-- What becomes of `shutil.rmtree` on the instance. -/
inductive RemoveAnswer where
  | removed
  | partly (progressKept : Bool)
  | refused
  | removedLate
  | crash
  | crashPartly (progressKept : Bool)
  deriving DecidableEq, Repr

/-- How `_provision_once` finds the broker: candidates to try in turn, a census with
the wizard, or a known endpoint. -/
inductive EndpointPlan where
  | candidates (count : Nat)
  | census
  | direct
  deriving DecidableEq, Repr

/-- The configuration of the handlers and what happens outside them during one job. -/
structure JobEnv where
  adapterInjected : Bool := false
  newOnly : Bool := false
  wizardConfigured : Bool := true
  plan : Exit HandlerError EndpointPlan := .returned .direct
  operations : List (Exit HandlerError Unit) := []
  progressCalls : List (Exit Unit Unit) := []
  writes : List (WriteAnswer Unit) := []
  removals : List RemoveAnswer := []

namespace JobEnv

def nextOperation (env : JobEnv) : Exit HandlerError Unit × JobEnv :=
  let (answer, rest) := nextAnswer (.returned ()) env.operations
  (answer, { env with operations := rest })

/-- `api.progress`: every failure of it is a lost lease. -/
def nextProgressCall (env : JobEnv) : Exit HandlerError Unit × JobEnv :=
  let (answer, rest) := nextAnswer (.returned ()) env.progressCalls
  (answer.mapError fun _ => .leaseLost, { env with progressCalls := rest })

def nextWrite (env : JobEnv) : WriteAnswer HandlerError × JobEnv :=
  let (answer, rest) := nextAnswer .done env.writes
  (answer.mapError fun _ => .other, { env with writes := rest })

def nextRemoval (env : JobEnv) : RemoveAnswer × JobEnv :=
  let (answer, rest) := nextAnswer .removed env.removals
  (answer, { env with removals := rest })

end JobEnv

abbrev AccountProgram (α : Type) := Program JobEnv AccountWorld HandlerError α

/-- Any work of a handler that leaves the recorded progress alone. -/
def operation : AccountProgram Unit := Program.perform JobEnv.nextOperation

/-- `_require_lease`. -/
def requireLease : AccountProgram Unit := operation

/-- `current.update(fields)` and the write of it. A missing directory is created. -/
def recordStatus (status : LocalStatus) (connectionId : Option String) (world : AccountWorld) :
    AccountWorld :=
  let inst := world.root.getD { tree := world.trees, progress := .missing }
  let trees := if world.root.isSome then world.trees else world.trees + 1
  let known := match inst.progress with
    | .entry known _ => known
    | _ => none
  { world with
    root := some { inst with progress := .entry (connectionId.orElse fun _ => known) (some status) }
    trees := trees
    activated := if status = .connected then some inst.tree else world.activated }

/-- `_progress`. -/
def progress (status : LocalStatus) (connectionId : Option String) : AccountProgram Unit := do
  let world ← Program.getWorld
  if world.root.map Instance.progress = some .unreadable then Program.raise .other
  else Program.write JobEnv.nextWrite (recordStatus status connectionId)

def checkpointRemote : AccountProgram Unit := Program.perform JobEnv.nextProgressCall

/-- `_record_checkpoint` with a local status. -/
def checkpoint (cid : String) (status : LocalStatus) : AccountProgram Unit := do
  checkpointRemote
  progress status (some cid)

/-- `shutil.rmtree(root)`. -/
def removeTree (world : AccountWorld) : AccountWorld := { world with root := none }

/-- A removal that stopped half way: the files are no longer those of the instance. -/
def damageTree (progressKept : Bool) (world : AccountWorld) : AccountWorld :=
  { world with
    root := world.root.map fun inst =>
      { tree := world.trees, progress := if progressKept then inst.progress else .missing }
    trees := world.trees + 1 }

def removeRoot : AccountProgram Unit := do
  match ← Program.consult JobEnv.nextRemoval with
  | .removed => Program.modifyWorld removeTree
  | .partly progressKept =>
    Program.modifyWorld (damageTree progressKept)
    Program.raise .other
  | .refused => Program.raise .other
  | .removedLate =>
    Program.modifyWorld removeTree
    Program.raise .other
  | .crash => Program.crash
  | .crashPartly progressKept =>
    Program.modifyWorld (damageTree progressKept)
    Program.crash

def removeSecrets : AccountProgram Unit := do
  operation
  Program.modifyWorld fun world => { world with secrets := false }

/-- Any exception of `body` becomes `error`. -/
def wrapping (error : HandlerError) (body : AccountProgram Unit) : AccountProgram Unit :=
  Program.tryCatch body fun _ => Program.raise error

/-- `_provision_instance`: an existing directory is validated, a missing one created. -/
def provisionInstance : AccountProgram Unit := do
  operation
  let world ← Program.getWorld
  if world.root.isSome then return ()
  else
    Program.write JobEnv.nextWrite fun world =>
      { world with
        root := some { tree := world.trees, progress := .missing }, trees := world.trees + 1 }

/-- `_discard_failed_provision`. -/
def discardFailedProvision : AccountProgram Unit := do
  operation
  removeRoot
  removeSecrets

end TradeJournalWorker
