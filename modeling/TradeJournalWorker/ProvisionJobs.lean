import TradeJournalWorker.LocalProgress

namespace TradeJournalWorker

open FaultProgram

/-- The `except` clauses at the end of the file bridge: an `AgentError` passes, anything
else, a lost lease too, becomes `LiveSyncFailed`. -/
def fileBridgeError : HandlerError → HandlerError
  | .endpoint => .endpoint
  | _ => .agent

/-- The history bundle and its delivery, which the `new_only` mode does without. -/
def importBundle (newOnly : Bool) : AccountProgram Unit :=
  if newOnly then pure ()
  else do
    operation
    requireLease
    operation
    operation

/-- The part of the file bridge under its `try`, up to the activation. -/
def verifyAndActivate (cid : String) (newOnly : Bool) : AccountProgram Unit := do
  checkpoint cid .verifyingReadOnly
  operation
  checkpoint cid .readOnlyVerified
  checkpoint cid .importingHistory
  requireLease
  operation
  importBundle newOnly
  checkpoint cid .historyReady
  checkpoint cid .startingLiveSync
  requireLease
  operation
  checkpoint cid .connected

/-- `_start_file_bridge_and_sync`. -/
def startFileBridgeAndSync (cid : String) (newOnly : Bool) : AccountProgram Unit := do
  operation
  requireLease
  checkpoint cid .startingNativeFileBridge
  operation
  operation
  operation
  checkpoint cid .terminalStarted
  checkpoint cid .bridgeReady
  operation
  Program.tryCatch (verifyAndActivate cid newOnly) fun error =>
    Program.raise (fileBridgeError error)
  wrapping .agent operation

/-- `_authenticate_and_sync`; the last operation is the end of the adapter's session. -/
def authenticateAndSync (cid : String) : AccountProgram Unit := do
  requireLease
  checkpoint cid .authenticating
  operation
  operation
  operation
  checkpoint cid .terminalStarted
  checkpoint cid .verifyingReadOnly
  operation
  checkpoint cid .readOnlyVerified
  checkpoint cid .importingHistory
  requireLease
  operation
  checkpoint cid .historyReady
  checkpoint cid .startingLiveSync
  requireLease
  wrapping .agent operation
  checkpoint cid .connected
  operation

/-- The wizard; only its own error is recorded as a failed discovery. -/
def runBrokerWizard (cid : String) : AccountProgram Unit :=
  Program.tryCatch operation fun error =>
    if error = .wizard then do
      checkpoint cid .brokerDiscoveryFailed
      Program.raise .agent
    else Program.raise error

def requireWizard (wizardConfigured : Bool) : AccountProgram Unit :=
  if wizardConfigured then pure () else Program.raise .agent

/-- The census branch before the credentials are stored. -/
def censusBroker (cid : String) (wizardConfigured : Bool) : AccountProgram Unit := do
  requireWizard wizardConfigured
  checkpointRemote
  wrapping .agent provisionInstance
  progress .censusingBroker (some cid)
  operation
  checkpoint cid .censusingBroker
  runBrokerWizard cid
  operation
  checkpoint cid .brokerCensused
  wrapping .agent operation
  requireLease

/-- One candidate endpoint: `true` when it authenticated, `false` when it was disproved. -/
def tryCandidate (cid : String) (newOnly : Bool) : AccountProgram Bool := do
  operation
  Program.tryCatch
    (do startFileBridgeAndSync cid newOnly
        checkpoint cid .candidateEndpointAuthenticated
        return true)
    fun error =>
      if error = .endpoint then do
        checkpoint cid .candidateEndpointRejected
        return false
      else Program.raise error

def tryCandidates (cid : String) (newOnly : Bool) : Nat → AccountProgram Bool
  | 0 => return false
  | count + 1 => do
    if ← tryCandidate cid newOnly then return true
    else tryCandidates cid newOnly count

/-- The wizard after all candidates failed. -/
def wizardAfterCandidates (cid : String) (newOnly wizardConfigured : Bool) :
    AccountProgram Unit := do
  requireWizard wizardConfigured
  operation
  checkpoint cid .censusingBroker
  runBrokerWizard cid
  operation
  startFileBridgeAndSync cid newOnly

def connectAccount (cid : String) (env : JobEnv) (plan : EndpointPlan) : AccountProgram Unit := do
  if env.adapterInjected then authenticateAndSync cid
  else
    match plan with
    | .candidates count =>
      if ← tryCandidates cid env.newOnly count then return ()
      else wizardAfterCandidates cid env.newOnly env.wizardConfigured
    | _ => startFileBridgeAndSync cid env.newOnly

/-- `_invalidate_failed_endpoint` before the error of the connection goes on. -/
def invalidateFailedEndpoint (error : HandlerError) : AccountProgram Unit :=
  if error = .endpoint then do
    wrapping .agent operation
    Program.raise error
  else Program.raise error

/-- A census precedes the credentials only where no endpoint is known. -/
def censusIfNeeded (cid : String) (env : JobEnv) (plan : EndpointPlan) : AccountProgram Unit :=
  if plan = .census then censusBroker cid env.wizardConfigured else pure ()

/-- `_provision_once`. -/
def provisionOnce (cid : String) : AccountProgram Unit := do
  let env ← Program.getEnv
  requireLease
  operation
  let plan ← Program.perform fun env : JobEnv => (env.plan, env)
  censusIfNeeded cid env plan
  operation
  checkpointRemote
  wrapping .agent operation
  Program.modifyWorld fun world => { world with secrets := true }
  wrapping .agent provisionInstance
  checkpoint cid .provisioned
  wrapping .agent operation
  Program.tryCatch (connectAccount cid env plan) invalidateFailedEndpoint
  operation
  operation
  progress .connected none

/-- The account is withdrawn from the supervisor before any work on it begins. -/
def withdrawExisting (cid : String) (protectedAtStart : Bool) (world : AccountWorld) :
    AccountProgram Unit :=
  if world.root.isSome && protectedAtStart then progress .provisioning (some cid) else pure ()

/-- The rest of an earlier failed provision goes away first. -/
def discardStale (protectedAtStart : Bool) (world : AccountWorld) : AccountProgram Unit :=
  if !protectedAtStart && (world.root.isSome || world.secrets) then
    wrapping .agent discardFailedProvision
  else pure ()

/-- The `except` clauses around `_provision_once`. -/
def provisionFailed (cid : String) (protectedAtStart : Bool) (error : HandlerError) :
    AccountProgram Unit :=
  if error = .leaseLost then Program.raise error
  else do
    let world ← Program.getWorld
    if protectedAtStart || isProtectedInstance cid world.root then Program.raise error
    else
      wrapping .agent discardFailedProvision
      Program.raise error

/-- `provision` on the disk it finds, with its `protected_at_start`. -/
def provisionFrom (cid : String) (protectedAtStart : Bool) (world : AccountWorld) :
    AccountProgram Unit := do
  withdrawExisting cid protectedAtStart world
  discardStale protectedAtStart world
  Program.tryCatch (provisionOnce cid) (provisionFailed cid protectedAtStart)

def provision (cid : String) : AccountProgram Unit := do
  let world ← Program.getWorld
  provisionFrom cid (isProtectedInstance cid world.root) world

/-- `InstanceProvisioner.validate`: there is no instance to work on without its directory. -/
def validateInstance : AccountProgram Unit := do
  let world ← Program.getWorld
  if world.root.isNone then Program.raise .agent else wrapping .agent operation

/-- The `try` of the file bridge branch of `historical_sync` and its `finally`. -/
def importHistory (newOnly : Bool) : AccountProgram Unit :=
  Program.tryFinally
    (do progress .importingHistory none
        operation
        operation
        if newOnly then pure () else operation)
    (if newOnly then pure ()
      else do
        operation
        requireLease
        wrapping .agent operation)

def historicalSync (cid : String) : AccountProgram Unit := do
  let env ← Program.getEnv
  operation
  validateInstance
  operation
  checkpoint cid .importingHistory
  requireLease
  if env.adapterInjected then do
    progress .authenticating none
    operation
    operation
    progress .importingHistory none
    requireLease
    operation
  else do
    operation
    importHistory env.newOnly
  checkpoint cid .connected

def liveSync (cid : String) : AccountProgram Unit := do
  validateInstance
  operation
  checkpoint cid .liveSyncRunning
  operation
  requireLease
  operation
  wrapping .agent operation
  checkpoint cid .connected

/-- A deprovision checkpoint is local only while the directory exists. -/
def checkpointIfPresent (cid : String) (status : LocalStatus) : AccountProgram Unit := do
  let world ← Program.getWorld
  if world.root.isSome then checkpoint cid status else checkpointRemote

def deprovision (cid : String) : AccountProgram Unit := do
  checkpointIfPresent cid .disconnecting
  wrapping .agent do
    operation
    Program.modifyWorld fun world => { world with activated := none }
    removeRoot
    removeSecrets
  checkpointIfPresent cid .disconnected

inductive AccountJob where
  | provision
  | historicalSync
  | liveSync
  | deprovision
  deriving DecidableEq, Repr

structure JobStep where
  job : AccountJob
  env : JobEnv := {}

def handler (cid : String) : AccountJob → AccountProgram Unit
  | .provision => provision cid
  | .historicalSync => historicalSync cid
  | .liveSync => liveSync cid
  | .deprovision => deprovision cid

/-- Whatever way a job ends, the disk is what the next one finds. -/
def runJob (cid : String) (world : AccountWorld) (step : JobStep) : AccountWorld :=
  (handler cid step.job step.env world).2.2

def runJobs (cid : String) (world : AccountWorld) (steps : List JobStep) : AccountWorld :=
  steps.foldl (runJob cid) world

/-- The instance that reached `connected` is still there with all its files. -/
def Survives (world : AccountWorld) : Prop :=
  ∀ tree, world.activated = some tree → ∃ inst, world.root = some inst ∧ inst.tree = tree

end TradeJournalWorker
