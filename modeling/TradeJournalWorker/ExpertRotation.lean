import Mathlib.Logic.Function.Basic
import TradeJournalWorker.FaultProgram
import TradeJournalWorker.SlotTrees

namespace TradeJournalWorker

open FaultProgram

/-- `state/instance.json` with the pin of the runtime assets. -/
structure RuntimeRecord extends InstanceRecord where
  runtimeAssetsManifestSha256 : Option String := none
  runtimeAssetsManifestVersion : Option Int := none
  deriving DecidableEq, Repr

/-- `_MANAGED_RUNTIME_ASSETS` and the files beside the expert. -/
inductive ManagedFile where
  | bridge
  | discovery
  | loader
  | upgrade
  | rollback
  | staging
  deriving DecidableEq, Repr

def ManagedFile.path : ManagedFile → List String
  | bridge => ["MQL5", "Experts", "TradeJournal", "TradeJournalBridge.ex5"]
  | discovery => ["MQL5", "Scripts", "TradeJournal", "TradeJournalDiscovery.ex5"]
  | loader => ["MQL5", "Scripts", "TradeJournal", "TradeJournalLoader.ex5"]
  | upgrade => ["MQL5", "Experts", "TradeJournal", "TradeJournalBridge.ex5.upgrade"]
  | rollback => ["MQL5", "Experts", "TradeJournal", "TradeJournalBridge.ex5.rollback"]
  | staging => ["MQL5", "Experts", "TradeJournal", "TradeJournalBridge.ex5.tmp"]

def managedRuntimeAssets : List ManagedFile := [.bridge, .discovery, .loader]

def allManagedFiles : List ManagedFile :=
  [.bridge, .discovery, .loader, .upgrade, .rollback, .staging]

/-- The directories on the way to the assets. -/
def assetDirectories : List (List String) :=
  [["MQL5"], ["MQL5", "Experts"], ["MQL5", "Experts", "TradeJournal"], ["MQL5", "Scripts"],
    ["MQL5", "Scripts", "TradeJournal"]]

inductive HistoryMode where
  | newOnly
  | fromDate
  | allAvailable
  deriving DecidableEq, Repr

def HistoryMode.text : HistoryMode → String
  | newOnly => "new_only"
  | fromDate => "from_date"
  | allAvailable => "all_available"

/-- An instance on disk. `files` has the content of each managed file that is there, `others` is
the rest below `terminal`, and `record` what can be read in `state/instance.json`. -/
structure ExpertDisk where
  files : ManagedFile → Option String
  others : Tree
  historyMode : Option HistoryMode
  record : Option RuntimeRecord

/-- What is below `terminal`. -/
def ExpertDisk.terminal (disk : ExpertDisk) : Tree :=
  disk.others ++ allManagedFiles.filterMap fun file =>
    (disk.files file).map fun content => (file.path, .file content)

def putFile (file : ManagedFile) (content : Option String) (disk : ExpertDisk) : ExpertDisk :=
  { disk with files := Function.update disk.files file content }

/-- `MoveFileExW` over an existing target. -/
def moveFile (source target : ManagedFile) (disk : ExpertDisk) : ExpertDisk :=
  putFile source none (putFile target (disk.files source) disk)

def putRecord (record : RuntimeRecord) (disk : ExpertDisk) : ExpertDisk :=
  { disk with record := some record }

/-- What the agent is configured with. `expertBinary` is the content of the release file, `none`
where there is no regular `.ex5` file. -/
structure RotationSetup where
  checks : SlotChecks
  connectionId : String
  terminalSha256 : Option String
  expertBinary : Option String
  expertSha256 : Option String
  historyMode : HistoryMode

section Checks

variable (checks : SlotChecks)

/-- `_sha256` of a managed file. -/
def fileSha256 (file : ManagedFile) (disk : ExpertDisk) : Except String String := do
  let content ← orRaise (disk.files file) "file not found"
  return checks.sha256 content

/-- `_managed_runtime_assets_manifest`. -/
def runtimeAssetsManifest (disk : ExpertDisk) : Except String String := do
  demand (∀ path ∈ assetDirectories, nodeAt disk.others path = some .directory)
    "published managed runtime asset path invalid"
  demand (∀ file ∈ managedRuntimeAssets, (disk.files file).isSome)
    "published managed runtime asset missing"
  let entries := managedRuntimeAssets.map fun file =>
    posixPath file.path ++ ":" ++ checks.sha256 ((disk.files file).getD "")
  return checks.sha256 ("\n".intercalate entries)

/-- `validate` with `verify_code=False`. -/
def validateUncoded (connectionId : String) (disk : ExpertDisk) : Except String RuntimeRecord := do
  let record ← orRaise disk.record "published instance missing"
  demand (record.connectionId = some connectionId ∧ record.status = some "provisioned")
    "existing instance is not a completed publication"
  return record

def pinMissing : String := "published managed runtime asset pin missing"

/-- `validate_runtime_assets`. -/
def validateRuntimeAssets (connectionId : String) (disk : ExpertDisk) : Except String String := do
  let record ← validateUncoded connectionId disk
  let recorded ← orRaise record.runtimeAssetsManifestSha256 pinMissing
  demand (recorded.length = 64) pinMissing
  let actual ← runtimeAssetsManifest checks disk
  demand (actual = recorded) "published managed runtime assets mismatch"
  return actual

end Checks

/-- The answers of the file system to the operations of a rotation, in their order. -/
abbrev RotationProgram (α : Type) := Program (List (WriteAnswer String)) ExpertDisk String α

def writing (change : ExpertDisk → ExpertDisk) : RotationProgram Unit :=
  Program.write (nextAnswer .done) change

/-- An operation that changes nothing on disk and may fail. -/
def reading {α : Type} (read : ExpertDisk → Except String α) : RotationProgram α := do
  writing id
  let disk ← Program.getWorld
  match read disk with
  | .ok value => pure value
  | .error error => Program.raise error

def insist (condition : Bool) (error : String) : RotationProgram Unit :=
  if condition then pure () else Program.raise error

def onlyWhen (condition : Bool) (p : RotationProgram Unit) : RotationProgram Unit :=
  if condition then p else pure ()

/-- `unlink_readonly_file`. -/
def unlinkFile (file : ManagedFile) : RotationProgram Unit := do
  let disk ← Program.getWorld
  onlyWhen (disk.files file).isSome (writing (putFile file none))

/-- `make_regular_file_writable`. -/
def makeWritable (file : ManagedFile) : RotationProgram Unit :=
  reading fun disk => demand (disk.files file).isSome "durable file missing"

/-- `durable_replace`. -/
def durableReplace (source target : ManagedFile) : RotationProgram Unit := do
  reading fun disk => demand (disk.files source).isSome "file not found"
  writing (moveFile source target)

/-- `durable_copy_contents`; `torn` is what a copy that is cut off leaves behind. -/
def durableCopyContents (torn : String) (content : ExpertDisk → Option String)
    (destination : ManagedFile) : RotationProgram Unit := do
  reading fun disk => demand (disk.files destination = none) "file exists"
  writing (putFile destination (some torn))
  Program.tryCatch
    (do
      let copied ← reading fun disk => orRaise (content disk) "file not found"
      writing (putFile destination (some copied))
      makeWritable destination)
    fun error => do
      unlinkFile destination
      Program.raise error

section Rotation

variable (checks : SlotChecks) (torn connectionId : String)

/-- The record with the two manifests of the new expert. -/
def resealed (previous : RuntimeRecord) (code assets : String) : RuntimeRecord :=
  { previous with
    templateCodeManifestSha256 := some code
    runtimeAssetsManifestSha256 := some assets
    runtimeAssetsManifestVersion := some 1 }

/-- The `try` block of `rotate_managed_expert`. -/
def replaceExpert (source expected previousSha256 : String) (previous : RuntimeRecord) :
    RotationProgram String := do
  durableCopyContents torn (fun disk => disk.files .bridge) .rollback
  let kept ← reading (fileSha256 checks .rollback)
  insist (kept = previousSha256) "managed expert rollback copy integrity failed"
  durableCopyContents torn (fun _ => some source) .upgrade
  let staged ← reading (fileSha256 checks .upgrade)
  insist (staged = expected) "managed expert copy integrity failed"
  makeWritable .bridge
  durableReplace .upgrade .bridge
  let published ← reading (fileSha256 checks .bridge)
  insist (published = expected) "published managed expert digest mismatch"
  let code ← reading fun disk => codeManifest checks disk.terminal
  let assets ← reading (runtimeAssetsManifest checks)
  writing (putRecord (resealed previous code assets))
  reading (validateRuntimeAssets checks connectionId)

/-- The `except` block: the exception that leaves it, and whether the rollback copy is kept. -/
def restoreExpert (previousSha256 : String) (previous : RuntimeRecord) (error : String) :
    RotationProgram (String × Bool) := do
  let current ← Program.tryCatch (some <$> reading (fileSha256 checks .bridge))
    fun _ => pure none
  if current = some previousSha256 then return (error, false)
  Program.tryCatch
    (do
      let kept ← reading (fileSha256 checks .rollback)
      insist (kept = previousSha256) "managed expert rollback copy integrity failed"
      makeWritable .rollback
      makeWritable .bridge
      durableReplace .rollback .bridge
      let restored ← reading (fileSha256 checks .bridge)
      insist (restored = previousSha256) "managed expert rollback integrity failed"
      writing (putRecord previous)
      let _ ← reading (validateRuntimeAssets checks connectionId)
      return (error, false))
    fun failure => do
      let disk ← Program.getWorld
      return (failure, (disk.files .rollback).isSome)

/-- The `finally` block. -/
def discardCopies (preserveRollback : Bool) : RotationProgram Unit := do
  unlinkFile .upgrade
  onlyWhen (! preserveRollback) (unlinkFile .rollback)

/-- The checks of the release file; the result is its content. -/
def checkExpertSource (expertBinary : Option String) (expected : String) :
    Except String String := do
  let source ← orRaise expertBinary "managed expert source invalid"
  demand (isSha256 expected ∧ checks.sha256 source = expected) "managed expert source invalid"
  return source

def rotationPending (disk : ExpertDisk) : Bool :=
  (disk.files .upgrade).isSome || (disk.files .rollback).isSome

/-- `rotate_managed_expert`. -/
@[irreducible] def rotateManagedExpert (expertBinary : Option String) (expectedSha256 : String) :
    RotationProgram String := do
  let _ ← reading (validateUncoded connectionId)
  let _ ← reading (validateRuntimeAssets checks connectionId)
  let expected := String.ofList ((stripText expectedSha256).toList.map Char.toLower)
  let source ← reading fun _ => checkExpertSource checks expertBinary expected
  let current ← reading (fileSha256 checks .bridge)
  if current = expected then reading (validateRuntimeAssets checks connectionId)
  else do
    let previous ← reading fun disk => orRaise disk.record "published instance state invalid"
    reading fun disk => demand (¬ rotationPending disk) "managed expert rotation already pending"
    let previousSha256 ← reading (fileSha256 checks .bridge)
    let sealed ← Program.tryCatch
      (replaceExpert checks torn connectionId source expected previousSha256 previous)
      fun error => do
        let outcome ← restoreExpert checks connectionId previousSha256 previous error
        discardCopies outcome.2
        Program.raise outcome.1
    discardCopies false
    writing id
    return sealed

/-- `seal_runtime_assets`. -/
def sealRuntimeAssets : RotationProgram String := do
  let record ← reading (validateUncoded connectionId)
  let digest ← reading (runtimeAssetsManifest checks)
  match record.runtimeAssetsManifestSha256 with
  | some recorded =>
    insist (recorded = digest) "published managed runtime assets mismatch"
    return digest
  | none =>
    writing (putRecord { record with
      runtimeAssetsManifestSha256 := some digest
      runtimeAssetsManifestVersion := some 1 })
    return digest

end Rotation

section Ensure

variable (setup : RotationSetup) (torn : String)

/-- `_verify_binary_pin` on the terminal and on the release file. -/
def verifyBinaryPins (disk : ExpertDisk) : Except String Unit := do
  demand (setup.terminalSha256.all fun expected =>
      (nodeAt disk.others ["terminal64.exe"]).any fun node =>
        node.isFile ∧ setup.checks.sha256 node.content = expected)
    "pinned binary digest mismatch"
  demand (setup.expertSha256.all fun expected =>
      setup.expertBinary.any fun content => setup.checks.sha256 content = expected)
    "pinned binary digest mismatch"

/-- The part of `install_expert` that concerns the expert. -/
def installExpert : RotationProgram Unit := do
  let source ← reading fun _ => orRaise setup.expertBinary "expert_binary_missing"
  let sourceSha256 := setup.checks.sha256 source
  Program.tryFinally
    (Program.tryCatch
      (do
        unlinkFile .staging
        let disk ← Program.getWorld
        if (disk.files .bridge).map setup.checks.sha256 = some sourceSha256 then
          makeWritable .bridge
        else do
          durableCopyContents torn (fun _ => some source) .staging
          let copied ← reading (fileSha256 setup.checks .staging)
          insist (copied = sourceSha256) "expert_copy_integrity_failed"
          durableReplace .staging .bridge
          let published ← reading (fileSha256 setup.checks .bridge)
          insist (published = sourceSha256) "expert_publish_integrity_failed")
      fun error => Program.raise
        (if error ∈ ["expert_copy_integrity_failed", "expert_publish_integrity_failed"] then error
        else "expert_install_failed"))
    (Program.tryCatch (unlinkFile .staging) fun _ =>
      Program.raise "expert_staging_cleanup_failed")
  reading fun disk => demand (disk.files .discovery).isSome "discovery_script_missing"
  writing fun disk => { disk with historyMode := some setup.historyMode }

/-- `runtime.resume`: the installation, and the start of the terminal up to its heartbeat. -/
def resumeTerminal : RotationProgram Unit := do
  installExpert setup torn
  writing id

/-- The check of the runtime assets with the migration of an instance without a pin. -/
def ensureRuntimeAssets (running : Bool) : RotationProgram Unit :=
  Program.tryCatch
    (do
      let _ ← reading (validateRuntimeAssets setup.checks setup.connectionId)
      return ())
    fun error => do
      insist (error = pinMissing ∧ running) "provisioned managed runtime assets invalid"
      Program.tryCatch
        (do
          let _ ← sealRuntimeAssets setup.checks setup.connectionId
          return ())
        fun _ => Program.raise "legacy runtime asset migration failed"

/-- `expert_needs_rotation`. -/
def expertNeedsRotation : RotationProgram Bool :=
  match setup.expertSha256 with
  | none => return false
  | some expected => do
    let current ← Program.tryCatch (reading (fileSha256 setup.checks .bridge)) fun _ =>
      Program.raise "provisioned managed expert unavailable"
    return current ≠ expected

/-- `process.stop` and `process.cleanup_path`. -/
def stopTerminal : RotationProgram Unit := do
  writing id
  writing id

/-- The stop of the terminal and the rotation. -/
def restartManaged (running rotation : Bool) : RotationProgram Unit :=
  Program.tryCatch
    (do
      onlyWhen running stopTerminal
      onlyWhen rotation do
        let _ ← rotateManagedExpert setup.checks torn setup.connectionId setup.expertBinary
          (setup.expertSha256.getD "")
        return ())
    fun _ => Program.raise
      (if rotation then "managed expert rotation failed" else "managed history mode restart failed")

/-- The start of a terminal that does not run. -/
def startStopped : RotationProgram Unit := do
  let _ ← Program.tryCatch (reading (validateUncoded setup.connectionId)) fun _ =>
    Program.raise "provisioned instance code integrity validation failed"
  resumeTerminal setup torn

/-- `_ensure_current_managed_expert`; `running` is whether the terminal is found running. -/
@[irreducible] def ensureCurrentManagedExpert (running : Bool) : RotationProgram Unit := do
  reading (verifyBinaryPins setup)
  ensureRuntimeAssets setup running
  let rotation ← expertNeedsRotation setup
  let disk ← Program.getWorld
  let restart : Bool := rotation || disk.historyMode ≠ some setup.historyMode
  onlyWhen restart (restartManaged setup torn running rotation)
  onlyWhen (restart || ! running) (startStopped setup torn)

end Ensure

end TradeJournalWorker
