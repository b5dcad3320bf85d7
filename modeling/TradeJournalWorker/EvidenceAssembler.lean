import TradeJournalWorker.ControlInvariants
import TradeJournalWorker.FaultRules

namespace TradeJournalWorker.Assembly

open FaultProgram Lab

/-- The hash, the readers and `validate_evidence`'s tables; the document that `validate_evidence`
hands back; and the text of the exception when an evidence file is no JSON. -/
structure AssemblyEnv where
  lab : LabEnv
  validated : JsonValue → JsonValue
  readError : List UInt8 → String

inductive AssemblyFailure where
  | assemblerError (message : String)
  | otherError
  deriving DecidableEq, Repr

abbrev Assembled (α : Type) := Except AssemblyFailure α

def refuse {α : Type} (message : String) : Assembled α := .error (.assemblerError message)

def roles : List String :=
  ["evidence_c0", "evidence_c1", "evidence_c2", "evidence_c3", "evidence_c4", "evidence_c5",
    "etw_evidence_export", "wfp_evidence_export", "network_summary",
    "job_identity_preimage_c0", "job_identity_preimage_c1", "job_identity_preimage_c2",
    "root_process_generation_preimage_c0", "root_process_generation_preimage_c1",
    "root_process_generation_preimage_c2"]

/-- What a path of the source directory leads to. -/
inductive SourceEntry where
  | missing
  | linked
  | regular (bytes : List UInt8)
  | unreadable (error : String)
  deriving DecidableEq, Repr

structure SourceDirectory where
  usable : Bool
  entry : String → SourceEntry

/-- `_run_id`. -/
def requireRunId (value : JsonValue) : Assembled String :=
  match value with
  | .str text => if isCanonicalUuid text then .ok text else .error .otherError
  | _ => refuse "run_id must be canonical lowercase UUID"

def normalizedPath (relative : String) : String :=
  String.ofList (relative.toList.map fun c => if c = '\\' then '/' else c)

/-- Texts are equal where their characters are; the membership tests below refer to it by name. -/
theorem lawfulText : LawfulBEq (List Char) := inferInstance

attribute [local instance] lawfulText

/-- The tests of `_safe_path` on the text. -/
def requireRelative (value : JsonValue) : Assembled String :=
  match value with
  | .str relative =>
    if relative = "" ∨ '\x00' ∈ relative.toList then refuse "unsafe manifest path"
    else if relative.toList.head? ∈ [some '/', some '\\'] ∨ relative.toList[1]? = some ':' then
      refuse "absolute, UNC or device path forbidden"
    else if (normalizedPath relative).toList.splitOn '/' |>.any (· ∈ [[], ['.'], ['.', '.']]) then
      refuse "path traversal forbidden"
    else .ok (normalizedPath relative)
  | _ => refuse "unsafe manifest path"

/-- `_safe_path`: the normalized text and what stands there. -/
def safePath (source : SourceDirectory) (value : JsonValue) : Assembled (String × SourceEntry) := do
  let relative ← requireRelative value
  if source.usable = false then .error .otherError
  else if source.entry relative = .linked then refuse "symlink/reparse point forbidden"
  else .ok (relative, source.entry relative)

structure PreparedFile where
  role : String
  path : String
  bytes : Option (List UInt8)

/-- What the loop over the roles has found so far. -/
structure Prepared where
  errors : List String := []
  evidenceOutputs : List String := []
  files : List PreparedFile := []
  paths : List String := []

/-- What is published of an evidence file, or why it is refused. -/
def checkEvidence (env : AssemblyEnv) (bytes : List UInt8) :
    Assembled (Except String (List UInt8)) :=
  match env.lab.loads bytes with
  | none => .ok (.error (env.readError bytes))
  | some payload =>
    match validateEvidence env.lab payload with
    | .error error => .ok (.error error)
    | .ok evidence =>
      let provenance := evidence.proofBinding.provenance
      if provenance.origin = .capturedExport ∧ provenance.syntheticFixture = true then
        refuse "synthetic fixture cannot be marked CAPTURED_EXPORT"
      else .ok (.ok (utf8Bytes (canonicalJson env.lab.floatText (env.validated payload))))

def isEvidenceRole (role : String) : Bool := "evidence_".toList.isPrefixOf role.toList

def Prepared.fail (found : Prepared) (error : String) : Prepared :=
  { found with errors := found.errors ++ [error] }

def Prepared.add (found : Prepared) (role path : String) (bytes : Option (List UInt8)) : Prepared :=
  { found with files := found.files ++ [⟨role, path, bytes⟩] }

def Prepared.addEvidence (found : Prepared) (role path : String) (bytes : List UInt8) : Prepared :=
  { found.add role path (some bytes) with evidenceOutputs := found.evidenceOutputs ++ [path] }

def invalidEvidence (role error : String) : String := "evidence_invalid:" ++ role ++ ":" ++ error

/-- The file of a role once its path is known to be safe and new. -/
def prepareFile (env : AssemblyEnv) (found : Prepared) (role path : String) (entry : SourceEntry) :
    Assembled Prepared :=
  match entry with
  | .missing => .ok (found.fail ("artifact_missing_or_empty:" ++ role))
  | .linked => .ok (found.fail ("artifact_missing_or_empty:" ++ role))
  | .unreadable error =>
    if isEvidenceRole role then .ok (found.fail (invalidEvidence role error))
    else .ok (found.add role path none)
  | .regular bytes =>
    if bytes = [] then .ok (found.fail ("artifact_missing_or_empty:" ++ role))
    else if isEvidenceRole role then do
      let checked ← checkEvidence env bytes
      match checked with
      | .error error => .ok (found.fail (invalidEvidence role error))
      | .ok payload => .ok (found.addEvidence role path payload)
    else .ok (found.add role path (some bytes))

def requireRole (role : String) : Assembled String :=
  if role ∈ roles then .ok role else refuse ("unknown manifest role: " ++ role)

/-- A round of the loop over `manifest.files`. -/
def prepareEntry (env : AssemblyEnv) (source : SourceDirectory) (found : Prepared)
    (entry : String × JsonValue) : Assembled Prepared := do
  let role ← requireRole entry.1
  let (path, content) ← safePath source entry.2
  if path ∈ found.paths then refuse "multiple roles cannot publish the same path"
  else prepareFile env { found with paths := found.paths ++ [path] } role path content

def manifestName (runId : String) : String := runId ++ ".artifact-manifest.json"

def reportName (runId : String) : String := runId ++ ".assembler-report.json"

/-- Everything that is tested before anything is written; `taken` are the names in the output. -/
def examine (env : AssemblyEnv) (source : SourceDirectory) (manifest : List (String × JsonValue))
    (taken : List String) : Assembled (String × Prepared) := do
  let runId ← requireRunId (JsonValue.get manifest "run_id")
  if manifestName runId ∈ taken then refuse "run_id is already published"
  else
    match JsonValue.get manifest "files" with
    | .obj files => do
      let prepared ← files.foldlM (prepareEntry env source) {}
      .ok (runId, prepared)
    | _ => refuse "manifest.files must be an object"

def reportJson (runId : String) (prepared : Prepared) : JsonValue :=
  .obj [("schema_version", .int 1), ("run_id", .str runId), ("assembler", .str "offline"),
    ("verdict", .null), ("errors", .arr (prepared.errors.map .str)),
    ("degraded", .bool (prepared.errors ≠ [])),
    ("evidence_outputs", .arr (prepared.evidenceOutputs.map .str))]

/-- An entry of the artifact manifest. -/
structure ManifestEntry where
  role : String
  path : String
  sha256 : String
  size : Nat

def entryJson (entry : ManifestEntry) : JsonValue :=
  .obj [("role", .str entry.role), ("relative_path", .str entry.path),
    ("sha256", .str entry.sha256), ("size_bytes", .int entry.size)]

def manifestBytes (env : AssemblyEnv) (runId : String) (entries : List ManifestEntry) :
    List UInt8 :=
  utf8Bytes (canonicalJson env.lab.floatText (.obj [("schema_version", .int 1),
    ("run_id", .str runId), ("files", .arr (entries.map entryJson))]))

def reportBytes (env : AssemblyEnv) (runId : String) (prepared : Prepared) : List UInt8 :=
  utf8Bytes (canonicalJson env.lab.floatText (reportJson runId prepared))

abbrev Answer := WriteAnswer AssemblyFailure

/-- What the file operations do: those in the stage and around it, the write of a failure report,
the renames into the output, the removals of the rollback, and the removal of the stage. -/
structure AssemblyFaults where
  steps : List Answer := []
  report : Answer := .done
  renames : List Answer := []
  removals : List Answer := []
  cleanup : Answer := .done

/-- The files of the output directory by their relative paths. -/
abbrev OutputFiles := OrderedDict String (List UInt8)

abbrev AssemblyProgram (α : Type) := Program AssemblyFaults OutputFiles AssemblyFailure α

def attempt {α : Type} (result : Assembled α) : AssemblyProgram α :=
  match result with
  | .ok value => pure value
  | .error failure => Program.raise failure

def AssemblyFaults.nextStep (faults : AssemblyFaults) : Answer × AssemblyFaults :=
  ((nextAnswer .done faults.steps).1, { faults with steps := (nextAnswer .done faults.steps).2 })

def AssemblyFaults.nextRename (faults : AssemblyFaults) : Answer × AssemblyFaults :=
  ((nextAnswer .done faults.renames).1, { faults with renames := (nextAnswer .done faults.renames).2 })

def AssemblyFaults.nextRemoval (faults : AssemblyFaults) : Answer × AssemblyFaults :=
  ((nextAnswer .done faults.removals).1,
    { faults with removals := (nextAnswer .done faults.removals).2 })

/-- An operation that the output does not show. -/
def step : AssemblyProgram Unit := Program.write AssemblyFaults.nextStep id

/-- Copies or writes a file into the stage and hashes it there. -/
def stageFile (env : AssemblyEnv) (file : PreparedFile) :
    AssemblyProgram (ManifestEntry × List UInt8) := do
  step
  match file.bytes with
  | none => Program.raise .otherError
  | some bytes =>
    pure (⟨file.role, file.path, env.lab.sha256 bytes, bytes.length⟩, bytes)

def stageFiles (env : AssemblyEnv) :
    List PreparedFile → AssemblyProgram (List (ManifestEntry × List UInt8))
  | [] => pure []
  | file :: rest => do
    let staged ← stageFile env file
    let others ← stageFiles env rest
    pure (staged :: others)

/-- `_durable_replace` with the directories made and synced before it: `failed` raises with nothing
moved, `failedLate` in the sync of the directory after the rename. -/
def durableReplace (path : String) (bytes : List UInt8) : AssemblyProgram Unit :=
  Program.write AssemblyFaults.nextRename fun output => output.set path bytes

/-- An exception of `unlink` is passed over. -/
def removeFile (path : String) : AssemblyProgram Unit :=
  Program.tryCatch (Program.write AssemblyFaults.nextRemoval fun output => output.erase path)
    fun _ => pure ()

def rollback : List String → AssemblyProgram Unit
  | [] => pure ()
  | path :: rest => do
    removeFile path
    rollback rest

/-- The renames in order; where one raises, what `published` lists is removed in reverse. -/
def publishAll : List (String × List UInt8) → List String → AssemblyProgram Unit
  | [], _ => pure ()
  | target :: rest, published => do
    Program.tryCatch (durableReplace target.1 target.2) fun failure => do
      rollback published.reverse
      Program.raise failure
    publishAll rest (published ++ [target.1])

/-- The publication order: the artifacts, the report, the manifest. -/
def publicationTargets (env : AssemblyEnv) (runId : String) (prepared : Prepared)
    (staged : List (ManifestEntry × List UInt8)) : List (String × List UInt8) :=
  staged.map (fun file => (file.1.path, file.2)) ++
    [(reportName runId, reportBytes env runId prepared),
      (manifestName runId, manifestBytes env runId (staged.map Prod.fst))]

def requireFree (targets : List (String × List UInt8)) (taken : List String) : Assembled Unit :=
  if ∃ target ∈ targets, target.1 ∈ taken then
    refuse "refusing to overwrite existing run artifacts"
  else .ok ()

/-- What stands under `try` up to the renames: the files to publish. -/
def stageRun (env : AssemblyEnv) (runId : String) (prepared : Prepared) :
    AssemblyProgram (List (String × List UInt8)) := do
  let staged ← stageFiles env prepared.files
  step
  step
  let output ← Program.getWorld
  attempt (requireFree (publicationTargets env runId prepared staged) output.keys)
  step
  pure (publicationTargets env runId prepared staged)

def stageAndPublish (env : AssemblyEnv) (runId : String) (prepared : Prepared) :
    AssemblyProgram Unit := do
  let targets ← stageRun env runId prepared
  publishAll targets []

/-- `shutil.rmtree(stage, ignore_errors=True)`: only a crash is seen. -/
def removeStage : AssemblyProgram Unit :=
  Program.perform fun faults =>
    match faults.cleanup with
    | .crash => (.crashed, faults)
    | _ => (.returned (), faults)

def publishRun (env : AssemblyEnv) (runId : String) (prepared : Prepared) :
    AssemblyProgram JsonValue := do
  attempt (if manifestName runId ∈ prepared.paths ∨ reportName runId ∈ prepared.paths then
    refuse "manifest path collides with assembler output" else .ok ())
  step
  Program.tryFinally (stageAndPublish env runId prepared) removeStage
  pure (reportJson runId prepared)

/-- Leaves a failure report and raises. -/
def failRun (env : AssemblyEnv) (runId : String) (prepared : Prepared) :
    AssemblyProgram JsonValue := do
  Program.write (fun faults => (AssemblyFaults.report faults, faults)) fun output =>
    output.set (reportName runId) (reportBytes env runId prepared)
  Program.raise (.assemblerError ("assembly failed: " ++ joinTexts "; " prepared.errors))

/-- `assemble_run`. -/
def assembleRun (env : AssemblyEnv) (source : SourceDirectory)
    (manifest : List (String × JsonValue)) : AssemblyProgram JsonValue := do
  let output ← Program.getWorld
  let (runId, prepared) ← attempt (examine env source manifest output.keys)
  if prepared.errors = [] then publishRun env runId prepared else failRun env runId prepared

end TradeJournalWorker.Assembly
