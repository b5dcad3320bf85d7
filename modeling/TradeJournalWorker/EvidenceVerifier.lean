import TradeJournalWorker.ControlInvariants

namespace TradeJournalWorker.Lab

inductive Outcome where
  | fail
  | inconclusive
  | syntheticPass
  | pass
  deriving DecidableEq, Repr

/-- `_SEVERITY_ORDER`. -/
def Outcome.severity : Outcome → Nat
  | fail => 0
  | inconclusive => 1
  | syntheticPass => 2
  | pass => 3

/-- `_worse`. -/
def Outcome.worse (a b : Outcome) : Outcome := if a.severity ≤ b.severity then a else b

structure VerifierEvaluation where
  outcome : Outcome
  reasons : List String
  deriving DecidableEq, Repr

/-- The roles of `_ROLE_TEMPLATES`. -/
inductive ArtifactRole where
  | evidence (control : Control)
  | etwEvidenceExport
  | wfpEvidenceExport
  | networkSummary
  | wprStartIntent
  | wprStopIntent
  | jobIdentityPreimage (control : Control)
  | rootProcessGenerationPreimage (control : Control)
  deriving DecidableEq, Repr

namespace Control

def lower : Control → String
  | c0 => "c0"
  | c1 => "c1"
  | c2 => "c2"
  | c3 => "c3"
  | c4 => "c4"
  | c5 => "c5"

/-- `CONTROLS_C012`. -/
def c012 : List Control := [c0, c1, c2]

/-- `CONTROLS_DIRECT`. -/
def direct : List Control := [c3, c4, c5]

end Control

namespace ArtifactRole

def text : ArtifactRole → String
  | evidence control => "evidence_" ++ control.lower
  | etwEvidenceExport => "etw_evidence_export"
  | wfpEvidenceExport => "wfp_evidence_export"
  | networkSummary => "network_summary"
  | wprStartIntent => "wpr_start_intent"
  | wprStopIntent => "wpr_stop_intent"
  | jobIdentityPreimage control => "job_identity_preimage_" ++ control.lower
  | rootProcessGenerationPreimage control => "root_process_generation_preimage_" ++ control.lower

/-- What the template puts behind the run id. -/
def suffix : ArtifactRole → String
  | evidence control => ".evidence." ++ control.lower ++ ".json"
  | etwEvidenceExport => ".etw-evidence.sanitized.json"
  | wfpEvidenceExport => ".wfp-security.sanitized.jsonl"
  | networkSummary => ".network-summary.json"
  | wprStartIntent => ".wpr-start.json"
  | wprStopIntent => ".wpr-stop.json"
  | jobIdentityPreimage control => ".job-identity." ++ control.lower ++ ".json"
  | rootProcessGenerationPreimage control =>
    ".root-process-generation." ++ control.lower ++ ".json"

def fileName (runId : String) (role : ArtifactRole) : String := runId ++ role.suffix

/-- The keys of `_ROLE_TEMPLATES`. -/
def all : List ArtifactRole :=
  Control.all.map evidence ++
    [etwEvidenceExport, wfpEvidenceExport, networkSummary, wprStartIntent, wprStopIntent] ++
    Control.c012.map jobIdentityPreimage ++ Control.c012.map rootProcessGenerationPreimage

end ArtifactRole

abbrev Bytes := List UInt8

/-- The regular files of a run directory by their names. -/
abbrev RunDirectory := String → Option Bytes

/-- The files of the roles that are there. -/
abbrev ArtifactManifest := ArtifactRole → Option Bytes

/-- `validate_run_id`. -/
def validateRunId (runId : String) : Except String String :=
  if isCanonicalUuid runId then .ok runId
  else .error "run_id must be in canonical lowercase hyphenated UUID form"

/-- `build_run_artifact_manifest`. -/
def buildRunArtifactManifest (runDir : RunDirectory) (runId : String) : ArtifactManifest :=
  fun role => if role ∈ ArtifactRole.all then runDir (role.fileName runId) else none

section Digests

variable (env : LabEnv) (manifest : ArtifactManifest)

/-- `_require_manifest_file`. -/
def requireManifestFile (role : ArtifactRole) : Option Bytes × List String :=
  match manifest role with
  | none => (none, ["captured_export_artifact_missing:" ++ role.text])
  | some bytes =>
    if bytes = [] then (none, ["captured_export_artifact_empty:" ++ role.text])
    else (some bytes, [])

inductive DigestStatus where
  | verified
  | missing
  | mismatch
  deriving DecidableEq, Repr

/-- `_verify_raw_file_digest`. -/
def verifyRawFileDigest (role : ArtifactRole) (claimedDigest : Option String) :
    DigestStatus × List String :=
  match claimedDigest with
  | none => (.missing, [])
  | some claimed =>
    if isLowerSha256 claimed = false then (.mismatch, ["claimed_digest_malformed:" ++ role.text])
    else
      match requireManifestFile manifest role with
      | (none, reasons) => (.missing, reasons)
      | (some bytes, reasons) =>
        if env.sha256 bytes ≠ claimed then (.mismatch, reasons ++ ["digest_mismatch:" ++ role.text])
        else (.verified, reasons)

/-- `_verify_structured_digest`. -/
def verifyStructuredDigest (role : ArtifactRole) (claimedDigest : Option String)
    (artifactType : String) (schemaVersion : Nat) :
    DigestStatus × Option JsonValue × List String :=
  match claimedDigest with
  | none => (.missing, none, [])
  | some claimed =>
    if isLowerSha256 claimed = false then
      (.mismatch, none, ["claimed_digest_malformed:" ++ role.text])
    else
      match requireManifestFile manifest role with
      | (none, reasons) => (.missing, none, reasons)
      | (some bytes, reasons) =>
        match env.loads bytes with
        | none =>
          (.missing, none, reasons ++ ["captured_export_artifact_unparseable:" ++ role.text])
        | some payload =>
          if contractDigest env artifactType schemaVersion payload ≠ claimed then
            (.mismatch, none, reasons ++ ["digest_mismatch:" ++ role.text])
          else (.verified, some payload, reasons)

/-- `_check_provenance`. -/
def checkProvenance (provenance : Provenance) (allowSynthetic : Bool) : Outcome × List String :=
  if provenance.origin = .syntheticFixture ∧ provenance.syntheticFixture = false then
    (.fail, ["provenance_origin_synthetic_flag_mismatch"])
  else if provenance.origin = .capturedExport ∧ provenance.syntheticFixture = true then
    (.fail, ["provenance_origin_captured_flag_mismatch"])
  else if provenance.origin = .syntheticFixture then
    if allowSynthetic then (.syntheticPass, ["synthetic_provenance"])
    else (.fail, ["synthetic_evidence_rejected_outside_test_mode"])
  else (.pass, [])

/-- One export that a digest of the body refers to. -/
def checkCapturedArtifact (claimed : Option String) (role : ArtifactRole) : Bool × List String :=
  match claimed with
  | none => (true, [])
  | some _ =>
    match requireManifestFile manifest role with
    | (none, reasons) => (false, reasons)
    | (some _, reasons) => (true, reasons)

/-- `_check_captured_artifacts_present`. -/
def checkCapturedArtifactsPresent (body : Evidence) : Outcome × List String :=
  let etw := checkCapturedArtifact manifest body.proofBinding.etwEvidenceSha256 .etwEvidenceExport
  let wfp := checkCapturedArtifact manifest body.proofBinding.wfpEvidenceSha256 .wfpEvidenceExport
  let summary := checkCapturedArtifact manifest body.network.flowRecordSetSha256 .networkSummary
  (if etw.1 && wfp.1 && summary.1 then .pass else .fail, etw.2 ++ wfp.2 ++ summary.2)

/-- What the status of a digest of an export makes of the verdict. -/
def exportVerdict (status : DigestStatus) (claimed : Option String) : Outcome :=
  match status with
  | .mismatch => .fail
  | .missing => if claimed.isSome then .fail else .inconclusive
  | .verified => .pass

/-- `_evaluate_proof_binding_digests`. -/
def evaluateProofBindingDigests (control : Control) (body : Evidence) : Outcome × List String :=
  let proof := body.proofBinding
  let etw := verifyRawFileDigest env manifest .etwEvidenceExport proof.etwEvidenceSha256
  let etwVerdict := exportVerdict etw.1 proof.etwEvidenceSha256
  if control ∈ Control.direct then
    let wfp := verifyRawFileDigest env manifest .wfpEvidenceExport proof.wfpEvidenceSha256
    (etwVerdict.worse (exportVerdict wfp.1 proof.wfpEvidenceSha256), etw.2 ++ wfp.2)
  else (etwVerdict, etw.2)

end Digests

section Network

/-- A flow of the summary that is neither of the process nor attributed. -/
def unattributedFlow : JsonValue → Bool
  | .obj flow =>
    !(JsonValue.get flow "process_scoped").truthy && !(JsonValue.get flow "attributed").truthy
  | _ => false

def processScopedFlow : JsonValue → Bool
  | .obj flow => (JsonValue.get flow "process_scoped").truthy
  | _ => false

/-- `_cross_check_network_summary_content`. -/
def crossCheckNetworkSummaryContent (network : Network) (summary : Members) :
    Outcome × List String :=
  match JsonValue.get summary "flows", JsonValue.get summary "dns_events" with
  | .arr flows, .arr dnsEvents =>
    if flows.any unattributedFlow then (.fail, ["network_summary_unattributed_flow_present"])
    else if ((flows.countP processScopedFlow : Nat) : Int) ≠ network.processScopedTcpFlows then
      (.fail, ["network_summary_process_scoped_count_mismatch"])
    else if (dnsEvents.length : Int) ≠ network.dnsEvents then
      (.fail, ["network_summary_dns_event_count_mismatch"])
    else (.pass, [])
  | _, _ => (.inconclusive, ["network_summary_shape_unrecognized"])

/-- What the summary's digest makes of the verdict. -/
def summaryVerdict (network : Network) :
    DigestStatus × Option JsonValue × List String → Outcome × List String
  | (.mismatch, _, reasons) => (.fail, reasons)
  | (.missing, _, reasons) => (.inconclusive, reasons)
  | (.verified, some (.obj summary), reasons) =>
    let checked := crossCheckNetworkSummaryContent network summary
    (checked.1, reasons ++ checked.2)
  | (.verified, _, reasons) => (.pass, reasons)

/-- `_evaluate_network`. -/
def evaluateNetwork (env : LabEnv) (body : Evidence) (manifest : ArtifactManifest) :
    Outcome × List String :=
  let network := body.network
  let endpoint := 0 < network.candidateTcpFlows ∧ body.runContext.candidateEndpoint = none
  let foreign := 0 < network.otherTcpFlows ∧ network.attributionUnambiguous = false
  let summary := summaryVerdict network
    (verifyStructuredDigest env manifest .networkSummary network.flowRecordSetSha256
      "NETWORK_SUMMARY" 1)
  ((if endpoint ∨ foreign then Outcome.fail else .pass).worse summary.1,
    (if endpoint then ["candidate_tcp_flows_without_candidate_endpoint"] else []) ++
      (if foreign then ["unattributed_foreign_tcp_flow"] else []) ++ summary.2)

end Network

/-- `_evaluate_timeline_clock_coherence`. -/
def evaluateTimelineClockCoherence (timeline : Timeline) : Outcome × List String :=
  if clockCoherent timeline then (.pass, []) else (.fail, ["timeline_qpc_utc_disagreement"])

/-- The evidence bodies that were read, in the order of the controls. -/
abbrev EvidenceBodies := List (Control × Evidence)

section Continuity

variable (env : LabEnv) (manifest : ArtifactManifest)

/-- `_JOB_IDENTITY_PAYLOAD_KEYS`. -/
def jobIdentityPayloadKeys : List String :=
  ["c012_session_id", "job_id", "kill_on_job_close_verified", "breakaway_allowed",
    "silent_breakaway_allowed", "windows_session_id"]

/-- `_ROOT_PROCESS_GENERATION_PAYLOAD_KEYS`. -/
def rootProcessGenerationPayloadKeys : List String :=
  ["root_pid", "root_kernel_creation_utc_ticks"]

/-- `_preimage_payload`. -/
def preimagePayload (raw : JsonValue) (keys : List String) : Option Members :=
  match raw with
  | .obj members =>
    let names := members.map Prod.fst
    if (∀ key ∈ keys, key ∈ names) ∧ ∀ name ∈ names, name ∈ keys then
      some (keys.map fun key => (key, JsonValue.get members key))
    else none
  | _ => none

/-- What came of one preimage: a verdict at once, its payload, or nothing verified. -/
inductive Preimage where
  | failed (reasons : List String)
  | unverified (reasons : List String)
  | payload (members : Members) (reasons : List String)

def checkPreimage (role : ArtifactRole) (claimed artifactType : String) (keys : List String)
    (shapeError : String) : Preimage :=
  match verifyStructuredDigest env manifest role (some claimed) artifactType 1 with
  | (.mismatch, _, reasons) => .failed reasons
  | (.verified, some raw, reasons) =>
    match preimagePayload raw keys with
    | some members => .payload members reasons
    | none => .failed (reasons ++ [shapeError])
  | (_, _, reasons) => .unverified reasons

/-- The preimages collected so far. -/
structure Preimages where
  allVerified : Bool := true
  jobIdentities : List Members := []
  rootGenerations : List Members := []
  reasons : List String := []

/-- The loop over the controls; a definite verdict leaves it. -/
def collectPreimages (claimedJob claimedRoot : String) (found : Preimages) :
    List Control → Except (List String) Preimages
  | [] => .ok found
  | control :: rest =>
    let afterJob : Except (List String) Preimages :=
      match checkPreimage env manifest (.jobIdentityPreimage control) claimedJob "JOB_IDENTITY"
        jobIdentityPayloadKeys ("job_identity_preimage_shape_invalid:" ++ control.text) with
      | .failed reasons => .error (found.reasons ++ reasons)
      | .unverified reasons =>
        .ok { found with allVerified := false, reasons := found.reasons ++ reasons }
      | .payload members reasons =>
        .ok { found with
          jobIdentities := found.jobIdentities ++ [members], reasons := found.reasons ++ reasons }
    match afterJob with
    | .error reasons => .error reasons
    | .ok found =>
      match checkPreimage env manifest (.rootProcessGenerationPreimage control) claimedRoot
        "ROOT_PROCESS_GENERATION" rootProcessGenerationPayloadKeys
        ("root_process_generation_preimage_shape_invalid:" ++ control.text) with
      | .failed reasons => .error (found.reasons ++ reasons)
      | .unverified reasons =>
        collectPreimages claimedJob claimedRoot
          { found with allVerified := false, reasons := found.reasons ++ reasons } rest
      | .payload members reasons =>
        collectPreimages claimedJob claimedRoot
          { found with
            rootGenerations := found.rootGenerations ++ [members]
            reasons := found.reasons ++ reasons } rest

/-- The payloads after the first one equal it. -/
def samePayloads : List Members → Bool
  | [] => true
  | first :: rest => rest.all fun other => JsonValue.equals (.obj other) (.obj first)

/-- `_evaluate_job_root_continuity`. -/
def evaluateJobRootContinuity (bodies : EvidenceBodies) : Outcome × List String :=
  let missing := Control.c012.filter fun control => (bodies.lookup control).isNone
  if missing ≠ [] then
    (.inconclusive, ["continuity_control_missing:" ++ joinTexts "," (missing.map Control.text)])
  else
    let bindings := Control.c012.filterMap fun control =>
      (bodies.lookup control).map Evidence.lifecycleBinding
    match bindings with
    | [] => (.inconclusive, [])
    | first :: rest =>
      if rest.any fun binding => binding.jobIdentitySha256 ≠ first.jobIdentitySha256 ||
          binding.rootProcessGenerationSha256 ≠ first.rootProcessGenerationSha256 then
        (.fail, ["job_root_digest_mismatch_across_controls"])
      else
        match collectPreimages env manifest first.jobIdentitySha256
          first.rootProcessGenerationSha256 {} Control.c012 with
        | .error reasons => (.fail, reasons)
        | .ok found =>
          if found.allVerified = false then
            (.inconclusive, found.reasons ++ ["job_root_continuity_unverified_digest_only"])
          else if samePayloads found.jobIdentities = false then
            (.fail, found.reasons ++ ["job_identity_preimage_content_mismatch"])
          else if samePayloads found.rootGenerations = false then
            (.fail, found.reasons ++ ["root_process_generation_preimage_content_mismatch"])
          else (.pass, found.reasons)

end Continuity

/-- `_evaluate_direct_campaign_sequence`. -/
def evaluateDirectCampaignSequence (bodies : EvidenceBodies) : Outcome × List String :=
  match bodies.lookup .c3, bodies.lookup .c4, bodies.lookup .c5 with
  | some c3, some c4, some c5 =>
    if c4.runContext.startedAtUnix < c3.runContext.completedAtUnix then
      (.fail, ["direct_campaign_c3_c4_overlap"])
    else if c5.runContext.startedAtUnix < c4.runContext.completedAtUnix then
      (.fail, ["direct_campaign_c4_c5_overlap"])
    else (.pass, [])
  | _, _, _ =>
    let missing := Control.direct.filter fun control => (bodies.lookup control).isNone
    (.inconclusive,
      ["direct_campaign_control_missing:" ++ joinTexts "," (missing.map Control.text)])

section Run

variable (env : LabEnv) (manifest : ArtifactManifest)

/-- What the evidence file of a control is: absent, refused with a reason, or a body. -/
inductive EvidenceFile where
  | absent
  | refused (reason : String)
  | body (evidence : Evidence)

def readEvidenceFile (control : Control) : EvidenceFile :=
  match manifest (.evidence control) with
  | none => .absent
  | some bytes =>
    match env.loads bytes with
    | none => .refused (control.text ++ ":evidence_artifact_unreadable")
    | some payload =>
      match validateEvidence env payload with
      | .error error => .refused (control.text ++ ":evidence_structural_invalid:" ++ error)
      | .ok evidence =>
        if evidence.control ≠ control then
          .refused (control.text ++ ":evidence_control_field_mismatch")
        else .body evidence

/-- The bodies of the files with the reasons of those that were refused. -/
def readEvidenceFiles : List Control → EvidenceBodies × List String
  | [] => ([], [])
  | control :: rest =>
    let others := readEvidenceFiles rest
    match readEvidenceFile env manifest control with
    | .absent => others
    | .refused reason => (others.1, reason :: others.2)
    | .body evidence => ((control, evidence) :: others.1, others.2)

/-- The checks of one body in order. -/
def bodyVerdicts (allowSynthetic : Bool) (control : Control) (body : Evidence) :
    List (Outcome × List String) :=
  let provenance := body.proofBinding.provenance
  [checkProvenance provenance allowSynthetic] ++
    (if provenance.origin = .capturedExport then [checkCapturedArtifactsPresent manifest body]
      else []) ++
    [evaluateProofBindingDigests env manifest control body, evaluateNetwork env body manifest,
      evaluateTimelineClockCoherence body.timeline]

def withControl (control : Control) (verdict : Outcome × List String) : Outcome × List String :=
  (verdict.1, verdict.2.map fun reason => control.text ++ ":" ++ reason)

/-- All verdicts that `overall` is folded from after the files have been read. -/
def runVerdicts (allowSynthetic : Bool) (bodies : EvidenceBodies) : List (Outcome × List String) :=
  (bodies.flatMap fun entry =>
    (bodyVerdicts env manifest allowSynthetic entry.1 entry.2).map (withControl entry.1)) ++
  (if Control.c012.all fun control => (bodies.lookup control).isSome then
    [evaluateJobRootContinuity env manifest bodies] else []) ++
  (if Control.direct.any fun control => (bodies.lookup control).isSome then
    [evaluateDirectCampaignSequence bodies] else [])

/-- `verify_captured_run` on the files of the manifest. -/
def verifyManifest (allowSynthetic : Bool) : VerifierEvaluation :=
  let files := readEvidenceFiles env manifest Control.all
  if files.1 = [] then ⟨.fail, "no_evidence_artifacts_found" :: files.2⟩
  else
    let verdicts := runVerdicts env manifest allowSynthetic files.1
    ⟨verdicts.foldl (fun overall verdict => overall.worse verdict.1)
      (if files.2 = [] then .pass else .fail), files.2 ++ verdicts.flatMap Prod.snd⟩

end Run

/-- `verify_captured_run`. -/
def verifyCapturedRun (env : LabEnv) (runDir : RunDirectory) (runId : String)
    (allowSynthetic : Bool) : Except String VerifierEvaluation := do
  let canonical ← validateRunId runId
  return verifyManifest env (buildRunArtifactManifest runDir canonical) allowSynthetic

end TradeJournalWorker.Lab
