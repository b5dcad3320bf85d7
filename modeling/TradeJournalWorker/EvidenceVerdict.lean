import TradeJournalWorker.ControlInvariants
import TradeJournalWorker.StagedChecks

namespace TradeJournalWorker.Lab

open StagedChecks

def textJson : Option String → JsonValue
  | some text => .str text
  | none => .null

def boolMappingJson (mapping : BoolMapping) : JsonValue :=
  .obj (mapping.map fun entry => (entry.1, .bool entry.2))

def candidateJson : Option Candidate → JsonValue
  | some candidate =>
    .obj [("ip", .str candidate.ip), ("port", .int candidate.port),
      ("source_control", .str "C2"), ("observed_phase", .str "LOGIN"),
      ("process_scoped", .bool true)]
  | none => .null

def expectedTradeMode (context : RunContext) : Option String :=
  if context.expectsDemo then some "DEMO" else none

def runContextJson (context : RunContext) : JsonValue :=
  .obj [("experiment_id", .str context.experimentId), ("cohort", .str context.cohort),
    ("clone_id_sha256", .str context.cloneIdSha256),
    ("windows_user_sid_sha256", .str context.windowsUserSidSha256),
    ("portable_root_path_sha256", .str context.portableRootPathSha256),
    ("terminal_sha256", .str context.terminalSha256),
    ("terminal_build", .int context.terminalBuild),
    ("expected_server", textJson context.expectedServer),
    ("expected_company", textJson context.expectedCompany),
    ("expected_trade_mode", textJson (expectedTradeMode context)),
    ("requested_server_label_sha256", textJson context.requestedServerLabelSha256),
    ("credential_set_id", textJson context.credentialSetId),
    ("candidate_endpoint", candidateJson context.candidateEndpoint),
    ("started_at_unix", .int context.startedAtUnix),
    ("completed_at_unix", .int context.completedAtUnix)]

def lifecycleJson (control : Control) (binding : LifecycleBinding) : JsonValue :=
  .obj ([("schema_version", .int 1)] ++ lifecyclePolicy control ++
    [("c012_session_id", textJson binding.c012SessionId), ("job_id", .str binding.jobId),
      ("job_manifest_sha256", .str binding.jobManifestSha256),
      ("job_identity_sha256", .str binding.jobIdentitySha256),
      ("root_process_generation_sha256", .str binding.rootProcessGenerationSha256),
      ("transient_process_set_sha256", textJson binding.transientProcessSetSha256)])

def initialPreStateJson (binding : InitialPreStateBinding) : JsonValue :=
  .obj [("schema_version", .int 1), ("scope", .str binding.scope),
    ("portable_root_path_sha256", .str binding.portableRootPathSha256),
    ("initial_c012_pre_state_sha256", textJson binding.initialC012PreStateSha256)]

def stateTransitionJson (transition : StateTransition) : JsonValue :=
  .obj [("schema_version", .int 1), ("stage", .str transition.stage),
    ("broker_cache_state", .str transition.brokerCacheState),
    ("account_cache_state", .str transition.accountCacheState),
    ("sensitive_material_exported", .bool false),
    ("transition_evidence_sha256", textJson transition.transitionEvidenceSha256),
    ("transition_verified", .bool transition.transitionVerified)]

def captureIntegrityJson (integrity : CaptureIntegrity) : JsonValue :=
  .obj [("etw_started", .bool integrity.etwStarted), ("etw_stopped", .bool integrity.etwStopped),
    ("required_markers_present", .bool integrity.requiredMarkersPresent),
    ("buffers_lost", .int integrity.buffersLost), ("events_lost", .int integrity.eventsLost)]

def preStateJson : Option BoolMapping → JsonValue
  | some mapping => boolMappingJson mapping
  | none => .null

def networkJson (network : Network) : JsonValue :=
  .obj [("candidate_attempt_observed", .bool network.candidateAttemptObserved),
    ("candidate_connected", .bool network.candidateConnected),
    ("candidate_block_observed", .bool network.candidateBlockObserved),
    ("candidate_endpoint_safe", .bool network.candidateEndpointSafe),
    ("candidate_tuple_match", .bool network.candidateTupleMatch),
    ("attribution_unambiguous", .bool network.attributionUnambiguous),
    ("flow_record_set_verified", .bool network.flowRecordSetVerified),
    ("process_scoped_tcp_flows", .int network.processScopedTcpFlows),
    ("candidate_tcp_flows", .int network.candidateTcpFlows),
    ("other_tcp_flows", .int network.otherTcpFlows), ("dns_events", .int network.dnsEvents),
    ("non_tcp_network_events", .int network.nonTcpNetworkEvents),
    ("candidate_observed_phase", .str network.candidateObservedPhase.text),
    ("flow_record_set_sha256", textJson network.flowRecordSetSha256)]

def DeltaSource.text : DeltaSource → String
  | none => "NONE"
  | processScopedTcpFlowSet => "PROCESS_SCOPED_TCP_FLOW_SET"

def resultCountJson : Option Int → JsonValue
  | some n => .int n
  | none => .null

def discoveryJson (discovery : Discovery) : JsonValue :=
  .obj [("credentials_supplied", .bool discovery.credentialsSupplied),
    ("negative_exact_query_completed", .bool discovery.negativeExactQueryCompleted),
    ("expected_exact_result_count", .int discovery.expectedExactResultCount),
    ("exact_selection_completed", .bool discovery.exactSelectionCompleted),
    ("helper_secret_accessed", .bool discovery.helperSecretAccessed),
    ("unsafe_endpoint_promoted", .bool discovery.unsafeEndpointPromoted),
    ("cache_influence_excluded", .bool discovery.cacheInfluenceExcluded),
    ("endpoint_delta_acquired", .bool discovery.endpointDeltaAcquired),
    ("endpoint_delta_source", .str discovery.endpointDeltaSource.text),
    ("endpoint_delta_source_sha256", textJson discovery.endpointDeltaSourceSha256),
    ("endpoint_delta_source_verified", .bool discovery.endpointDeltaSourceVerified),
    ("selected_server_label_sha256", textJson discovery.selectedServerLabelSha256),
    ("exact_label_match_verified", .bool discovery.exactLabelMatchVerified),
    ("negative_query_label_sha256", textJson discovery.negativeQueryLabelSha256),
    ("negative_query_result_count", resultCountJson discovery.negativeQueryResultCount),
    ("negative_query_ui_binding_verified", .bool discovery.negativeQueryUiBindingVerified)]

def identityJson : Option Identity → JsonValue
  | some identity =>
    .obj (identity.flags.map (fun entry => (entry.1, JsonValue.bool entry.2)) ++
      [("probe_run_id", .str identity.probeRunId),
        ("probe_generated_at_unix", .int identity.probeGeneratedAtUnix),
        ("server", .str identity.server), ("company", .str identity.company),
        ("trade_mode", .str identity.tradeMode), ("terminal_build", .int identity.terminalBuild),
        ("terminal_path_sha256", textJson identity.terminalPathSha256),
        ("terminal_data_path_sha256", textJson identity.terminalDataPathSha256),
        ("identity_probe_output_sha256", textJson identity.identityProbeOutputSha256)])
  | none => .null

def provenanceJson (provenance : Provenance) : JsonValue :=
  .obj [("origin", .str provenance.origin.text),
    ("synthetic_fixture", .bool provenance.syntheticFixture),
    ("producer", .str provenance.origin.producer),
    ("artifact_set_id", .str provenance.artifactSetId)]

def proofDigestsJson (proof : ProofBinding) : List (String × JsonValue) :=
  [("candidate_endpoint_sha256", textJson proof.candidateEndpointSha256),
    ("candidate_handoff_manifest_sha256", textJson proof.candidateHandoffManifestSha256),
    ("control_plan_sha256", textJson proof.controlPlanSha256),
    ("credential_set_binding_sha256", textJson proof.credentialSetBindingSha256),
    ("etw_evidence_sha256", textJson proof.etwEvidenceSha256),
    ("experiment_manifest_sha256", textJson proof.experimentManifestSha256),
    ("firewall_plan_sha256", textJson proof.firewallPlanSha256),
    ("firewall_portable_root_binding_sha256", textJson proof.firewallPortableRootBindingSha256),
    ("job_identity_sha256", .str proof.jobIdentitySha256),
    ("job_manifest_sha256", textJson proof.jobManifestSha256),
    ("job_portable_root_binding_sha256", textJson proof.jobPortableRootBindingSha256),
    ("lifecycle_binding_sha256", textJson proof.lifecycleBindingSha256),
    ("negative_query_binding_sha256", textJson proof.negativeQueryBindingSha256),
    ("phase_timeline_sha256", textJson proof.phaseTimelineSha256),
    ("pre_state_binding_sha256", textJson proof.preStateBindingSha256),
    ("probe_path_binding_sha256", textJson proof.probePathBindingSha256),
    ("requested_label_binding_sha256", textJson proof.requestedLabelBindingSha256),
    ("root_process_generation_sha256", .str proof.rootProcessGenerationSha256),
    ("state_transition_sha256", textJson proof.stateTransitionSha256),
    ("wfp_evidence_sha256", textJson proof.wfpEvidenceSha256)]

def proofFlagsJson (proof : ProofBinding) : List (String × JsonValue) :=
  [("candidate_tuple_bound", .bool proof.candidateTupleBound),
    ("credential_set_binding_verified", .bool proof.credentialSetBindingVerified),
    ("etw_proof_capable", .bool proof.etwProofCapable),
    ("firewall_plan_bound", .bool proof.firewallPlanBound),
    ("job_process_binding_verified", .bool proof.jobProcessBindingVerified),
    ("phase_binding_verified", .bool proof.phaseBindingVerified),
    ("requested_label_binding_verified", .bool proof.requestedLabelBindingVerified),
    ("wfp_proof_capable", .bool proof.wfpProofCapable)]

def proofBindingJson (proof : ProofBinding) : JsonValue :=
  .obj ([("schema_version", .int 5), ("run_id", .str proof.runId),
    ("provenance", provenanceJson proof.provenance)] ++ proofDigestsJson proof ++
    proofFlagsJson proof)

def timingJson (timing : Timing) : JsonValue :=
  .obj ((timingFields timing).map fun entry => (entry.1, .int entry.2))

/-- The document that `validate_evidence` returns. -/
def evidenceJson (evidence : Evidence) : JsonValue :=
  .obj [("schema_version", .int 6), ("run_id", .str evidence.runId),
    ("control", .str evidence.control.text),
    ("run_context", runContextJson evidence.runContext),
    ("lifecycle_binding", lifecycleJson evidence.control evidence.lifecycleBinding),
    ("initial_pre_state_binding", initialPreStateJson evidence.initialPreStateBinding),
    ("state_transition", stateTransitionJson evidence.stateTransition),
    ("capture_integrity", captureIntegrityJson evidence.captureIntegrity),
    ("pre_state", preStateJson evidence.preState),
    ("identity", identityJson evidence.identity),
    ("credential_bundle_investor_confirmed", .bool evidence.credentialBundleInvestorConfirmed),
    ("network", networkJson evidence.network), ("discovery", discoveryJson evidence.discovery),
    ("environment_health", boolMappingJson evidence.environmentHealth),
    ("proof_binding", proofBindingJson evidence.proofBinding),
    ("timeline", timelineJson evidence.timeline), ("timing", timingJson evidence.timing),
    ("phase_markers", .arr (evidence.phaseMarkers.map .str))]

section Digests

variable (env : LabEnv)

/-- `evidence_digest`. -/
def evidenceDigest (payload : JsonValue) : String :=
  env.sha256 (utf8Bytes (canonicalJson env.floatText payload))

/-- `lifecycle_binding_digest`. -/
def lifecycleBindingDigest (runId : String) (control : Control) (controlPlanSha256 : String)
    (binding : LifecycleBinding) : String :=
  contractDigest env "LIFECYCLE_BINDING" 1
    (.obj [("run_id", .str runId), ("control", .str control.text),
      ("control_plan_sha256", .str controlPlanSha256),
      ("lifecycle_binding", lifecycleJson control binding)])

/-- `job_portable_root_binding_digest`. -/
def jobPortableRootBindingDigest (runId jobManifestSha256 jobIdentitySha256
    rootProcessGenerationSha256 portableRootPathSha256 : String) : String :=
  contractDigest env "JOB_PORTABLE_ROOT_BINDING" 1
    (.obj [("run_id", .str runId), ("job_manifest_sha256", .str jobManifestSha256),
      ("job_identity_sha256", .str jobIdentitySha256),
      ("root_process_generation_sha256", .str rootProcessGenerationSha256),
      ("portable_root_path_sha256", .str portableRootPathSha256)])

/-- `firewall_portable_root_binding_digest`. -/
def firewallPortableRootBindingDigest (runId controlPlanSha256 firewallPlanSha256
    portableRootPathSha256 candidateEndpointSha256 : String) : String :=
  contractDigest env "FIREWALL_PORTABLE_ROOT_BINDING" 1
    (.obj [("run_id", .str runId), ("control_plan_sha256", .str controlPlanSha256),
      ("firewall_plan_sha256", .str firewallPlanSha256),
      ("portable_root_path_sha256", .str portableRootPathSha256),
      ("candidate_endpoint_sha256", .str candidateEndpointSha256)])

/-- `probe_path_binding_digest`. -/
def probePathBindingDigest (runId jobManifestSha256 portableRootPathSha256 controlPlanSha256
    terminalPathSha256 terminalDataPathSha256 identityProbeOutputSha256 : String)
    (probeGeneratedAtUnix : Int) : String :=
  contractDigest env "PROBE_PATH_BINDING" 1
    (.obj [("run_id", .str runId), ("job_manifest_sha256", .str jobManifestSha256),
      ("portable_root_path_sha256", .str portableRootPathSha256),
      ("control_plan_sha256", .str controlPlanSha256),
      ("terminal_path_sha256", .str terminalPathSha256),
      ("terminal_data_path_sha256", .str terminalDataPathSha256),
      ("identity_probe_output_sha256", .str identityProbeOutputSha256),
      ("probe_generated_at_unix", .int probeGeneratedAtUnix)])

/-- `initial_c012_pre_state_digest` of the body of `initial_c012_pre_state_body`. -/
def initialC012PreStateDigest (experimentId c012SessionId portableRootPathSha256 : String)
    (checks : BoolMapping) : String :=
  contractDigest env "C012_INITIAL_PRE_STATE" 1
    (.obj [("schema_version", .int 1), ("artifact_type", .str "C012_INITIAL_PRE_STATE"),
      ("experiment_id", .str experimentId), ("c012_session_id", .str c012SessionId),
      ("portable_root_path_sha256", .str portableRootPathSha256),
      ("checks", boolMappingJson checks)])

/-- The digest of the evidence as a contract. -/
def contractEvidenceDigest (evidence : Evidence) : String :=
  contractDigest env "EVIDENCE" 6 (evidenceJson evidence)

end Digests

inductive VerdictOutcome where
  | pass
  | syntheticPass
  | fail
  | inconclusive
  deriving DecidableEq, Repr

structure Evaluation where
  outcome : VerdictOutcome
  reasons : List String
  deriving DecidableEq, Repr

def contradicted (reason : String) : Evaluation := { outcome := .fail, reasons := [reason] }

def unproven (reason : String) : Evaluation := { outcome := .inconclusive, reasons := [reason] }

structure Durations where
  baseline : Int
  negativeDiscovery : Int
  exactDiscovery : Int
  loginTimeout : Int
  connectedSteady : Int
  networkInterruption : Int
  reconnectObservation : Int
  blockedTimeout : Int
  c4ElapsedTolerance : Int
  c5SeparationMinimum : Int
  probeTimestampToleranceSeconds : Int
  deriving DecidableEq, Repr

structure NegativeQuery where
  label : String
  labelSha256 : String
  deriving DecidableEq, Repr

structure ExpectedIdentity where
  server : String
  company : String
  tradeMode : String
  deriving DecidableEq, Repr

/-- What the verdict reads of an experiment manifest. -/
structure ExperimentManifest where
  policyVersion : String
  experimentId : String
  terminalSha256 : String
  allowedRemotePorts : List Int
  requestedServerLabel : String
  expectedIdentity : ExpectedIdentity
  negativeQuery : NegativeQuery
  durationsSeconds : Durations
  experimentManifestSha256 : String
  deriving DecidableEq, Repr

/-- What the verdict reads of a control plan. -/
structure ControlPlan where
  runId : String
  control : Control
  experimentId : String
  experimentManifestSha256 : String
  candidateHandoffManifestSha256 : Option String
  directCampaignManifestSha256 : Option String
  lifecycleMode : String
  c012SessionId : Option String
  sessionRole : String
  initialPreStateBinding : InitialPreStateBinding
  negativeQuery : Option NegativeQuery
  terminalPathSha256 : String
  terminalDataPathSha256 : String
  controlPlanSha256 : String
  deriving DecidableEq, Repr

/-- What the verdicts read of a candidate handoff. -/
structure CandidateHandoff where
  experimentId : String
  c2RunId : String
  c2ControlPlanSha256 : String
  c2EvidenceSha256 : String
  lifecycleMode : String
  c012SessionId : String
  initialC012PreStateSha256 : String
  c2LifecycleBindingSha256 : String
  candidateEndpoint : Candidate
  canonicalIdentity : ExpectedIdentity
  terminalSha256 : String
  terminalBuild : Int
  producedAtUnixMs : Int
  directCampaignManifestSha256 : String
  candidateHandoffManifestSha256 : String
  deriving DecidableEq, Repr

def negativeQueryJson : Option NegativeQuery → JsonValue
  | some query =>
    .obj [("schema_version", .int 1), ("label", .str query.label),
      ("label_sha256", .str query.labelSha256), ("expected_result_count", .int 0)]
  | none => .null

/-- What the policy of the control says of its lifecycle under a name. -/
def lifecycleTerm (control : Control) (key : String) : String :=
  match JsonValue.get (lifecyclePolicy control) key with
  | .str text => text
  | _ => ""

def firstTimestamp (timeline : Timeline) : Int :=
  (timeline.events.map TimelineEvent.timestampUnixMs).headD 0

def lastTimestamp (timeline : Timeline) : Int :=
  (timeline.events.map TimelineEvent.timestampUnixMs).getLastD 0

/-- `clean_state`. -/
def cleanState (evidence : Evidence) : Bool :=
  match evidence.preState with
  | some checks => checks.all Prod.snd
  | none => false

/-- A digest that is compared once it is there. -/
def checkDigest (digest : Option String) (expected gap mismatch : String) :
    Except Evaluation (Option String) :=
  match digest with
  | none => .ok (some gap)
  | some digest => if digest = expected then .ok none else .error (contradicted mismatch)

section Contradictions

variable (env : LabEnv) (evidence : Evidence) (manifest : Option ExperimentManifest)
  (plan : Option ControlPlan) (handoff : Option CandidateHandoff)

def credentialSetDigest (credentialSetId : String) : String :=
  evidenceDigest env (.obj [("credential_set_id", .str credentialSetId),
    ("account_available", .bool (flag evidence.environmentHealth "account_available")),
    ("credential_bundle_investor_confirmed", .bool evidence.credentialBundleInvestorConfirmed)])

def credentialDigestDiffers : Bool :=
  match evidence.runContext.credentialSetId, evidence.proofBinding.credentialSetBindingSha256 with
  | some id, some digest => digest ≠ credentialSetDigest env evidence id
  | _, _ => false

/-- `digest_mismatch`. -/
def digestMismatch : Bool :=
  match evidence.runContext.candidateEndpoint, evidence.proofBinding.candidateEndpointSha256 with
  | some candidate, some digest => digest ≠ evidenceDigest env (candidateJson (some candidate))
  | _, _ => false

def checkOpening : Except Evaluation Unit := do
  settle (evidence.proofBinding.runId ≠ evidence.runId)
    (contradicted "proof_binding_run_id_mismatch")
  settle (evidence.control = .c0 ∧ cleanState evidence = false)
    (contradicted "c012_pre_state_not_clean")
  settle (credentialDigestDiffers env evidence = true)
    (contradicted "credential_set_binding_digest_mismatch")
  settle (evidence.discovery.helperSecretAccessed = true)
    (contradicted "helper_accessed_sensitive_material")
  settle (evidence.discovery.unsafeEndpointPromoted = true)
    (contradicted "unsafe_endpoint_promoted")

/-- The manifest against the evidence, with the gap it leaves. -/
def checkManifest : Except Evaluation (Option String) :=
  match manifest with
  | none => .ok (some "evidence_experiment_manifest_missing")
  | some manifest => do
    let gap ← checkDigest evidence.proofBinding.experimentManifestSha256
      manifest.experimentManifestSha256 "experiment_manifest_binding_not_proven"
      "experiment_manifest_digest_mismatch"
    settle (evidence.runContext.terminalSha256 ≠ manifest.terminalSha256)
      (contradicted "terminal_hash_manifest_mismatch")
    settle (∃ candidate ∈ evidence.runContext.candidateEndpoint,
        candidate.port ∉ manifest.allowedRemotePorts)
      (contradicted "candidate_port_manifest_policy_mismatch")
    return gap

structure PlanGaps where
  plan : Option String := none
  lifecycle : Option String := none
  portableRoot : Option String := none
  preState : Option String := none
  transition : Option String := none
  firewallRoot : Option String := none
  deriving DecidableEq, Repr

/-- The portable root is bound to the Job once the Job's manifest is there. -/
def checkPortableRoot : Except Evaluation (Option String) :=
  let proof := evidence.proofBinding
  match proof.jobManifestSha256 with
  | none => .ok (some "job_portable_root_binding_not_proven")
  | some jobManifestSha256 =>
    checkDigest proof.jobPortableRootBindingSha256
      (jobPortableRootBindingDigest env evidence.runId jobManifestSha256 proof.jobIdentitySha256
        proof.rootProcessGenerationSha256 evidence.runContext.portableRootPathSha256)
      "job_portable_root_binding_not_proven" "job_portable_root_binding_mismatch"

def checkFirewallRoot (plan : ControlPlan) : Except Evaluation (Option String) :=
  let proof := evidence.proofBinding
  if evidence.control.early then .ok none
  else
    match proof.firewallPlanSha256, proof.candidateEndpointSha256 with
    | some firewallPlanSha256, some candidateEndpointSha256 =>
      checkDigest proof.firewallPortableRootBindingSha256
        (firewallPortableRootBindingDigest env evidence.runId plan.controlPlanSha256
          firewallPlanSha256 evidence.runContext.portableRootPathSha256 candidateEndpointSha256)
        "firewall_portable_root_binding_not_proven" "firewall_portable_root_binding_mismatch"
    | _, _ => .ok (some "firewall_portable_root_binding_not_proven")

def preStateBindingDigest : String :=
  contractDigest env "PRE_STATE_BINDING" 1
    (.obj [("run_id", .str evidence.runId), ("control", .str evidence.control.text),
      ("initial_pre_state_binding", initialPreStateJson evidence.initialPreStateBinding),
      ("pre_state", preStateJson evidence.preState)])

def stateTransitionDigest : String :=
  contractDigest env "STATE_TRANSITION" 1
    (.obj [("run_id", .str evidence.runId), ("control", .str evidence.control.text),
      ("state_transition", stateTransitionJson evidence.stateTransition)])

/-- The plan against the evidence, in two halves: what it fixes, then the bindings. -/
def checkPlanTerms (plan : ControlPlan) : Except Evaluation (Option String) := do
  let proof := evidence.proofBinding
  let binding := evidence.lifecycleBinding
  settle (plan.runId ≠ evidence.runId ∨ plan.control ≠ evidence.control ∨
      plan.experimentId ≠ evidence.runContext.experimentId)
    (contradicted "control_plan_run_binding_mismatch")
  let gap ← checkDigest proof.controlPlanSha256 plan.controlPlanSha256
    "control_plan_binding_not_proven" "control_plan_digest_mismatch"
  settle (∃ known ∈ manifest,
      plan.experimentManifestSha256 ≠ known.experimentManifestSha256)
    (contradicted "control_plan_manifest_mismatch")
  settle (evidence.runContext.portableRootPathSha256 ≠ plan.terminalDataPathSha256)
    (contradicted "portable_root_control_plan_path_mismatch")
  settle (canonicalJson env.floatText (initialPreStateJson evidence.initialPreStateBinding) ≠
      canonicalJson env.floatText (initialPreStateJson plan.initialPreStateBinding))
    (contradicted "initial_pre_state_plan_binding_mismatch")
  settle (lifecycleTerm evidence.control "lifecycle_mode" ≠ plan.lifecycleMode ∨
      binding.c012SessionId ≠ plan.c012SessionId ∨
      lifecycleTerm evidence.control "session_role" ≠ plan.sessionRole)
    (contradicted "lifecycle_control_binding_mismatch")
  settle (some binding.jobManifestSha256 ≠ proof.jobManifestSha256 ∨
      binding.jobIdentitySha256 ≠ proof.jobIdentitySha256 ∨
      binding.rootProcessGenerationSha256 ≠ proof.rootProcessGenerationSha256)
    (contradicted "lifecycle_job_process_binding_mismatch")
  return gap

def checkPlan : Except Evaluation PlanGaps :=
  match plan with
  | none => .ok { plan := some "control_plan_binding_not_proven" }
  | some plan => do
    let proof := evidence.proofBinding
    let planGap ← checkPlanTerms env evidence manifest plan
    let lifecycle ← checkDigest proof.lifecycleBindingSha256
      (lifecycleBindingDigest env evidence.runId evidence.control plan.controlPlanSha256
        evidence.lifecycleBinding)
      "lifecycle_binding_not_proven" "lifecycle_binding_digest_mismatch"
    let portableRoot ← checkPortableRoot env evidence
    let preState ← checkDigest proof.preStateBindingSha256 (preStateBindingDigest env evidence)
      "pre_state_binding_not_proven" "pre_state_binding_digest_mismatch"
    let transition ← checkDigest proof.stateTransitionSha256 (stateTransitionDigest env evidence)
      "state_transition_not_proven" "state_transition_digest_mismatch"
    let firewallRoot ← checkFirewallRoot env evidence plan
    return { plan := planGap, lifecycle, portableRoot, preState, transition, firewallRoot }

structure HandoffFindings where
  gap : Option String := none
  /-- `direct_c2_context_missing` -/
  c2ContextMissing : Bool := false
  deriving DecidableEq, Repr

/-- The handoff against the evidence of C3, C4 and C5. -/
def checkHandoff (campaignHandoffVerified : Bool) : Except Evaluation HandoffFindings :=
  let digest := evidence.proofBinding.candidateHandoffManifestSha256
  let context := evidence.runContext
  if evidence.control.early then do
    settle (digest.isSome = true) (contradicted "early_control_bound_candidate_handoff")
    return {}
  else
    match handoff with
    | none => .ok { gap := some "candidate_handoff_binding_not_proven" }
    | some handoff => do
      let gap ← checkDigest digest handoff.candidateHandoffManifestSha256
        "candidate_handoff_binding_not_proven" "candidate_handoff_digest_mismatch"
      settle (context.experimentId ≠ handoff.experimentId ∨
          context.terminalSha256 ≠ handoff.terminalSha256 ∨
          context.terminalBuild ≠ handoff.terminalBuild ∨
          canonicalJson env.floatText (candidateJson context.candidateEndpoint) ≠
            canonicalJson env.floatText (candidateJson (some handoff.candidateEndpoint)))
        (contradicted "candidate_handoff_context_mismatch")
      settle (firstTimestamp evidence.timeline < handoff.producedAtUnixMs)
        (unproven "direct_control_started_before_candidate_handoff")
      settle (∃ known ∈ plan,
          known.candidateHandoffManifestSha256 ≠ some handoff.candidateHandoffManifestSha256 ∨
            known.directCampaignManifestSha256 ≠ some handoff.directCampaignManifestSha256)
        (contradicted "candidate_handoff_plan_mismatch")
      return { gap, c2ContextMissing := !campaignHandoffVerified }

/-- `config_experiment_id_mismatch`. -/
def experimentIdMismatch : Bool :=
  decide (∃ known ∈ manifest, evidence.runContext.experimentId ≠ known.experimentId)

/-- `config_expected_identity_mismatch`. -/
def expectedIdentityMismatch : Bool :=
  let context := evidence.runContext
  decide (evidence.control ≠ .c0 ∧ evidence.control ≠ .c1 ∧ ∃ known ∈ manifest,
    context.expectedServer ≠ some known.expectedIdentity.server ∨
      context.expectedCompany ≠ some known.expectedIdentity.company ∨
      expectedTradeMode context ≠ some known.expectedIdentity.tradeMode)

structure LabelFindings where
  manifestGap : Option String := none
  bindingMissing : Bool := false
  deriving DecidableEq, Repr

def requestedLabelDigest (manifest : ExperimentManifest) : String :=
  evidenceDigest env (.obj [("requested_server_label", .str manifest.requestedServerLabel)])

/-- `requested_label_manifest_digest`. -/
def requestedLabelManifestDigest (manifest : ExperimentManifest) : String :=
  evidenceDigest env (.obj [("schema_version", .int 2),
    ("policy_version", .str manifest.policyVersion),
    ("experiment_id", .str manifest.experimentId),
    ("requested_server_label", .str manifest.requestedServerLabel)])

def labelBindingDigest (manifest : ExperimentManifest) : String :=
  evidenceDigest env (.obj [("run_id", .str evidence.runId),
    ("control", .str evidence.control.text),
    ("experiment_id", .str evidence.runContext.experimentId),
    ("requested_label_manifest_sha256", .str (requestedLabelManifestDigest env manifest)),
    ("job_identity_sha256", .str evidence.proofBinding.jobIdentitySha256),
    ("phase_timeline_sha256", textJson evidence.proofBinding.phaseTimelineSha256),
    ("requested_server_label_sha256", textJson evidence.runContext.requestedServerLabelSha256),
    ("selected_server_label_sha256", textJson evidence.discovery.selectedServerLabelSha256)])

/-- `requested_label_manifest_gap`. -/
def labelManifestGap : Option String :=
  match manifest with
  | none => some "evidence_config_manifest_missing"
  | some known =>
    if experimentIdMismatch evidence manifest then some "evidence_config_experiment_id_mismatch"
    else if evidence.runContext.requestedServerLabelSha256 ≠
        some (requestedLabelDigest env known) then some "c012_requested_label_mismatch"
    else none

/-- `requested_label_binding_missing`. -/
def labelBindingMissing : Bool :=
  evidence.runContext.requestedServerLabelSha256 = none ||
    evidence.proofBinding.requestedLabelBindingSha256 = none ||
    !evidence.proofBinding.requestedLabelBindingVerified ||
    (evidence.control = .c1 && (evidence.discovery.selectedServerLabelSha256 = none ||
      !evidence.discovery.exactLabelMatchVerified))

/-- Both labels of C1 are known and differ. -/
def selectedLabelDiffers : Bool :=
  match evidence.runContext.requestedServerLabelSha256,
    evidence.discovery.selectedServerLabelSha256 with
  | some requested, some selected => evidence.control = .c1 && selected ≠ requested
  | _, _ => false

def checkLabels : Except Evaluation LabelFindings :=
  if evidence.control.early then do
    settle (selectedLabelDiffers evidence = true)
      (contradicted "discovery_selected_label_mismatch")
    settle (labelManifestGap env evidence manifest = none ∧ labelBindingMissing evidence = false ∧
        ∃ known ∈ manifest, evidence.proofBinding.requestedLabelBindingSha256 ≠
          some (labelBindingDigest env evidence known))
      (contradicted "discovery_requested_label_binding_mismatch")
    return {
      manifestGap := labelManifestGap env evidence manifest
      bindingMissing := labelBindingMissing evidence }
  else .ok {}

def negativeQueryBindingDigest (plan : ControlPlan) (label : String) (count : Int) : String :=
  contractDigest env "NEGATIVE_QUERY_BINDING" 1
    (.obj [("run_id", .str evidence.runId), ("control", .str evidence.control.text),
      ("control_plan_sha256", .str plan.controlPlanSha256),
      ("phase_timeline_sha256", textJson evidence.proofBinding.phaseTimelineSha256),
      ("negative_query_label_sha256", .str label), ("negative_query_result_count", .int count),
      ("negative_query_ui_binding_verified", .bool true)])

/-- The query's label and binding, once all of them are there. -/
def checkNegativeBinding (manifest : ExperimentManifest) (plan : ControlPlan) :
    Except Evaluation (Option String) :=
  let discovery := evidence.discovery
  match discovery.negativeQueryLabelSha256, discovery.negativeQueryResultCount,
    discovery.negativeQueryUiBindingVerified,
    evidence.proofBinding.negativeQueryBindingSha256 with
  | some label, some count, true, some digest => do
    settle (label ≠ manifest.negativeQuery.labelSha256)
      (contradicted "negative_query_label_binding_mismatch")
    settle (digest ≠ negativeQueryBindingDigest env evidence plan label count)
      (contradicted "negative_query_binding_digest_mismatch")
    return none
  | _, _, _, _ => .ok (some "negative_query_binding_not_proven")

def checkNegativeQuery : Except Evaluation (Option String) :=
  if evidence.control = .c1 then
    match manifest, plan with
    | some manifest, some plan => do
      settle (canonicalJson env.floatText (negativeQueryJson (some manifest.negativeQuery)) ≠
          canonicalJson env.floatText (negativeQueryJson plan.negativeQuery))
        (contradicted "negative_query_plan_binding_mismatch")
      settle (manifest.negativeQuery.label = manifest.requestedServerLabel ∨
          some manifest.negativeQuery.labelSha256 =
            evidence.runContext.requestedServerLabelSha256)
        (contradicted "negative_query_matches_requested_label")
      settle (∃ count ∈ evidence.discovery.negativeQueryResultCount, count ≠ 0)
        (contradicted "negative_query_returned_results")
      checkNegativeBinding env evidence manifest plan
    | _, _ => .ok (some "negative_query_manifest_or_plan_missing")
  else .ok none

/-- The candidate was seen under another address, or its digest is another one. -/
def tupleMismatch : Bool :=
  digestMismatch env evidence ||
    (evidence.network.candidateAttemptObserved && !evidence.network.candidateTupleMatch)

/-- The observations that contradict what the control is about. -/
def checkControl : Except Evaluation Unit := do
  let network := evidence.network
  let discovery := evidence.discovery
  match evidence.control with
  | .c0 =>
    settle (evidence.identity.isSome = true) (contradicted "baseline_exposed_account_identity")
    settle (cleanState evidence = false) (contradicted "baseline_not_clean")
  | .c1 =>
    settle (evidence.identity.isSome = true)
      (contradicted "identity_present_during_credential_free_discovery")
    settle (discovery.credentialsSupplied = true)
      (contradicted "credentials_used_during_discovery")
    settle (discovery.expectedExactResultCount ≠ 1)
      (contradicted "discovery_not_unique_exact_match")
  | .c2 =>
    settle (network.candidateEndpointSafe = false) (contradicted "unsafe_candidate_endpoint")
    settle (tupleMismatch env evidence = true)
      (contradicted "observed_candidate_tuple_mismatch")
  | .c4 =>
    settle (cleanState evidence = false) (contradicted "negative_control_not_clean")
    settle (network.candidateEndpointSafe = false) (contradicted "unsafe_candidate_endpoint")
    settle (network.candidateConnected = true ∨ network.otherTcpFlows ≠ 0 ∨
        network.nonTcpNetworkEvents ≠ 0) (contradicted "negative_control_bypassed")
    settle (network.dnsEvents ≠ 0) (contradicted "dns_fallback_during_negative_control")
    settle (evidence.identity.isSome = true)
      (contradicted "identity_present_while_candidate_blocked")
    settle (tupleMismatch env evidence = true)
      (contradicted "negative_control_candidate_tuple_mismatch")
  | _ =>
    settle (cleanState evidence = false) (contradicted "direct_boot_not_clean")
    settle (network.otherTcpFlows ≠ 0 ∨ network.nonTcpNetworkEvents ≠ 0)
      (contradicted "direct_boot_used_unexpected_egress")
    settle (network.dnsEvents ≠ 0) (contradicted "direct_boot_used_dns")
    settle (network.candidateEndpointSafe = false) (contradicted "unsafe_candidate_endpoint")
    settle (tupleMismatch env evidence = true)
      (contradicted "direct_candidate_tuple_mismatch")

end Contradictions

end TradeJournalWorker.Lab
