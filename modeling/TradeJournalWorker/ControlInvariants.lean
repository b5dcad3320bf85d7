import TradeJournalWorker.EvidenceValidation

namespace TradeJournalWorker.Lab

/-- The phase in which a candidate may have been observed. -/
def allowedPhase : Control → ObservedPhase
  | .c0 | .c1 => .none
  | .c2 => .login
  | .c3 => .directOnly
  | .c4 => .endpointBlocked
  | .c5 => .directRepeat

section Neutral

variable (control : Control)

/-- Without a candidate neither the network nor the proofs speak of one. -/
def requireNoCandidate (network : Network) (proof : ProofBinding) : Except String Unit := do
  requireValues control "network"
    [("candidate_attempt_observed", network.candidateAttemptObserved = false),
      ("candidate_connected", network.candidateConnected = false),
      ("candidate_block_observed", network.candidateBlockObserved = false),
      ("candidate_endpoint_safe", network.candidateEndpointSafe = false),
      ("candidate_tuple_match", network.candidateTupleMatch = false),
      ("candidate_observed_phase", network.candidateObservedPhase = .none),
      ("candidate_tcp_flows", network.candidateTcpFlows = 0)]
  requireValues control "proof_binding"
    [("candidate_endpoint_sha256", proof.candidateEndpointSha256 = none),
      ("candidate_tuple_bound", proof.candidateTupleBound = false)]

def requireCandidateActivity (network : Network) : Except String Unit := do
  demand (¬ (network.candidateConnected ∧ ¬ network.candidateAttemptObserved))
    "network.candidate_connected requires a candidate attempt"
  demand (¬ (network.candidateBlockObserved ∧ ¬ network.candidateAttemptObserved))
    "network.candidate_block_observed requires a candidate attempt"
  demand (¬ (network.candidateTcpFlows ≠ 0 ∧ ¬ network.candidateAttemptObserved))
    "candidate process-scoped flows require a candidate attempt"
  demand (¬ (network.candidateObservedPhase = .none ∧
      (network.candidateAttemptObserved ∨ network.candidateConnected ∨
        network.candidateBlockObserved ∨ network.candidateTupleMatch ∨
        network.candidateTcpFlows ≠ 0)))
    "candidate activity cannot use candidate_observed_phase NONE"

def requireCandidate (evidence : Evidence) : Except String Unit :=
  if evidence.runContext.candidateEndpoint = none then
    requireNoCandidate control evidence.network evidence.proofBinding
  else requireCandidateActivity evidence.network

/-- `neutral_discovery`. -/
def requireNeutralDiscovery (discovery : Discovery) : Except String Unit :=
  requireValues control "discovery"
    [("credentials_supplied", discovery.credentialsSupplied = false),
      ("negative_exact_query_completed", discovery.negativeExactQueryCompleted = false),
      ("expected_exact_result_count", discovery.expectedExactResultCount = 0),
      ("exact_selection_completed", discovery.exactSelectionCompleted = false),
      ("cache_influence_excluded", discovery.cacheInfluenceExcluded = false),
      ("endpoint_delta_acquired", discovery.endpointDeltaAcquired = false),
      ("endpoint_delta_source", discovery.endpointDeltaSource = .none),
      ("endpoint_delta_source_sha256", discovery.endpointDeltaSourceSha256 = none),
      ("endpoint_delta_source_verified", discovery.endpointDeltaSourceVerified = false),
      ("selected_server_label_sha256", discovery.selectedServerLabelSha256 = none),
      ("exact_label_match_verified", discovery.exactLabelMatchVerified = false),
      ("negative_query_label_sha256", discovery.negativeQueryLabelSha256 = none),
      ("negative_query_result_count", discovery.negativeQueryResultCount = none),
      ("negative_query_ui_binding_verified", discovery.negativeQueryUiBindingVerified = false)]

/-- The timings in the order of `_derive_timing_from_timeline`. -/
def timingFields (timing : Timing) : List (String × Int) :=
  [("baseline_seconds", timing.baselineSeconds),
    ("negative_discovery_seconds", timing.negativeDiscoverySeconds),
    ("exact_discovery_seconds", timing.exactDiscoverySeconds),
    ("login_observation_seconds", timing.loginObservationSeconds),
    ("connected_steady_seconds", timing.connectedSteadySeconds),
    ("network_interruption_seconds", timing.networkInterruptionSeconds),
    ("reconnect_observation_seconds", timing.reconnectObservationSeconds),
    ("blocked_observation_seconds", timing.blockedObservationSeconds),
    ("separation_from_c3_seconds", timing.separationFromC3Seconds)]

/-- Only the timings of the control itself are other than zero. -/
def requireZeroTiming (timing : Timing) (allowed : List String) : Except String Unit :=
  requireValues control "timing"
    (((timingFields timing).filter fun entry => entry.1 ∉ allowed).map fun entry =>
      (entry.1, entry.2 = 0))

def requireHealth (health : BoolMapping) (expected : BoolMapping) : Except String Unit :=
  requireValues control "environment_health"
    (expected.map fun entry => (entry.1, flag health entry.1 = entry.2))

end Neutral

/-- The delta of C1 needs an observed and verified source: the digest of the delta is compared
with that of the whole flow set. -/
def deltaUnproven (network : Network) (discovery : Discovery) : Bool :=
  discovery.endpointDeltaAcquired &&
    (discovery.endpointDeltaSource = .none || discovery.endpointDeltaSourceSha256 = none ||
      !discovery.endpointDeltaSourceVerified ||
      (discovery.endpointDeltaSource = .processScopedTcpFlowSet &&
        (network.processScopedTcpFlows < 1 || network.flowRecordSetSha256 = none ||
          !network.flowRecordSetVerified ||
          discovery.endpointDeltaSourceSha256 ≠ network.flowRecordSetSha256)))

/-- The branch of `_validate_control_invariants` for the control. -/
def requireControl (control : Control) (evidence : Evidence) : Except String Unit := do
  let network := evidence.network
  let discovery := evidence.discovery
  match control with
  | .c0 =>
    demand (evidence.identity = none) "C0 identity must be null"
    demand (evidence.credentialBundleInvestorConfirmed = false)
      "C0 cannot confirm an investor credential bundle"
    requireNeutralDiscovery .c0 discovery
    requireZeroTiming .c0 evidence.timing ["baseline_seconds"]
    requireHealth .c0 evidence.environmentHealth
      [("build_unchanged", true), ("clock_synchronized", true),
        ("firewall_policy_verified", false), ("account_available", false),
        ("external_outage_excluded", false), ("baseline_stable", true), ("ui_compatible", false)]
  | .c1 =>
    demand (evidence.identity = none) "C1 identity must be null"
    demand (evidence.credentialBundleInvestorConfirmed = false)
      "C1 cannot confirm an investor credential bundle"
    demand (discovery.credentialsSupplied = false)
      "C1 discovery cannot contain supplied credentials"
    demand (deltaUnproven network discovery = false)
      "C1 endpoint delta requires an observed, verified source"
    requireZeroTiming .c1 evidence.timing
      ["negative_discovery_seconds", "exact_discovery_seconds"]
    requireHealth .c1 evidence.environmentHealth
      [("build_unchanged", true), ("clock_synchronized", true),
        ("firewall_policy_verified", false), ("account_available", false),
        ("external_outage_excluded", false), ("baseline_stable", false), ("ui_compatible", true)]
  | .c2 =>
    demand (evidence.identity.isSome = true) "C2 identity must be present"
    demand (evidence.runContext.candidateEndpoint.isSome = true)
      "C2 candidate endpoint must be present"
    requireNeutralDiscovery .c2 discovery
    requireValues .c2 "network"
      [("candidate_block_observed", network.candidateBlockObserved = false)]
    requireZeroTiming .c2 evidence.timing
      ["login_observation_seconds", "connected_steady_seconds", "network_interruption_seconds",
        "reconnect_observation_seconds"]
    requireHealth .c2 evidence.environmentHealth
      [("firewall_policy_verified", false), ("baseline_stable", false), ("ui_compatible", false)]
  | .c4 =>
    demand (evidence.identity = none) "C4 identity must be null"
    demand (evidence.runContext.candidateEndpoint.isSome = true)
      "C4 candidate endpoint must be present"
    requireNeutralDiscovery .c4 discovery
    requireZeroTiming .c4 evidence.timing ["blocked_observation_seconds"]
    demand (network.candidateConnected = false)
      "C4 cannot contain a connected-candidate observation"
    requireHealth .c4 evidence.environmentHealth
      [("baseline_stable", false), ("ui_compatible", false)]
  | direct =>
    demand (evidence.identity.isSome = true) (direct.text ++ " identity must be present")
    demand (evidence.runContext.candidateEndpoint.isSome = true)
      (direct.text ++ " candidate endpoint must be present")
    requireNeutralDiscovery direct discovery
    requireZeroTiming direct evidence.timing
      (["login_observation_seconds", "connected_steady_seconds"] ++
        if direct = .c5 then ["separation_from_c3_seconds"] else [])
    demand (network.candidateBlockObserved = false)
      (direct.text ++ " cannot contain a blocked-candidate observation")
    requireHealth direct evidence.environmentHealth
      [("baseline_stable", false), ("ui_compatible", false)]

/-- The proofs of the firewall belong to C3, C4 and C5, those of the labels to the others. -/
def requireApplicableProofs (control : Control) (evidence : Evidence) : Except String Unit := do
  let proof := evidence.proofBinding
  if control.early then
    requireValues control "proof_binding"
      [("wfp_evidence_sha256", proof.wfpEvidenceSha256 = none),
        ("firewall_plan_sha256", proof.firewallPlanSha256 = none),
        ("firewall_portable_root_binding_sha256",
          proof.firewallPortableRootBindingSha256 = none),
        ("wfp_proof_capable", proof.wfpProofCapable = false),
        ("firewall_plan_bound", proof.firewallPlanBound = false),
        ("candidate_handoff_manifest_sha256", proof.candidateHandoffManifestSha256 = none)]
  else do
    requireValues control "run_context"
      [("requested_server_label_sha256", evidence.runContext.requestedServerLabelSha256 = none)]
    requireValues control "discovery"
      [("selected_server_label_sha256", evidence.discovery.selectedServerLabelSha256 = none),
        ("exact_label_match_verified", evidence.discovery.exactLabelMatchVerified = false)]
    requireValues control "proof_binding"
      [("requested_label_binding_sha256", proof.requestedLabelBindingSha256 = none),
        ("requested_label_binding_verified", proof.requestedLabelBindingVerified = false),
        ("negative_query_binding_sha256", proof.negativeQueryBindingSha256 = none)]

def requireNoQuery (control : Control) (evidence : Evidence) : Except String Unit := do
  let discovery := evidence.discovery
  requireValues control "discovery"
    [("selected_server_label_sha256", discovery.selectedServerLabelSha256 = none),
      ("exact_label_match_verified", discovery.exactLabelMatchVerified = false),
      ("negative_query_label_sha256", discovery.negativeQueryLabelSha256 = none),
      ("negative_query_result_count", discovery.negativeQueryResultCount = none),
      ("negative_query_ui_binding_verified", discovery.negativeQueryUiBindingVerified = false)]
  requireValues control "proof_binding"
    [("negative_query_binding_sha256", evidence.proofBinding.negativeQueryBindingSha256 = none)]

/-- Only C1 makes a query. -/
def requireQuery (control : Control) (evidence : Evidence) : Except String Unit :=
  if control = .c1 then .ok () else requireNoQuery control evidence

/-- `_validate_control_invariants`. -/
def validateControlInvariants (evidence : Evidence) : Except String Unit := do
  let control := evidence.control
  let network := evidence.network
  demand (¬ (evidence.identity = none ∧ evidence.proofBinding.probePathBindingSha256.isSome))
    "probe path binding is not applicable without identity evidence"
  requireCandidate control evidence
  demand (¬ (evidence.discovery.selectedServerLabelSha256 = none ∧
      evidence.discovery.exactLabelMatchVerified))
    "exact label match cannot be verified without a selected-label digest"
  requireControl control evidence
  requireApplicableProofs control evidence
  requireQuery control evidence
  demand (network.candidateObservedPhase = .none ∨
      network.candidateObservedPhase = allowedPhase control)
    ("network.candidate_observed_phase is not valid for " ++ control.text)

/-- `CLEAN_PRE_STATE_KEYS`. -/
def cleanPreStateKeys : List String :=
  ["portable_root_new", "disposable_clone_new", "windows_user_new", "accounts_dat_absent",
    "servers_dat_absent", "bases_absent", "appdata_absent", "registry_clean",
    "credential_manager_empty", "community_identity_absent", "no_shared_storage",
    "sensitive_bootstrap_absent", "prior_processes_absent", "terminal_data_path_matches"]

/-- `pre_state`: C1 and C2 refer to that of C0, the others have their own. -/
def requirePreState (control : Control) (value : JsonValue) :
    Except String (Option BoolMapping) := do
  let preState ← match value with
    | .null => Except.ok (none : Option BoolMapping)
    | value => some <$> requireBoolMapping "pre_state" value cleanPreStateKeys
  if control = .c1 ∨ control = .c2 then
    demand (preState = none)
      (control.text ++ " must reference the single C012 initial pre-state")
  else
    demand (preState.isSome = true) (control.text ++ " requires a pre-state snapshot")
  return preState

/-- The credential set of the context against the proofs. -/
def checkCredentialSet (control : Control) (context : RunContext) (proof : ProofBinding) :
    Except String Unit := do
  if control = .c0 ∨ control = .c1 then do
    demand (context.credentialSetId = none)
      (control.text ++ " cannot bind a credential_set_id")
    demand (proof.credentialSetBindingVerified = false)
      (control.text ++ " cannot claim a credential-set proof binding")
    demand (proof.credentialSetBindingSha256 = none)
      (control.text ++ " cannot contain a credential-set binding digest")
  else
    demand (context.credentialSetId.isSome = true)
      (control.text ++ " requires a credential_set_id")
  demand (¬ (context.candidateEndpoint = none ∧
      (proof.candidateEndpointSha256.isSome ∨ proof.candidateTupleBound)))
    "proof_binding cannot bind a candidate absent from run_context"

/-- `phase_markers`, clean strings equal to the codes of the timeline. -/
def requirePhaseMarkers (control : Control) (value : JsonValue) (timeline : Timeline) :
    Except String (List String) := do
  let items ← match value with
    | .arr items => Except.ok items
    | _ => Except.error "phase_markers must be clean strings"
  let markers ← items.mapM fun item =>
    match item with
    | .str text =>
      if isCleanText text.toList then Except.ok text
      else Except.error "phase_markers must be clean strings"
    | _ => Except.error "phase_markers must be clean strings"
  demand (markers = requiredPhaseMarkers control ∧
      markers = timeline.events.map TimelineEvent.code)
    "phase_markers must exactly match the ordered timeline codes"
  return markers

/-- The digest of the timeline that the proofs may carry. -/
def checkTimelineDigest (env : LabEnv) (runId : String) (control : Control)
    (timeline : Timeline) (proof : ProofBinding) : Except String Unit :=
  let expected := contractDigest env "PHASE_TIMELINE" 1
    (.obj [("run_id", .str runId), ("control", .str control.text),
      ("timeline", timelineJson timeline)])
  demand (∀ digest ∈ proof.phaseTimelineSha256, digest = expected)
    "proof_binding phase timeline digest mismatch"

def evidenceKeys : List String :=
  ["schema_version", "run_id", "control", "run_context", "lifecycle_binding",
    "initial_pre_state_binding", "state_transition", "capture_integrity", "pre_state",
    "identity", "credential_bundle_investor_confirmed", "network", "discovery",
    "environment_health", "proof_binding", "timeline", "timing", "phase_markers"]

def healthKeys : List String :=
  ["build_unchanged", "clock_synchronized", "firewall_policy_verified", "account_available",
    "external_outage_excluded", "baseline_stable", "ui_compatible"]

def requireControlName (value : JsonValue) : Except String Control :=
  orRaise (Control.all.find? fun control => value.isText control.text) "invalid evidence control"

def requireConfirmation (value : JsonValue) : Except String Bool :=
  match value with
  | .bool confirmed => .ok confirmed
  | _ => .error "credential_bundle_investor_confirmed must be boolean"

/-- `validate_evidence`. -/
def validateEvidence (env : LabEnv) (payload : JsonValue) : Except String Evidence := do
  rejectSensitiveContent env.unicode [] payload
  let data ← requireMapping "evidence" payload
  requireExactKeys "evidence" data evidenceKeys
  requireExactVersion (JsonValue.get data "schema_version") "evidence schema_version" 6
  let runId ← validatedUuid (JsonValue.get data "run_id") "run_id"
  let control ← requireControlName (JsonValue.get data "control")
  let runContext ← requireRunContext env control (JsonValue.get data "run_context")
  let lifecycleBinding ← requireLifecycleBinding control (JsonValue.get data "lifecycle_binding")
  let initialPreStateBinding ← requireInitialPreStateBinding control
    (JsonValue.get data "initial_pre_state_binding")
  let stateTransition ← requireStateTransition control (JsonValue.get data "state_transition")
  let integrity ← requireCaptureIntegrity (JsonValue.get data "capture_integrity")
  let preState ← requirePreState control (JsonValue.get data "pre_state")
  demand (runContext.portableRootPathSha256 = initialPreStateBinding.portableRootPathSha256)
    "evidence portable root differs from pre-state binding"
  let network ← requireNetwork (JsonValue.get data "network")
  let discovery ← requireDiscovery (JsonValue.get data "discovery")
  let environmentHealth ← requireBoolMapping "environment_health"
    (JsonValue.get data "environment_health") healthKeys
  let identity ← requireIdentity env (JsonValue.get data "identity")
  let credentialBundleInvestorConfirmed ← requireConfirmation
    (JsonValue.get data "credential_bundle_investor_confirmed")
  let proofBinding ← requireProofBinding (JsonValue.get data "proof_binding")
  checkCredentialSet control runContext proofBinding
  let timeline ← requireTimeline (JsonValue.get data "timeline") control runContext
  let asserted ← requireTiming (JsonValue.get data "timing")
  let timing ← deriveTimingFromTimeline control timeline
  demand (asserted = timing) "timing assertions do not match the authoritative timeline"
  let phaseMarkers ← requirePhaseMarkers control (JsonValue.get data "phase_markers") timeline
  checkTimelineDigest env runId control timeline proofBinding
  demand (control = .c5 ∨ timing.separationFromC3Seconds = 0)
    "timing.separation_from_c3_seconds is only valid for C5"
  let evidence : Evidence := {
    runId, control, runContext, lifecycleBinding, initialPreStateBinding, stateTransition
    captureIntegrity := integrity, preState, identity, credentialBundleInvestorConfirmed
    network, discovery, environmentHealth, proofBinding, timeline, timing, phaseMarkers }
  validateControlInvariants evidence
  return evidence

theorem requireValues_eq_ok {control : Control} {space : String} {agrees : List (String × Bool)}
    (h : requireValues control space agrees = .ok ()) : ∀ entry ∈ agrees, entry.2 = true := by
  unfold requireValues at h
  split at h
  next => cases h
  next hnone =>
    intro entry hentry
    have hagrees := List.find?_eq_none.mp hnone entry hentry
    simpa using hagrees

/-- What is accepted keeps the invariants of its control. -/
theorem validateEvidence_invariants {env : LabEnv} {payload : JsonValue} {evidence : Evidence}
    (h : validateEvidence env payload = .ok evidence) :
    validateControlInvariants evidence = .ok () := by
  unfold validateEvidence at h
  repeat' obtain ⟨_, _, h⟩ := except_bind_eq_ok h
  cases h
  assumption

theorem invariants_parts {evidence : Evidence} (h : validateControlInvariants evidence = .ok ()) :
    requireControl evidence.control evidence = .ok () ∧
      requireApplicableProofs evidence.control evidence = .ok () := by
  unfold validateControlInvariants at h
  obtain ⟨_, _, h⟩ := except_bind_eq_ok h
  obtain ⟨_, _, h⟩ := except_bind_eq_ok h
  obtain ⟨_, _, h⟩ := except_bind_eq_ok h
  obtain ⟨_, hcontrol, h⟩ := except_bind_eq_ok h
  obtain ⟨_, hproofs, _⟩ := except_bind_eq_ok h
  exact ⟨hcontrol, hproofs⟩

/-- C0, C1 and C2 claim no WFP export. -/
theorem wfp_of_early {env : LabEnv} {payload : JsonValue} {evidence : Evidence}
    (h : validateEvidence env payload = .ok evidence) (hearly : evidence.control.early = true) :
    evidence.proofBinding.wfpEvidenceSha256 = none := by
  have hproofs := (invariants_parts (validateEvidence_invariants h)).2
  unfold requireApplicableProofs at hproofs
  rw [if_pos hearly] at hproofs
  have hwfp := requireValues_eq_ok hproofs _ List.mem_cons_self
  simpa using hwfp

end TradeJournalWorker.Lab
