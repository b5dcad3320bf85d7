import TradeJournalWorker.EvidenceVerdict

namespace TradeJournalWorker.Lab

open StagedChecks

section Identity

variable (env : LabEnv) (evidence : Evidence) (manifest : Option ExperimentManifest)
  (plan : Option ControlPlan)

/-- `authenticated_markers`. -/
def authenticatedMarkers : Control → Option (String × String)
  | .c2 => some ("C2_LOGIN_START", "C2_CONNECTED_END")
  | .c3 => some ("C3_DIRECT_LOGIN_START", "C3_CONNECTED_STEADY_END")
  | .c5 => some ("C5_DIRECT_LOGIN_START", "C5_CONNECTED_STEADY_END")
  | _ => none

/-- The last event of a code, as in a dictionary by codes. -/
def eventByCode (timeline : Timeline) (code : String) : Option TimelineEvent :=
  timeline.events.reverse.find? fun event => event.code = code

/-- Start and end of the phases in which the account is logged in. -/
def authenticatedWindow : Option (Int × Int) := do
  let (start, finish) ← authenticatedMarkers (← plan).control
  let first ← eventByCode evidence.timeline start
  let last ← eventByCode evidence.timeline finish
  return (first.timestampUnixMs, last.timestampUnixMs)

def orUnproven {α : Type} (value : Option α) (reason : String) : Except Evaluation α :=
  match value with
  | some a => .ok a
  | none => .error (unproven reason)

def probeToleranceMs : Int :=
  match manifest with
  | some known => known.durationsSeconds.probeTimestampToleranceSeconds * 1000
  | none => 0

/-- The binding of the probe's paths, once everything that goes into it is there. -/
def expectedPathBinding (identity : Identity) : Option String := do
  let plan ← plan
  let jobManifestSha256 ← evidence.proofBinding.jobManifestSha256
  let terminalPathSha256 ← identity.terminalPathSha256
  let terminalDataPathSha256 ← identity.terminalDataPathSha256
  let identityProbeOutputSha256 ← identity.identityProbeOutputSha256
  return probePathBindingDigest env identity.probeRunId jobManifestSha256
    evidence.runContext.portableRootPathSha256 plan.controlPlanSha256 terminalPathSha256
    terminalDataPathSha256 identityProbeOutputSha256 identity.probeGeneratedAtUnix

/-- The account, the broker and the terminal that the probe found. -/
def checkIdentityTerms (identity : Identity) : Except Evaluation Unit := do
  let context := evidence.runContext
  settle (flag identity.flags "account_match" = false)
    (contradicted "account_identity_mismatch")
  settle (flag identity.flags "expected_server_match" = false ∨
      flag identity.flags "expected_company_match" = false ∨
      some identity.server ≠ context.expectedServer ∨
      some identity.company ≠ context.expectedCompany)
    (contradicted "server_or_company_mismatch")
  settle (some identity.tradeMode ≠ expectedTradeMode context ∨ identity.tradeMode ≠ "DEMO")
    (contradicted "trade_mode_not_demo")
  settle (identity.terminalBuild ≠ context.terminalBuild)
    (contradicted "probe_terminal_build_mismatch")

/-- The probe was written while the account was logged in. -/
def checkProbeWindow (identity : Identity) : Except Evaluation Unit := do
  let proof := evidence.proofBinding
  settle (proof.phaseBindingVerified = false ∨ proof.phaseTimelineSha256 = none ∨ manifest = none)
    (unproven "probe_timestamp_timeline_binding_missing")
  let window ← orUnproven (authenticatedWindow evidence plan) "probe_authenticated_window_missing"
  let probeMs := identity.probeGeneratedAtUnix * 1000
  settle (probeMs < window.1 ∨ window.2 + probeToleranceMs manifest < probeMs)
    (contradicted "identity_probe_timestamp_outside_authenticated_window")

def checkProbePaths (identity : Identity) : Except Evaluation Unit := do
  let proof := evidence.proofBinding
  settle (∃ known ∈ plan,
      (∃ observed ∈ identity.terminalPathSha256, observed ≠ known.terminalPathSha256) ∨
        ∃ observed ∈ identity.terminalDataPathSha256, observed ≠ known.terminalDataPathSha256)
    (contradicted "probe_path_binding_mismatch")
  settle (∃ expected ∈ expectedPathBinding env evidence plan identity,
      ∃ asserted ∈ proof.probePathBindingSha256, asserted ≠ expected)
    (contradicted "probe_job_portable_binding_mismatch")
  settle (identity.terminalPathSha256 = none ∨ identity.terminalDataPathSha256 = none ∨
      identity.identityProbeOutputSha256 = none ∨
      flag identity.flags "probe_path_binding_verified" = false ∨
      proof.probePathBindingSha256 = none ∨ plan = none ∨ proof.jobManifestSha256 = none)
    (unproven "probe_path_binding_missing")

def checkPermissions (identity : Identity) : Except Evaluation Unit := do
  settle (flag identity.flags "investor_provenance_confirmed" = false)
    (unproven "investor_provenance_not_confirmed")
  settle (flag identity.flags "account_trade_allowed" = true ∨
      flag identity.flags "account_trade_expert" = true)
    (contradicted "account_trading_permission_enabled")
  settle (flag identity.flags "terminal_trade_allowed" = true)
    (contradicted "terminal_trading_permission_enabled")
  settle (flag identity.flags "probe_hash_verified" = false ∨
      flag identity.flags "probe_static_guard_passed" = false)
    (unproven "identity_probe_not_attested")
  settle (flag identity.flags "terminal_connected" = false) (unproven "terminal_not_connected")

/-- `_evaluate_identity`, `.ok` where it returns `None`. -/
def evaluateIdentity : Except Evaluation Unit :=
  match evidence.identity with
  | none => .error (unproven "identity_not_available")
  | some identity => do
    checkIdentityTerms evidence identity
    checkProbeWindow evidence manifest plan identity
    checkProbePaths env evidence plan identity
    checkPermissions identity

/-- A contradiction of the identity, its gaps being left for later. -/
def identityContradiction : Except Evaluation Unit :=
  match evaluateIdentity env evidence manifest plan with
  | .ok _ => .ok ()
  | .error verdict => if verdict.outcome = .fail then .error verdict else .ok ()

def checkIdentity : Except Evaluation Unit :=
  if evidence.control = .c2 ∨ evidence.control = .c3 ∨ evidence.control = .c5 then do
    settle (∃ identity ∈ evidence.identity, identity.probeRunId ≠ evidence.runId)
      (contradicted "identity_probe_run_id_mismatch")
    identityContradiction env evidence manifest plan
  else .ok ()

end Identity

section Gaps

variable (evidence : Evidence) (manifest : Option ExperimentManifest)

/-- What the contradictions leave open. -/
structure Gaps where
  manifestGap : Option String
  planGaps : PlanGaps
  handoff : HandoffFindings
  labels : LabelFindings
  negativeQuery : Option String
  deriving DecidableEq, Repr

def leaveNoGap (gap : Option String) : Except Evaluation Unit :=
  match gap with
  | some reason => .error (unproven reason)
  | none => .ok ()

/-- The bindings that are not there. -/
def checkGaps (gaps : Gaps) : Except Evaluation Unit := do
  settle (experimentIdMismatch evidence manifest = true)
    (unproven "evidence_config_experiment_id_mismatch")
  settle (expectedIdentityMismatch evidence manifest = true)
    (unproven "evidence_config_expected_identity_mismatch")
  leaveNoGap gaps.labels.manifestGap
  settle (gaps.labels.bindingMissing = true) (unproven "discovery_requested_label_binding_missing")
  leaveNoGap gaps.negativeQuery
  leaveNoGap gaps.manifestGap
  leaveNoGap gaps.planGaps.plan
  settle (evidence.stateTransition.transitionVerified = false)
    (unproven "state_transition_not_verified")
  leaveNoGap gaps.planGaps.lifecycle
  leaveNoGap gaps.planGaps.portableRoot
  leaveNoGap gaps.planGaps.preState
  leaveNoGap gaps.planGaps.transition
  leaveNoGap gaps.planGaps.firewallRoot
  leaveNoGap gaps.handoff.gap

/-- `_common_etw_proof_gap` with the checks before it. -/
def checkSufficiency : Except Evaluation Unit := do
  let proof := evidence.proofBinding
  let integrity := evidence.captureIntegrity
  settle (evidence.control ≠ .c0 ∧ evidence.control ≠ .c1 ∧
      (proof.credentialSetBindingVerified = false ∨ proof.credentialSetBindingSha256 = none))
    (unproven "credential_set_binding_not_proven")
  settle (evidence.control ≠ .c0 ∧ evidence.control ≠ .c1 ∧
      evidence.credentialBundleInvestorConfirmed = false)
    (unproven "credential_bundle_investor_not_confirmed")
  settle (¬ (integrity.etwStarted = true ∧ integrity.etwStopped = true ∧
      integrity.requiredMarkersPresent = true ∧ integrity.eventsLost = 0 ∧
      integrity.buffersLost = 0)) (unproven "capture_integrity_not_proven")
  settle (proof.etwProofCapable = false ∨ proof.etwEvidenceSha256 = none)
    (unproven "etw_evidence_not_proof_capable")
  settle (proof.jobProcessBindingVerified = false ∨ proof.jobManifestSha256 = none)
    (unproven "job_process_binding_not_proven")
  settle (proof.phaseBindingVerified = false ∨ proof.phaseTimelineSha256 = none)
    (unproven "phase_binding_not_proven")

end Gaps

section Positive

variable (env : LabEnv) (evidence : Evidence) (manifest : Option ExperimentManifest)
  (plan : Option ControlPlan) (durations : Durations)

def elapsedSeconds : Int := evidence.runContext.completedAtUnix - evidence.runContext.startedAtUnix

def completeBaseline : Except Evaluation String := do
  let health := evidence.environmentHealth
  settle (flag health "build_unchanged" = false ∨ flag health "baseline_stable" = false)
    (unproven "baseline_environment_unstable")
  settle (evidence.timing.baselineSeconds < durations.baseline ∨
      elapsedSeconds evidence < evidence.timing.baselineSeconds)
    (unproven "baseline_window_too_short")
  return "baseline_complete"

def completeDiscovery : Except Evaluation String := do
  let discovery := evidence.discovery
  let network := evidence.network
  let timing := evidence.timing
  settle (flag evidence.environmentHealth "ui_compatible" = false)
    (unproven "discovery_ui_incompatible")
  settle (timing.negativeDiscoverySeconds < durations.negativeDiscovery ∨
      timing.exactDiscoverySeconds < durations.exactDiscovery ∨
      elapsedSeconds evidence < timing.negativeDiscoverySeconds + timing.exactDiscoverySeconds)
    (unproven "discovery_windows_too_short")
  settle (discovery.cacheInfluenceExcluded = false)
    (unproven "discovery_cache_influence_unexplained")
  settle (¬ (discovery.negativeExactQueryCompleted = true ∧
      discovery.exactSelectionCompleted = true ∧ discovery.endpointDeltaAcquired = true))
    (unproven "discovery_sequence_incomplete")
  settle (discovery.endpointDeltaSource = .none ∨ discovery.endpointDeltaSourceSha256 = none ∨
      discovery.endpointDeltaSourceVerified = false ∨
      discovery.endpointDeltaSource = .processScopedTcpFlowSet ∧
        (network.processScopedTcpFlows < 1 ∨ network.flowRecordSetSha256 = none ∨
          network.flowRecordSetVerified = false ∨
          discovery.endpointDeltaSourceSha256 ≠ network.flowRecordSetSha256))
    (unproven "discovery_endpoint_delta_source_not_proven")
  settle (discovery.endpointDeltaSource = .processScopedTcpFlowSet ∧
      network.attributionUnambiguous = false) (unproven "discovery_flow_attribution_ambiguous")
  return "credential_free_exact_discovery_complete"

/-- The health that every control with a login asks for. -/
def loginHealthy : Bool :=
  ["build_unchanged", "clock_synchronized", "account_available", "external_outage_excluded"].all
    (flag evidence.environmentHealth)

/-- A connection to the candidate in its phase, seen and attributed. -/
def candidateFlowProven (phase : ObservedPhase) : Prop :=
  let network := evidence.network
  network.candidateAttemptObserved = true ∧ network.candidateConnected = true ∧
    network.candidateTupleMatch = true ∧ network.candidateObservedPhase = phase ∧
    1 ≤ network.candidateTcpFlows ∧ network.flowRecordSetVerified = true ∧
    network.flowRecordSetSha256.isSome = true

instance (phase : ObservedPhase) : Decidable (candidateFlowProven evidence phase) := by
  unfold candidateFlowProven
  infer_instance

/-- No flow but that to the candidate. -/
def candidateAlone : Prop :=
  evidence.network.otherTcpFlows = 0 ∧ evidence.network.dnsEvents = 0 ∧
    evidence.network.nonTcpNetworkEvents = 0

instance : Decidable (candidateAlone evidence) := by
  unfold candidateAlone
  infer_instance

def completeLogin : Except Evaluation String := do
  let proof := evidence.proofBinding
  let timing := evidence.timing
  settle (evidence.runContext.candidateEndpoint = none) (unproven "candidate_endpoint_not_bound")
  settle (proof.candidateTupleBound = false ∨ proof.candidateEndpointSha256 = none ∨
      evidence.network.attributionUnambiguous = false ∨ ¬ candidateFlowProven evidence .login)
    (unproven "candidate_login_flow_not_proven")
  settle (loginHealthy evidence = false) (unproven "login_environment_health_not_proven")
  settle (¬ (1 ≤ timing.loginObservationSeconds ∧
        timing.loginObservationSeconds ≤ durations.loginTimeout) ∨
      timing.connectedSteadySeconds < durations.connectedSteady ∨
      timing.networkInterruptionSeconds < durations.networkInterruption ∨
      timing.reconnectObservationSeconds < durations.reconnectObservation ∨
      elapsedSeconds evidence < timing.loginObservationSeconds + timing.connectedSteadySeconds +
        timing.networkInterruptionSeconds + timing.reconnectObservationSeconds)
    (unproven "login_observation_windows_too_short")
  evaluateIdentity env evidence manifest plan
  return "normal_investor_login_observed"

/-- C5 starts long enough after C3, as the campaign knows it. -/
def checkSeparation (c3CompletedAtUnixMs : Option Int) : Except Evaluation Unit :=
  if evidence.control = .c5 then
    match c3CompletedAtUnixMs with
    | none => .error (unproven "c5_campaign_timing_context_required")
    | some completed => do
      settle (firstTimestamp evidence.timeline - completed < 0)
        (unproven "c5_started_before_c3_completed")
      settle (firstTimestamp evidence.timeline - completed < durations.c5SeparationMinimum * 1000)
        (unproven "c3_c5_separation_not_proven")
  else .ok ()

/-- Firewall, health, WFP and the candidate's policy of C3, C4 and C5. -/
def checkDirectPolicy (firewall health wfp policy : String) : Except Evaluation Unit := do
  let proof := evidence.proofBinding
  settle (flag evidence.environmentHealth "firewall_policy_verified" = false)
    (unproven firewall)
  settle (loginHealthy evidence = false) (unproven health)
  settle (proof.wfpProofCapable = false ∨ proof.wfpEvidenceSha256 = none) (unproven wfp)
  settle (proof.firewallPlanBound = false ∨ proof.firewallPlanSha256 = none ∨
      proof.candidateTupleBound = false ∨ proof.candidateEndpointSha256 = none)
    (unproven policy)

def completeDirect (c3CompletedAtUnixMs : Option Int) (c2ContextMissing : Bool) :
    Except Evaluation String := do
  let timing := evidence.timing
  settle (evidence.runContext.candidateEndpoint = none) (unproven "candidate_endpoint_not_bound")
  settle (¬ (1 ≤ timing.loginObservationSeconds ∧
        timing.loginObservationSeconds ≤ durations.loginTimeout) ∨
      timing.connectedSteadySeconds < durations.connectedSteady ∨
      elapsedSeconds evidence < timing.loginObservationSeconds + timing.connectedSteadySeconds)
    (unproven "connected_window_too_short")
  checkDirectPolicy evidence "direct_firewall_policy_not_proven"
    "direct_environment_health_not_proven" "direct_wfp_evidence_not_proof_capable"
    "direct_candidate_policy_binding_not_proven"
  settle (evidence.network.attributionUnambiguous = false)
    (unproven "direct_flow_attribution_ambiguous")
  settle (¬ (candidateFlowProven evidence
        (if evidence.control = .c3 then .directOnly else .directRepeat) ∧
      candidateAlone evidence)) (unproven "direct_candidate_flow_not_proven")
  evaluateIdentity env evidence manifest plan
  checkSeparation evidence durations c3CompletedAtUnixMs
  settle (c2ContextMissing = true) (unproven "candidate_handoff_c2_context_required")
  return "direct_only_login_verified"

def completeBlocked (c2ContextMissing : Bool) : Except Evaluation String := do
  let network := evidence.network
  let timing := evidence.timing
  settle (evidence.runContext.candidateEndpoint = none) (unproven "candidate_endpoint_not_bound")
  settle (¬ (1 ≤ timing.blockedObservationSeconds ∧
        timing.blockedObservationSeconds ≤ durations.blockedTimeout) ∨
      elapsedSeconds evidence < timing.blockedObservationSeconds ∨
      durations.blockedTimeout + durations.c4ElapsedTolerance < elapsedSeconds evidence)
    (unproven "negative_control_window_invalid")
  checkDirectPolicy evidence "negative_control_firewall_not_proven"
    "negative_control_environment_health_not_proven"
    "negative_control_wfp_evidence_not_proof_capable"
    "negative_control_candidate_policy_binding_not_proven"
  settle (¬ (network.candidateAttemptObserved = true ∧ network.candidateBlockObserved = true ∧
      network.candidateTupleMatch = true ∧ network.candidateObservedPhase = .endpointBlocked ∧
      1 ≤ network.candidateTcpFlows ∧ candidateAlone evidence ∧
      network.flowRecordSetVerified = true ∧ network.flowRecordSetSha256.isSome = true ∧
      network.attributionUnambiguous = true)) (unproven "candidate_block_not_proven")
  settle (c2ContextMissing = true) (unproven "candidate_handoff_c2_context_required")
  return "candidate_blocked_without_fallback"

/-- What is left to show of a control without contradictions or gaps. -/
def completeControl (c3CompletedAtUnixMs : Option Int) (c2ContextMissing : Bool) :
    Except Evaluation String :=
  match evidence.control with
  | .c0 => completeBaseline evidence durations
  | .c1 => completeDiscovery evidence durations
  | .c2 => completeLogin env evidence manifest plan durations
  | .c4 => completeBlocked evidence durations c2ContextMissing
  | _ =>
    completeDirect env evidence manifest plan durations c3CompletedAtUnixMs c2ContextMissing

/-- `_positive_result`. -/
def positiveResult (reason : String) (allowSynthetic : Bool) : Evaluation :=
  if evidence.proofBinding.provenance.origin = .capturedExport then
    unproven "captured_artifact_binding_not_independently_verified"
  else if allowSynthetic then { outcome := .syntheticPass, reasons := [reason] }
  else unproven "synthetic_fixture_requires_test_only_authorization"

end Positive

/-- What `_evaluate_validated_evidence` is given beside the evidence. -/
structure VerdictInputs where
  manifest : Option ExperimentManifest
  plan : Option ControlPlan
  handoff : Option CandidateHandoff
  campaignHandoffVerified : Bool
  allowSynthetic : Bool
  c3CompletedAtUnixMs : Option Int
  deriving DecidableEq, Repr

section Verdict

variable (env : LabEnv) (evidence : Evidence) (inputs : VerdictInputs)

/-- The contradictions come first, the gaps are only collected. -/
def findContradictions : Except Evaluation Gaps := do
  checkOpening env evidence
  let manifestGap ← checkManifest evidence inputs.manifest
  let planGaps ← checkPlan env evidence inputs.manifest inputs.plan
  let handoff ← checkHandoff env evidence inputs.plan inputs.handoff
    inputs.campaignHandoffVerified
  let labels ← checkLabels env evidence inputs.manifest
  let negativeQuery ← checkNegativeQuery env evidence inputs.manifest inputs.plan
  checkControl env evidence
  checkIdentity env evidence inputs.manifest inputs.plan
  return { manifestGap, planGaps, handoff, labels, negativeQuery }

/-- The gaps, then what the control has to show. -/
def findProof (gaps : Gaps) : Except Evaluation String := do
  checkGaps evidence inputs.manifest gaps
  checkSufficiency evidence
  let manifest ← orUnproven inputs.manifest "evidence_experiment_manifest_missing"
  completeControl env evidence inputs.manifest inputs.plan manifest.durationsSeconds
    inputs.c3CompletedAtUnixMs gaps.handoff.c2ContextMissing

def reachResult : Except Evaluation Evaluation := do
  let gaps ← findContradictions env evidence inputs
  let reason ← findProof env evidence inputs gaps
  return positiveResult evidence reason inputs.allowSynthetic

/-- `_evaluate_validated_evidence`. -/
def evaluateValidatedEvidence : Evaluation :=
  match reachResult env evidence inputs with
  | .ok verdict => verdict
  | .error verdict => verdict

end Verdict

section Samples

def zeroDigest : String := String.ofList (List.replicate 64 '0')

theorem zeroDigest_hex : isLowerSha256 zeroDigest = true := by
  unfold isLowerSha256 zeroDigest
  rw [String.toList_ofList]
  simp [isLowerHex]

/-- A hash that keeps nothing of its input. -/
def zeroEnv : LabEnv where
  unicode := ⟨fun _ => .letter, fun _ => false, fun _ => false, fun c => [c], id⟩
  addresses := ⟨fun _ => none, fun _ => "", fun _ => true, fun _ => false, fun _ => false⟩
  floatText := fun _ => ""
  loads := fun _ => none
  sha256 := fun _ => zeroDigest
  sha256_hex := fun _ => zeroDigest_hex

/-- A control of the sample campaign begins 20 seconds after the one before it. -/
def sampleStart : Control → Int
  | .c0 => 20
  | .c1 => 40
  | .c2 => 60
  | .c3 => 80
  | .c4 => 100
  | .c5 => 120

/-- C0, C1 and C2 have one machine, the others one each. -/
def sampleMachine (control : Control) : String := if control.early then "C012" else control.text

def sampleLogin (control : Control) : Bool := control ≠ .c0 && control ≠ .c1

def sampleConnects (control : Control) : Bool := sampleLogin control && control ≠ .c4

def sampleCandidate : Candidate := { ip := "8.8.8.8", port := 443 }

def sampleContext (control : Control) : RunContext where
  experimentId := "experiment"
  cohort := sampleMachine control
  expectedServer := if sampleLogin control then some "Server" else none
  expectedCompany := if sampleLogin control then some "Company" else none
  expectsDemo := sampleLogin control
  requestedServerLabelSha256 := if control.early then some zeroDigest else none
  credentialSetId := if sampleLogin control then some "credentials" else none
  cloneIdSha256 := sampleMachine control
  windowsUserSidSha256 := sampleMachine control
  portableRootPathSha256 := sampleMachine control
  terminalSha256 := "terminal"
  terminalBuild := 1
  candidateEndpoint := if sampleLogin control then some sampleCandidate else none
  startedAtUnix := sampleStart control
  completedAtUnix := sampleStart control + 10

def sampleLifecycle (control : Control) : LifecycleBinding where
  c012SessionId := if control.early then some "session" else none
  jobId := sampleMachine control
  jobManifestSha256 := sampleMachine control
  jobIdentitySha256 := sampleMachine control
  rootProcessGenerationSha256 := sampleMachine control
  transientProcessSetSha256 := none

def samplePreState (control : Control) : InitialPreStateBinding where
  scope := "scope"
  portableRootPathSha256 := sampleMachine control
  initialC012PreStateSha256 := if control.early then some zeroDigest else none

def sampleNetwork (control : Control) : Network where
  attributionUnambiguous := true
  candidateAttemptObserved := sampleLogin control
  candidateBlockObserved := control = .c4
  candidateConnected := sampleConnects control
  candidateEndpointSafe := sampleLogin control
  candidateTupleMatch := sampleLogin control
  flowRecordSetVerified := true
  candidateTcpFlows := if sampleLogin control then 1 else 0
  dnsEvents := 0
  nonTcpNetworkEvents := 0
  otherTcpFlows := 0
  processScopedTcpFlows := 1
  candidateObservedPhase := allowedPhase control
  flowRecordSetSha256 := some "flows"

def sampleDiscovery (control : Control) : Discovery where
  credentialsSupplied := false
  negativeExactQueryCompleted := control = .c1
  exactSelectionCompleted := control = .c1
  helperSecretAccessed := false
  unsafeEndpointPromoted := false
  cacheInfluenceExcluded := control = .c1
  endpointDeltaAcquired := control = .c1
  endpointDeltaSourceVerified := control = .c1
  exactLabelMatchVerified := control = .c1
  negativeQueryUiBindingVerified := control = .c1
  expectedExactResultCount := 1
  negativeQueryResultCount := if control = .c1 then some 0 else none
  negativeQueryLabelSha256 := if control = .c1 then some "query" else none
  selectedServerLabelSha256 := if control = .c1 then some zeroDigest else none
  endpointDeltaSource := if control = .c1 then .processScopedTcpFlowSet else .none
  endpointDeltaSourceSha256 := if control = .c1 then some "flows" else none

/-- The investor login of a demo account. -/
def sampleIdentity (control : Control) : Identity where
  flags := [("account_match", true), ("expected_company_match", true),
    ("expected_server_match", true), ("investor_provenance_confirmed", true),
    ("probe_hash_verified", true), ("probe_path_binding_verified", true),
    ("probe_static_guard_passed", true), ("terminal_connected", true)]
  probeRunId := control.text
  probeGeneratedAtUnix := sampleStart control
  server := "Server"
  company := "Company"
  tradeMode := "DEMO"
  terminalBuild := 1
  terminalPathSha256 := some "path"
  terminalDataPathSha256 := some (sampleMachine control)
  identityProbeOutputSha256 := some control.text

def sampleProof (control : Control) : ProofBinding where
  runId := control.text
  provenance :=
    { origin := .syntheticFixture, syntheticFixture := true, artifactSetId := control.text }
  candidateEndpointSha256 := if sampleLogin control then some zeroDigest else none
  candidateHandoffManifestSha256 := if control.early then none else some "handoff"
  controlPlanSha256 := some control.text
  credentialSetBindingSha256 := if sampleLogin control then some zeroDigest else none
  etwEvidenceSha256 := some control.text
  experimentManifestSha256 := some "manifest"
  firewallPlanSha256 := if control.early then none else some control.text
  firewallPortableRootBindingSha256 := if control.early then none else some zeroDigest
  jobIdentitySha256 := sampleMachine control
  jobManifestSha256 := some (sampleMachine control)
  jobPortableRootBindingSha256 := some zeroDigest
  lifecycleBindingSha256 := some zeroDigest
  negativeQueryBindingSha256 := if control = .c1 then some zeroDigest else none
  phaseTimelineSha256 := some control.text
  preStateBindingSha256 := some zeroDigest
  probePathBindingSha256 := if sampleConnects control then some zeroDigest else none
  requestedLabelBindingSha256 := if control.early then some zeroDigest else none
  rootProcessGenerationSha256 := sampleMachine control
  stateTransitionSha256 := some zeroDigest
  wfpEvidenceSha256 := if control.early then none else some control.text
  candidateTupleBound := sampleLogin control
  credentialSetBindingVerified := sampleLogin control
  etwProofCapable := true
  firewallPlanBound := !control.early
  jobProcessBindingVerified := true
  phaseBindingVerified := true
  requestedLabelBindingVerified := control.early
  wfpProofCapable := !control.early

def sampleMarkers (control : Control) : String × String :=
  (authenticatedMarkers control).getD ("START", "END")

def sampleTimeline (control : Control) : Timeline where
  qpcFrequencyHz := 1
  events :=
    [{ code := (sampleMarkers control).1, sequence := 1
       timestampUnixMs := sampleStart control * 1000, qpc := sampleStart control },
      { code := (sampleMarkers control).2, sequence := 2
        timestampUnixMs := (sampleStart control + 10) * 1000, qpc := sampleStart control + 10 }]

def sampleEvidence (control : Control) : Evidence where
  runId := control.text
  control := control
  runContext := sampleContext control
  lifecycleBinding := sampleLifecycle control
  initialPreStateBinding := samplePreState control
  stateTransition := {
    stage := "stage", brokerCacheState := "ABSENT_RECORDED"
    accountCacheState := "ABSENT_RECORDED", transitionEvidenceSha256 := none
    transitionVerified := true }
  captureIntegrity := {
    etwStarted := true, etwStopped := true, requiredMarkersPresent := true
    buffersLost := 0, eventsLost := 0 }
  preState := if control = .c1 ∨ control = .c2 then none else some [("portable_root_new", true)]
  identity := if sampleConnects control then some (sampleIdentity control) else none
  credentialBundleInvestorConfirmed := sampleLogin control
  network := sampleNetwork control
  discovery := sampleDiscovery control
  environmentHealth := [("account_available", true), ("baseline_stable", true),
    ("build_unchanged", true), ("clock_synchronized", true), ("external_outage_excluded", true),
    ("firewall_policy_verified", true), ("ui_compatible", true)]
  proofBinding := sampleProof control
  timeline := sampleTimeline control
  timing := { loginObservationSeconds := 1, blockedObservationSeconds := 1 }
  phaseMarkers := []

def sampleManifest : ExperimentManifest where
  policyVersion := "mt5-direct-endpoint-policy-v2"
  experimentId := "experiment"
  terminalSha256 := "terminal"
  allowedRemotePorts := [443]
  requestedServerLabel := "Server-Demo"
  expectedIdentity := { server := "Server", company := "Company", tradeMode := "DEMO" }
  negativeQuery := { label := "no such server", labelSha256 := "query" }
  durationsSeconds := {
    baseline := 0, negativeDiscovery := 0, exactDiscovery := 0, loginTimeout := 120
    connectedSteady := 0, networkInterruption := 0, reconnectObservation := 0
    blockedTimeout := 180, c4ElapsedTolerance := 30, c5SeparationMinimum := 1
    probeTimestampToleranceSeconds := 0 }
  experimentManifestSha256 := "manifest"

def samplePlan (control : Control) : ControlPlan where
  runId := control.text
  control := control
  experimentId := "experiment"
  experimentManifestSha256 := "manifest"
  candidateHandoffManifestSha256 := if control.early then none else some "handoff"
  directCampaignManifestSha256 := if control.early then none else some "campaign"
  lifecycleMode := lifecycleTerm control "lifecycle_mode"
  c012SessionId := if control.early then some "session" else none
  sessionRole := lifecycleTerm control "session_role"
  initialPreStateBinding := samplePreState control
  negativeQuery := if control = .c1 then some sampleManifest.negativeQuery else none
  terminalPathSha256 := "path"
  terminalDataPathSha256 := sampleMachine control
  controlPlanSha256 := control.text

def sampleInputs (control : Control) : VerdictInputs where
  manifest := some sampleManifest
  plan := some (samplePlan control)
  handoff := none
  campaignHandoffVerified := false
  allowSynthetic := true
  c3CompletedAtUnixMs := none

end Samples

end TradeJournalWorker.Lab
