import TradeJournalWorker.CandidatePolicy

namespace TradeJournalWorker.Lab

/-- A value that the control does not allow. -/
def requireNull (value : JsonValue) (error : String) : Except String Unit :=
  match value with
  | .null => .ok ()
  | _ => .error error

section RunContext

variable (env : LabEnv) (control : Control) (data : Members)

/-- The expected identity: absent for C0 and C1, a demo account for the others. -/
def requireExpectedIdentity : Except String (Option String × Option String × Bool) :=
  if control = .c0 ∨ control = .c1 then do
    let error := control.text ++ " cannot contain canonical expected identity fields"
    requireNull (JsonValue.get data "expected_server") error
    requireNull (JsonValue.get data "expected_company") error
    requireNull (JsonValue.get data "expected_trade_mode") error
    return (none, none, false)
  else do
    let server ← validatedText (JsonValue.get data "expected_server")
      "run_context.expected_server" env 128
    let company ← validatedText (JsonValue.get data "expected_company")
      "run_context.expected_company" env 128
    requireText (JsonValue.get data "expected_trade_mode") "DEMO"
      "run_context.expected_trade_mode must be DEMO"
    return (some server, some company, true)

def requireRequestedLabel : Except String (Option String) :=
  if control.early then
    match JsonValue.get data "requested_server_label_sha256" with
    | .str text =>
      if isSha256 text then .ok (some (lowerDigest text))
      else .error (control.text ++ " requires run_context.requested_server_label_sha256")
    | _ => .error (control.text ++ " requires run_context.requested_server_label_sha256")
  else do
    requireNull (JsonValue.get data "requested_server_label_sha256")
      (control.text ++ " cannot contain requested-server-label state")
    return none

def requireCredentialSetId : Except String (Option String) :=
  match JsonValue.get data "credential_set_id" with
  | .null => .ok none
  | value => do
    let normalized ← validatedUuid value "run_context.credential_set_id"
    demand (isUuidVersion4 normalized = true)
      "run_context.credential_set_id must be an opaque UUIDv4"
    return some normalized

def requireCandidateEndpoint : Except String (Option Candidate) := do
  let candidate ← match JsonValue.get data "candidate_endpoint" with
    | .null => Except.ok none
    | value => some <$> validateCandidate env value
  demand (¬ ((control = .c0 ∨ control = .c1) ∧ candidate.isSome))
    (control.text ++ " cannot bind a login candidate endpoint")
  return candidate

def runContextKeys : List String :=
  ["experiment_id", "cohort", "clone_id_sha256", "windows_user_sid_sha256",
    "portable_root_path_sha256", "terminal_sha256", "terminal_build", "expected_server",
    "expected_company", "expected_trade_mode", "requested_server_label_sha256",
    "credential_set_id", "candidate_endpoint", "started_at_unix", "completed_at_unix"]

/-- `_require_run_context`. -/
def requireRunContext (value : JsonValue) : Except String RunContext := do
  let data ← requireMapping "run_context" value
  requireExactKeys "run_context" data runContextKeys
  let cohort := if control.early then "C012" else control.text
  requireText (JsonValue.get data "cohort") cohort
    ("run_context.cohort must be " ++ cohort ++ " for " ++ control.text)
  let experimentId ← validatedUuid (JsonValue.get data "experiment_id")
    "run_context.experiment_id"
  let (expectedServer, expectedCompany, expectsDemo) ← requireExpectedIdentity env control data
  let requestedServerLabelSha256 ← requireRequestedLabel control data
  let credentialSetId ← requireCredentialSetId data
  let cloneIdSha256 ← validatedSha256 (JsonValue.get data "clone_id_sha256")
    "run_context.clone_id_sha256"
  let windowsUserSidSha256 ← validatedSha256 (JsonValue.get data "windows_user_sid_sha256")
    "run_context.windows_user_sid_sha256"
  let portableRootPathSha256 ← validatedSha256 (JsonValue.get data "portable_root_path_sha256")
    "run_context.portable_root_path_sha256"
  let terminalSha256 ← validatedSha256 (JsonValue.get data "terminal_sha256")
    "run_context.terminal_sha256"
  let terminalBuild ← requireInt (JsonValue.get data "terminal_build") 1 none
    "run_context.terminal_build must be a positive integer"
  let candidateEndpoint ← requireCandidateEndpoint env control data
  let startedAtUnix ← requireInt (JsonValue.get data "started_at_unix") 1 none
    "run_context.started_at_unix must be a positive Unix timestamp"
  let completedAtUnix ← requireInt (JsonValue.get data "completed_at_unix") 1 none
    "run_context.completed_at_unix must be a positive Unix timestamp"
  demand (startedAtUnix ≤ completedAtUnix) "run_context completion precedes start"
  return {
    experimentId, cohort, expectedServer, expectedCompany, expectsDemo
    requestedServerLabelSha256, credentialSetId, cloneIdSha256, windowsUserSidSha256
    portableRootPathSha256, terminalSha256, terminalBuild, candidateEndpoint
    startedAtUnix, completedAtUnix }

end RunContext

section Lifecycle

variable (control : Control)

/-- What each control says of its terminal and its session. -/
def lifecyclePolicy : Control → List (String × JsonValue)
  | .c0 =>
    [("lifecycle_mode", .str "C012_SINGLE_PROCESS_SESSION"), ("session_role", .str "LAUNCH_RETAIN"),
      ("terminal_alive_at_start", .bool false), ("terminal_alive_at_end", .bool true),
      ("session_retained", .bool true), ("teardown_completed", .bool false),
      ("bootstrap_submitted_to_existing_session", .bool false),
      ("transient_process_same_job_verified", .bool false)]
  | .c1 =>
    [("lifecycle_mode", .str "C012_SINGLE_PROCESS_SESSION"), ("session_role", .str "REUSE_RETAIN"),
      ("terminal_alive_at_start", .bool true), ("terminal_alive_at_end", .bool true),
      ("session_retained", .bool true), ("teardown_completed", .bool false),
      ("bootstrap_submitted_to_existing_session", .bool false),
      ("transient_process_same_job_verified", .bool false)]
  | .c2 =>
    [("lifecycle_mode", .str "C012_SINGLE_PROCESS_SESSION"),
      ("session_role", .str "REUSE_CONFIG_SUBMIT_TEARDOWN"),
      ("terminal_alive_at_start", .bool true), ("terminal_alive_at_end", .bool false),
      ("session_retained", .bool false), ("teardown_completed", .bool true),
      ("bootstrap_submitted_to_existing_session", .bool true),
      ("transient_process_same_job_verified", .bool true)]
  | _ =>
    [("lifecycle_mode", .str "INDEPENDENT_DISPOSABLE_CONTROL"),
      ("session_role", .str "INDEPENDENT_LAUNCH_TEARDOWN"),
      ("terminal_alive_at_start", .bool false), ("terminal_alive_at_end", .bool false),
      ("session_retained", .bool false), ("teardown_completed", .bool true),
      ("bootstrap_submitted_to_existing_session", .bool false),
      ("transient_process_same_job_verified", .bool false)]

def lifecycleKeys : List String :=
  ["schema_version", "lifecycle_mode", "c012_session_id", "session_role", "job_id",
    "job_manifest_sha256", "job_identity_sha256", "root_process_generation_sha256",
    "terminal_alive_at_start", "terminal_alive_at_end", "session_retained",
    "teardown_completed", "bootstrap_submitted_to_existing_session",
    "transient_process_set_sha256", "transient_process_same_job_verified"]

def checkLifecyclePolicy (data : Members) : Except String Unit :=
  match (lifecyclePolicy control).find? fun entry =>
      !(JsonValue.get data entry.1).equals entry.2 with
  | some entry =>
    .error ("lifecycle_binding." ++ entry.1 ++ " is invalid for " ++ control.text)
  | none => .ok ()

def requireSessionId (value : JsonValue) : Except String (Option String) :=
  if control.early then some <$> validatedUuid value "lifecycle_binding.c012_session_id"
  else do
    requireNull value (control.text ++ " cannot contain a C012 session ID")
    return none

/-- `_require_lifecycle_binding`. -/
def requireLifecycleBinding (value : JsonValue) : Except String LifecycleBinding := do
  let data ← requireMapping "lifecycle_binding" value
  requireExactKeys "lifecycle_binding" data lifecycleKeys
  requireExactVersion (JsonValue.get data "schema_version") "lifecycle_binding.schema_version" 1
  checkLifecyclePolicy control data
  let c012SessionId ← requireSessionId control (JsonValue.get data "c012_session_id")
  let transientProcessSetSha256 ← validatedNullableSha256
    (JsonValue.get data "transient_process_set_sha256")
    "lifecycle_binding.transient_process_set_sha256"
  if control = .c2 then
    demand (transientProcessSetSha256.isSome = true)
      "C2 requires a transient process-set commitment"
  else
    demand (transientProcessSetSha256 = none)
      (control.text ++ " cannot contain a transient process-set commitment")
  let jobId ← validatedUuid (JsonValue.get data "job_id") "lifecycle_binding.job_id"
  let jobManifestSha256 ← validatedSha256 (JsonValue.get data "job_manifest_sha256")
    "lifecycle_binding.job_manifest_sha256"
  let jobIdentitySha256 ← validatedSha256 (JsonValue.get data "job_identity_sha256")
    "lifecycle_binding.job_identity_sha256"
  let rootProcessGenerationSha256 ← validatedSha256
    (JsonValue.get data "root_process_generation_sha256")
    "lifecycle_binding.root_process_generation_sha256"
  return {
    c012SessionId, jobId, jobManifestSha256, jobIdentitySha256, rootProcessGenerationSha256
    transientProcessSetSha256 }

/-- `_validate_initial_pre_state_binding`. -/
def requireInitialPreStateBinding (value : JsonValue) : Except String InitialPreStateBinding := do
  let data ← requireMapping "initial_pre_state_binding" value
  requireExactKeys "initial_pre_state_binding" data
    ["schema_version", "scope", "portable_root_path_sha256", "initial_c012_pre_state_sha256"]
  requireExactVersion (JsonValue.get data "schema_version")
    "initial_pre_state_binding.schema_version" 1
  let scope := if control = .c0 then "C012_INITIAL"
    else if control.early then "C012_REFERENCE"
    else "COLD_BOOT_INITIAL"
  requireText (JsonValue.get data "scope") scope "initial_pre_state_binding scope is invalid"
  let portableRootPathSha256 ← validatedSha256 (JsonValue.get data "portable_root_path_sha256")
    "initial_pre_state_binding.portable_root_path_sha256"
  let initialC012PreStateSha256 ← validatedNullableSha256
    (JsonValue.get data "initial_c012_pre_state_sha256")
    "initial_pre_state_binding.initial_c012_pre_state_sha256"
  if control.early then
    demand (initialC012PreStateSha256.isSome = true)
      (control.text ++ " requires initial C012 pre-state commitment")
  else
    demand (initialC012PreStateSha256 = none)
      (control.text ++ " cannot reuse the C012 initial pre-state commitment")
  return { scope, portableRootPathSha256, initialC012PreStateSha256 }

/-- The stage of each control with the states of the two caches it may record. -/
def transitionPolicy : Control → String × List String × List String
  | .c0 => ("C0_INITIAL", ["ABSENT"], ["ABSENT"])
  | .c1 =>
    ("C1_DISCOVERY_COMPLETE", ["CREATED_RECORDED", "ABSENT_RECORDED"], ["ABSENT_RECORDED"])
  | .c2 =>
    ("C2_LOGIN_COMPLETE", ["INHERITED_RECORDED", "CREATED_RECORDED", "ABSENT_RECORDED"],
      ["CREATED_RECORDED", "ABSENT_RECORDED"])
  | _ => ("COLD_BOOT_INITIAL", ["ABSENT"], ["ABSENT"])

/-- `_require_state_transition`. -/
def requireStateTransition (value : JsonValue) : Except String StateTransition := do
  let data ← requireMapping "state_transition" value
  requireExactKeys "state_transition" data
    ["schema_version", "stage", "broker_cache_state", "account_cache_state",
      "sensitive_material_exported", "transition_evidence_sha256", "transition_verified"]
  requireExactVersion (JsonValue.get data "schema_version") "state_transition.schema_version" 1
  let (stage, brokerStates, accountStates) := transitionPolicy control
  requireText (JsonValue.get data "stage") stage
    ("state_transition.stage is invalid for " ++ control.text)
  let brokerCacheState ← requireOneOf (JsonValue.get data "broker_cache_state") brokerStates
    ("state_transition.broker_cache_state is invalid for " ++ control.text)
  let accountCacheState ← requireOneOf (JsonValue.get data "account_cache_state") accountStates
    ("state_transition.account_cache_state is invalid for " ++ control.text)
  demand ((JsonValue.get data "sensitive_material_exported").isBool false = true)
    "state_transition cannot export sensitive material"
  let transitionVerified ← requireBool "state_transition" data "transition_verified"
  let transitionEvidenceSha256 ← validatedNullableSha256
    (JsonValue.get data "transition_evidence_sha256")
    "state_transition.transition_evidence_sha256"
  if control = .c1 ∨ control = .c2 then
    demand (transitionEvidenceSha256.isSome = true)
      (control.text ++ " requires transition evidence")
  else
    demand (transitionEvidenceSha256 = none)
      (control.text ++ " transition evidence is not applicable")
  return {
    stage, brokerCacheState, accountCacheState, transitionEvidenceSha256, transitionVerified }

end Lifecycle

/-- The mapping `capture_integrity`. -/
def requireCaptureIntegrity (value : JsonValue) : Except String CaptureIntegrity := do
  let data ← requireMapping "capture_integrity" value
  requireExactKeys "capture_integrity" data
    ["etw_started", "etw_stopped", "required_markers_present", "events_lost", "buffers_lost"]
  let etwStarted ← requireBool "capture_integrity" data "etw_started"
  let etwStopped ← requireBool "capture_integrity" data "etw_stopped"
  let requiredMarkersPresent ← requireBool "capture_integrity" data "required_markers_present"
  let buffersLost ← requireCount "capture_integrity" data "buffers_lost"
  let eventsLost ← requireCount "capture_integrity" data "events_lost"
  return { etwStarted, etwStopped, requiredMarkersPresent, buffersLost, eventsLost }

def networkKeys : List String :=
  ["candidate_attempt_observed", "candidate_connected", "candidate_block_observed",
    "candidate_endpoint_safe", "candidate_tuple_match", "attribution_unambiguous",
    "flow_record_set_verified", "process_scoped_tcp_flows", "candidate_tcp_flows",
    "other_tcp_flows", "dns_events", "non_tcp_network_events", "candidate_observed_phase",
    "flow_record_set_sha256"]

/-- The accounting that `_require_network` asks of the fields once they are read. -/
def checkNetworkAccounting (network : Network) : Except String Unit := do
  demand (network.processScopedTcpFlows = network.candidateTcpFlows + network.otherTcpFlows)
    "network TCP accounting must satisfy total=candidate+other"
  demand (network.candidateAttemptObserved = decide (0 < network.candidateTcpFlows))
    "network candidate_attempt_observed must derive from candidate_tcp_flows"
  demand (¬ ((network.candidateConnected ∨ network.candidateBlockObserved) ∧
      ¬ 0 < network.candidateTcpFlows)) "candidate disposition requires a candidate TCP flow"
  demand (¬ (network.candidateConnected ∧ network.candidateBlockObserved))
    "candidate connected and blocked dispositions are mutually exclusive"
  demand (¬ (network.flowRecordSetVerified ∧ network.flowRecordSetSha256 = none))
    "verified flow record set requires a digest"

def requireObservedPhase (value : JsonValue) : Except String ObservedPhase :=
  orRaise (observedPhases.find? fun phase => value.isText phase.text)
    "network.candidate_observed_phase is invalid"

/-- `_require_network`. -/
def requireNetwork (value : JsonValue) : Except String Network := do
  let data ← requireMapping "network" value
  requireExactKeys "network" data networkKeys
  let attributionUnambiguous ← requireBool "network" data "attribution_unambiguous"
  let candidateAttemptObserved ← requireBool "network" data "candidate_attempt_observed"
  let candidateBlockObserved ← requireBool "network" data "candidate_block_observed"
  let candidateConnected ← requireBool "network" data "candidate_connected"
  let candidateEndpointSafe ← requireBool "network" data "candidate_endpoint_safe"
  let candidateTupleMatch ← requireBool "network" data "candidate_tuple_match"
  let flowRecordSetVerified ← requireBool "network" data "flow_record_set_verified"
  let candidateTcpFlows ← requireCount "network" data "candidate_tcp_flows"
  let dnsEvents ← requireCount "network" data "dns_events"
  let nonTcpNetworkEvents ← requireCount "network" data "non_tcp_network_events"
  let otherTcpFlows ← requireCount "network" data "other_tcp_flows"
  let processScopedTcpFlows ← requireCount "network" data "process_scoped_tcp_flows"
  let candidateObservedPhase ← requireObservedPhase
    (JsonValue.get data "candidate_observed_phase")
  let flowRecordSetSha256 ← validatedNullableSha256 (JsonValue.get data "flow_record_set_sha256")
    "network.flow_record_set_sha256"
  let network : Network := {
    attributionUnambiguous, candidateAttemptObserved, candidateBlockObserved
    candidateConnected, candidateEndpointSafe, candidateTupleMatch, flowRecordSetVerified
    candidateTcpFlows, dnsEvents, nonTcpNetworkEvents, otherTcpFlows, processScopedTcpFlows
    candidateObservedPhase, flowRecordSetSha256 }
  checkNetworkAccounting network
  return network

def discoveryKeys : List String :=
  ["credentials_supplied", "negative_exact_query_completed", "expected_exact_result_count",
    "exact_selection_completed", "helper_secret_accessed", "unsafe_endpoint_promoted",
    "cache_influence_excluded", "endpoint_delta_acquired", "endpoint_delta_source",
    "endpoint_delta_source_sha256", "endpoint_delta_source_verified",
    "selected_server_label_sha256", "exact_label_match_verified", "negative_query_label_sha256",
    "negative_query_result_count", "negative_query_ui_binding_verified"]

def requireDeltaSource (value : JsonValue) : Except String DeltaSource :=
  if value.isText "NONE" then .ok .none
  else if value.isText "PROCESS_SCOPED_TCP_FLOW_SET" then .ok .processScopedTcpFlowSet
  else .error "discovery.endpoint_delta_source is invalid"

def requireNegativeCount (value : JsonValue) : Except String (Option Int) :=
  match value with
  | .null => .ok none
  | value =>
    some <$> requireInt value 0 (some 1000) "discovery.negative_query_result_count is invalid"

def requireSelectedLabel (value : JsonValue) : Except String (Option String) :=
  let error := "discovery.selected_server_label_sha256 must be null or a SHA-256 digest"
  match value with
  | .null => .ok none
  | .str text => if isSha256 text then .ok (some (lowerDigest text)) else .error error
  | _ => .error error

/-- What `_require_discovery` asks of the delta's source. -/
def checkDeltaSource (discovery : Discovery) : Except String Unit := do
  if discovery.endpointDeltaSource = .none then
    demand (discovery.endpointDeltaSourceSha256 = none ∧
        discovery.endpointDeltaSourceVerified = false)
      "discovery NONE delta source must be neutral"
  else
    demand (discovery.endpointDeltaSourceSha256.isSome = true ∧
        discovery.endpointDeltaSourceVerified = true)
      "discovery endpoint delta source must carry a verified digest"
  demand (¬ (discovery.endpointDeltaAcquired = false ∧ discovery.endpointDeltaSource ≠ .none))
    "discovery delta source is not applicable without an acquired delta"

/-- `_require_discovery`. -/
def requireDiscovery (value : JsonValue) : Except String Discovery := do
  let data ← requireMapping "discovery" value
  requireExactKeys "discovery" data discoveryKeys
  let credentialsSupplied ← requireBool "discovery" data "credentials_supplied"
  let negativeExactQueryCompleted ← requireBool "discovery" data "negative_exact_query_completed"
  let exactSelectionCompleted ← requireBool "discovery" data "exact_selection_completed"
  let helperSecretAccessed ← requireBool "discovery" data "helper_secret_accessed"
  let unsafeEndpointPromoted ← requireBool "discovery" data "unsafe_endpoint_promoted"
  let cacheInfluenceExcluded ← requireBool "discovery" data "cache_influence_excluded"
  let endpointDeltaAcquired ← requireBool "discovery" data "endpoint_delta_acquired"
  let endpointDeltaSourceVerified ← requireBool "discovery" data "endpoint_delta_source_verified"
  let exactLabelMatchVerified ← requireBool "discovery" data "exact_label_match_verified"
  let negativeQueryUiBindingVerified ← requireBool "discovery" data
    "negative_query_ui_binding_verified"
  let expectedExactResultCount ← requireInt (JsonValue.get data "expected_exact_result_count") 0
    (some 1000) "discovery.expected_exact_result_count is invalid"
  let negativeQueryResultCount ← requireNegativeCount
    (JsonValue.get data "negative_query_result_count")
  let negativeQueryLabelSha256 ← validatedNullableSha256
    (JsonValue.get data "negative_query_label_sha256") "discovery.negative_query_label_sha256"
  let selectedServerLabelSha256 ← requireSelectedLabel
    (JsonValue.get data "selected_server_label_sha256")
  let endpointDeltaSource ← requireDeltaSource (JsonValue.get data "endpoint_delta_source")
  let endpointDeltaSourceSha256 ← validatedNullableSha256
    (JsonValue.get data "endpoint_delta_source_sha256") "discovery.endpoint_delta_source_sha256"
  let discovery : Discovery := {
    credentialsSupplied, negativeExactQueryCompleted, exactSelectionCompleted
    helperSecretAccessed, unsafeEndpointPromoted, cacheInfluenceExcluded, endpointDeltaAcquired
    endpointDeltaSourceVerified, exactLabelMatchVerified, negativeQueryUiBindingVerified
    expectedExactResultCount, negativeQueryResultCount, negativeQueryLabelSha256
    selectedServerLabelSha256, endpointDeltaSource, endpointDeltaSourceSha256 }
  checkDeltaSource discovery
  return discovery

def identityFlags : List String :=
  ["account_match", "account_trade_allowed", "account_trade_expert", "expected_company_match",
    "expected_server_match", "investor_provenance_confirmed", "probe_hash_verified",
    "probe_path_binding_verified", "probe_static_guard_passed", "terminal_connected",
    "terminal_trade_allowed"]

/-- `_require_identity`. -/
def requireIdentity (env : LabEnv) (value : JsonValue) : Except String (Option Identity) :=
  match value with
  | .null => .ok none
  | value => do
    let data ← requireMapping "identity" value
    requireExactKeys "identity" data (identityFlags ++
      ["probe_run_id", "probe_generated_at_unix", "server", "company", "trade_mode",
        "terminal_build", "terminal_path_sha256", "terminal_data_path_sha256",
        "identity_probe_output_sha256"])
    let flags ← identityFlags.mapM fun key => do return (key, ← requireBool "identity" data key)
    let probeRunId ← validatedUuid (JsonValue.get data "probe_run_id") "identity.probe_run_id"
    let probeGeneratedAtUnix ← requireInt (JsonValue.get data "probe_generated_at_unix") 1 none
      "identity.probe_generated_at_unix must be positive"
    let server ← validatedText (JsonValue.get data "server") "identity.server" env 128
    let company ← validatedText (JsonValue.get data "company") "identity.company" env 128
    let tradeMode ← requireOneOf (JsonValue.get data "trade_mode") ["DEMO", "CONTEST", "REAL"]
      "identity.trade_mode is invalid"
    let terminalBuild ← requireInt (JsonValue.get data "terminal_build") 1 none
      "identity.terminal_build must be positive"
    let terminalPathSha256 ← validatedNullableSha256 (JsonValue.get data "terminal_path_sha256")
      "identity.terminal_path_sha256"
    let terminalDataPathSha256 ← validatedNullableSha256
      (JsonValue.get data "terminal_data_path_sha256") "identity.terminal_data_path_sha256"
    let identityProbeOutputSha256 ← validatedNullableSha256
      (JsonValue.get data "identity_probe_output_sha256") "identity.identity_probe_output_sha256"
    return some {
      flags, probeRunId, probeGeneratedAtUnix, server, company, tradeMode, terminalBuild
      terminalPathSha256, terminalDataPathSha256, identityProbeOutputSha256 }

end TradeJournalWorker.Lab
