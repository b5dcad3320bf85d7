import TradeJournalWorker.EvidenceSections

namespace TradeJournalWorker.Lab

def digestKeys : List String :=
  ["candidate_endpoint_sha256", "candidate_handoff_manifest_sha256", "control_plan_sha256",
    "credential_set_binding_sha256", "etw_evidence_sha256", "experiment_manifest_sha256",
    "firewall_plan_sha256", "firewall_portable_root_binding_sha256", "job_identity_sha256",
    "job_manifest_sha256", "job_portable_root_binding_sha256", "lifecycle_binding_sha256",
    "negative_query_binding_sha256", "phase_timeline_sha256", "pre_state_binding_sha256",
    "probe_path_binding_sha256", "requested_label_binding_sha256",
    "root_process_generation_sha256", "state_transition_sha256", "wfp_evidence_sha256"]

def proofFlags : List String :=
  ["candidate_tuple_bound", "credential_set_binding_verified", "etw_proof_capable",
    "firewall_plan_bound", "job_process_binding_verified", "phase_binding_verified",
    "requested_label_binding_verified", "wfp_proof_capable"]

def requireOrigin (value : JsonValue) : Except String Origin :=
  orRaise ([Origin.syntheticFixture, .capturedExport].find? fun origin => value.isText origin.text)
    "proof_binding.provenance.origin is invalid"

/-- The checks on `proof_binding.provenance`; the id of the set is read after them. -/
def requireProvenance (value : JsonValue) : Except String (Members × Origin × Bool) := do
  let provenance ← requireMapping "proof_binding.provenance" value
  requireExactKeys "proof_binding.provenance" provenance
    ["origin", "synthetic_fixture", "producer", "artifact_set_id"]
  let origin ← requireOrigin (JsonValue.get provenance "origin")
  let syntheticFixture ← requireBool "proof_binding.provenance" provenance "synthetic_fixture"
  demand (syntheticFixture = decide (origin = .syntheticFixture))
    "proof_binding provenance origin/synthetic marker mismatch"
  requireText (JsonValue.get provenance "producer") origin.producer
    "proof_binding provenance origin/producer code mismatch"
  return (provenance, origin, syntheticFixture)

def requireProofDigest (data : Members) (key : String) : Except String (Option String) :=
  let error := "proof_binding." ++ key ++ " must be null or a SHA-256 digest"
  match JsonValue.get data key with
  | .null => .ok none
  | .str text => if isSha256 text then .ok (some (lowerDigest text)) else .error error
  | _ => .error error

/-- `_require_proof_binding`. -/
def requireProofBinding (value : JsonValue) : Except String ProofBinding := do
  let data ← requireMapping "proof_binding" value
  requireExactKeys "proof_binding" data
    (["schema_version", "run_id", "provenance"] ++ digestKeys ++ proofFlags)
  requireExactVersion (JsonValue.get data "schema_version") "proof_binding schema_version" 5
  let (source, origin, syntheticFixture) ← requireProvenance (JsonValue.get data "provenance")
  let runId ← validatedUuid (JsonValue.get data "run_id") "proof_binding.run_id"
  let artifactSetId ← validatedUuid (JsonValue.get source "artifact_set_id")
    "proof_binding.provenance.artifact_set_id"
  let digest := requireProofDigest data
  let candidateEndpointSha256 ← digest "candidate_endpoint_sha256"
  let candidateHandoffManifestSha256 ← digest "candidate_handoff_manifest_sha256"
  let controlPlanSha256 ← digest "control_plan_sha256"
  let credentialSetBindingSha256 ← digest "credential_set_binding_sha256"
  let etwEvidenceSha256 ← digest "etw_evidence_sha256"
  let experimentManifestSha256 ← digest "experiment_manifest_sha256"
  let firewallPlanSha256 ← digest "firewall_plan_sha256"
  let firewallPortableRootBindingSha256 ← digest "firewall_portable_root_binding_sha256"
  let jobIdentity ← digest "job_identity_sha256"
  let jobManifestSha256 ← digest "job_manifest_sha256"
  let jobPortableRootBindingSha256 ← digest "job_portable_root_binding_sha256"
  let lifecycleBindingSha256 ← digest "lifecycle_binding_sha256"
  let negativeQueryBindingSha256 ← digest "negative_query_binding_sha256"
  let phaseTimelineSha256 ← digest "phase_timeline_sha256"
  let preStateBindingSha256 ← digest "pre_state_binding_sha256"
  let probePathBindingSha256 ← digest "probe_path_binding_sha256"
  let requestedLabelBindingSha256 ← digest "requested_label_binding_sha256"
  let rootProcessGeneration ← digest "root_process_generation_sha256"
  let stateTransitionSha256 ← digest "state_transition_sha256"
  let wfpEvidenceSha256 ← digest "wfp_evidence_sha256"
  let jobIdentitySha256 ← orRaise jobIdentity
    "proof_binding.job_identity_sha256 must be a SHA-256 digest"
  let rootProcessGenerationSha256 ← orRaise rootProcessGeneration
    "proof_binding.root_process_generation_sha256 must be a SHA-256 digest"
  let flag := requireBool "proof_binding" data
  let candidateTupleBound ← flag "candidate_tuple_bound"
  let credentialSetBindingVerified ← flag "credential_set_binding_verified"
  let etwProofCapable ← flag "etw_proof_capable"
  let firewallPlanBound ← flag "firewall_plan_bound"
  let jobProcessBindingVerified ← flag "job_process_binding_verified"
  let phaseBindingVerified ← flag "phase_binding_verified"
  let requestedLabelBindingVerified ← flag "requested_label_binding_verified"
  let wfpProofCapable ← flag "wfp_proof_capable"
  return {
    runId, provenance := { origin, syntheticFixture, artifactSetId }
    candidateEndpointSha256, candidateHandoffManifestSha256
    controlPlanSha256, credentialSetBindingSha256, etwEvidenceSha256, experimentManifestSha256
    firewallPlanSha256, firewallPortableRootBindingSha256, jobIdentitySha256, jobManifestSha256
    jobPortableRootBindingSha256, lifecycleBindingSha256, negativeQueryBindingSha256
    phaseTimelineSha256, preStateBindingSha256, probePathBindingSha256
    requestedLabelBindingSha256, rootProcessGenerationSha256, stateTransitionSha256
    wfpEvidenceSha256, candidateTupleBound, credentialSetBindingVerified, etwProofCapable
    firewallPlanBound, jobProcessBindingVerified, phaseBindingVerified
    requestedLabelBindingVerified, wfpProofCapable }

section Timelines

def phasesOf : Control → List String
  | .c0 => ["C0_BASELINE"]
  | .c1 => ["C1_DISCOVERY_NEGATIVE", "C1_DISCOVERY_EXACT"]
  | .c2 => ["C2_LOGIN", "C2_CONNECTED", "C2_NETWORK_INTERRUPTION", "C2_RECONNECT"]
  | .c3 => ["C3_DIRECT_LOGIN", "C3_CONNECTED_STEADY"]
  | .c4 => ["C4_ENDPOINT_BLOCKED"]
  | .c5 => ["C5_DIRECT_LOGIN", "C5_CONNECTED_STEADY"]

/-- `_required_phase_markers`. -/
def requiredPhaseMarkers (control : Control) : List String :=
  (phasesOf control).flatMap fun phase => [phase ++ "_START", phase ++ "_END"]

/-- A value that equals a whole number; Python counts `True` and `1.0` as one. -/
def equalsNumber (value : JsonValue) (n : Nat) : Bool := value.equals (.int n)

/-- One event of `_require_timeline` after the one before it. -/
def requireTimelineEvent (raw : JsonValue) (code : String) (index : Nat)
    (previous : Option TimelineEvent) : Except String TimelineEvent := do
  let context := "timeline.events[" ++ toString (index - 1) ++ "]"
  let event ← requireMapping context raw
  requireExactKeys context event ["code", "sequence", "timestamp_unix_ms", "qpc"]
  requireText (JsonValue.get event "code") code "timeline phase code order is invalid"
  demand (equalsNumber (JsonValue.get event "sequence") index = true)
    "timeline sequence must be contiguous and strictly increasing"
  let timestampUnixMs ← requireInt (JsonValue.get event "timestamp_unix_ms") 1 none
    "timeline timestamp_unix_ms is invalid"
  let qpc ← requireInt (JsonValue.get event "qpc") 0 none "timeline qpc is invalid"
  demand (∀ before ∈ previous, before.timestampUnixMs ≤ timestampUnixMs)
    "timeline timestamps are not monotonic"
  demand (∀ before ∈ previous, before.qpc < qpc)
    "timeline QPC values are not strictly increasing"
  return { code, sequence := index, timestampUnixMs, qpc }

def requireTimelineEvents (index : Nat) (previous : Option TimelineEvent) :
    List (JsonValue × String) → Except String (List TimelineEvent)
  | [] => .ok []
  | (raw, code) :: rest => do
    let event ← requireTimelineEvent raw code index previous
    return event :: (← requireTimelineEvents (index + 1) (some event) rest)

/-- `_require_timeline`. -/
def requireTimeline (value : JsonValue) (control : Control) (context : RunContext) :
    Except String Timeline := do
  let data ← requireMapping "timeline" value
  requireExactKeys "timeline" data ["schema_version", "qpc_frequency_hz", "events"]
  requireExactVersion (JsonValue.get data "schema_version") "timeline schema_version" 1
  let qpcFrequencyHz ← requireInt (JsonValue.get data "qpc_frequency_hz") 1 (some 10000000000)
    "timeline.qpc_frequency_hz is invalid"
  let rawEvents ← match JsonValue.get data "events" with
    | .arr items => Except.ok items
    | _ => Except.error "timeline event count is invalid"
  let codes := requiredPhaseMarkers control
  demand (rawEvents.length = codes.length) "timeline event count is invalid"
  let events ← requireTimelineEvents 1 none (rawEvents.zip codes)
  let timestamps := events.map TimelineEvent.timestampUnixMs
  demand (¬ (timestamps.headD 0 < context.startedAtUnix * 1000 ∨
      (context.completedAtUnix + 1) * 1000 ≤ timestamps.getLastD 0))
    "timeline events fall outside the declared run interval"
  return { qpcFrequencyHz, events }

/-- The clocks of an event and the next one disagree by no more than the tolerance of one
second. -/
def clocksAgree (frequency : Int) (before after : TimelineEvent) : Bool :=
  |(after.qpc - before.qpc) * 1000 - (after.timestampUnixMs - before.timestampUnixMs) * frequency|
    ≤ 1000 * frequency

def clockCoherent (timeline : Timeline) : Bool :=
  (timeline.events.zip timeline.events.tail).all fun pair =>
    clocksAgree timeline.qpcFrequencyHz pair.1 pair.2

def qpcOf (timeline : Timeline) (code : String) : Int :=
  ((timeline.events.find? fun event => event.code = code).map TimelineEvent.qpc).getD 0

def phaseDuration (timeline : Timeline) (phase : String) : Except String Int := do
  let ticks := qpcOf timeline (phase ++ "_END") - qpcOf timeline (phase ++ "_START")
  demand (0 < ticks) ("timeline phase " ++ phase ++ " has no duration")
  return ticks / timeline.qpcFrequencyHz

/-- `_derive_timing_from_timeline`. -/
def deriveTimingFromTimeline (control : Control) (timeline : Timeline) : Except String Timing := do
  demand (clockCoherent timeline = true)
    "timeline QPC and UTC clocks disagree beyond policy tolerance"
  let duration := phaseDuration timeline
  match control with
  | .c0 => return { baselineSeconds := ← duration "C0_BASELINE" }
  | .c1 =>
    return {
      negativeDiscoverySeconds := ← duration "C1_DISCOVERY_NEGATIVE"
      exactDiscoverySeconds := ← duration "C1_DISCOVERY_EXACT" }
  | .c2 =>
    return {
      loginObservationSeconds := ← duration "C2_LOGIN"
      connectedSteadySeconds := ← duration "C2_CONNECTED"
      networkInterruptionSeconds := ← duration "C2_NETWORK_INTERRUPTION"
      reconnectObservationSeconds := ← duration "C2_RECONNECT" }
  | .c3 =>
    return {
      loginObservationSeconds := ← duration "C3_DIRECT_LOGIN"
      connectedSteadySeconds := ← duration "C3_CONNECTED_STEADY" }
  | .c4 => return { blockedObservationSeconds := ← duration "C4_ENDPOINT_BLOCKED" }
  | .c5 =>
    return {
      loginObservationSeconds := ← duration "C5_DIRECT_LOGIN"
      connectedSteadySeconds := ← duration "C5_CONNECTED_STEADY" }

/-- `_require_timing`. -/
def requireTiming (value : JsonValue) : Except String Timing := do
  let data ← requireMapping "timing" value
  requireExactKeys "timing" data
    ["baseline_seconds", "negative_discovery_seconds", "exact_discovery_seconds",
      "login_observation_seconds", "connected_steady_seconds", "network_interruption_seconds",
      "reconnect_observation_seconds", "blocked_observation_seconds",
      "separation_from_c3_seconds"]
  let seconds (key : String) := requireInt (JsonValue.get data key) 0 (some 86400)
    ("timing." ++ key ++ " must be an integer in 0..86400")
  let baselineSeconds ← seconds "baseline_seconds"
  let blockedObservationSeconds ← seconds "blocked_observation_seconds"
  let connectedSteadySeconds ← seconds "connected_steady_seconds"
  let exactDiscoverySeconds ← seconds "exact_discovery_seconds"
  let loginObservationSeconds ← seconds "login_observation_seconds"
  let negativeDiscoverySeconds ← seconds "negative_discovery_seconds"
  let networkInterruptionSeconds ← seconds "network_interruption_seconds"
  let reconnectObservationSeconds ← seconds "reconnect_observation_seconds"
  let separationFromC3Seconds ← seconds "separation_from_c3_seconds"
  return {
    baselineSeconds, blockedObservationSeconds, connectedSteadySeconds, exactDiscoverySeconds
    loginObservationSeconds, negativeDiscoverySeconds, networkInterruptionSeconds
    reconnectObservationSeconds, separationFromC3Seconds }

/-- The JSON of a timeline that `_require_timeline` returns. -/
def timelineJson (timeline : Timeline) : JsonValue :=
  .obj [("schema_version", .int 1), ("qpc_frequency_hz", .int timeline.qpcFrequencyHz),
    ("events", .arr (timeline.events.map fun event =>
      .obj [("code", .str event.code), ("sequence", .int event.sequence),
        ("timestamp_unix_ms", .int event.timestampUnixMs), ("qpc", .int event.qpc)]))]

end Timelines

end TradeJournalWorker.Lab
