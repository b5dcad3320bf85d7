import TradeJournalWorker.FlowEvents
import TradeJournalWorker.OrderedDict

namespace TradeJournalWorker.Lab

/-- `_flow_key`. -/
inductive FlowKey where
  | connectionIdSha256 (digest : String)
  | diagnosticRecord (ordinal : Nat)
  deriving DecidableEq, Repr

structure FlowRecord where
  phase : NetworkPhase
  processIdentity : ProcessIdentity
  connectionIdSha256 : Option String
  localAddress : Option String
  localPort : Option Int
  remoteAddress : Option String
  remotePort : Option Int
  /-- `classification` is `candidate`, not `other`. -/
  candidate : Bool
  disposition : FlowDisposition
  deriving DecidableEq, Repr

/-- `connection_binding`; the run id is that of the whole run. -/
structure ConnectionBinding where
  phase : NetworkPhase
  processIdentity : ProcessIdentity
  localAddress : Option String
  localPort : Option Int
  remoteAddress : Option String
  remotePort : Option Int
  deriving DecidableEq, Repr

/-- The variables of the loop of `summarize_events`. -/
structure FlowState where
  total : Nat := 0
  endpoints : NetworkPhase → List String := fun _ => []
  networkCounts : NetworkPhase → Nat := fun _ => 0
  nonTcpNetworkCounts : NetworkPhase → Nat := fun _ => 0
  dnsCounts : NetworkPhase → Nat := fun _ => 0
  candidateCounts : NetworkPhase → Nat := fun _ => 0
  flowRecords : NetworkPhase → OrderedDict FlowKey FlowRecord := fun _ => ∅
  connectionBindings : OrderedDict String ConnectionBinding := ∅
  incoherentConnectionIds : List String := []
  unphasedRelevant : Nat := 0

def bump (counts : NetworkPhase → Nat) (phase : NetworkPhase) : NetworkPhase → Nat :=
  fun other => if other = phase then counts other + 1 else counts other

section Loop

variable (env : LabEnv) (candidateText : Option String)

namespace FlowState

variable (state : FlowState)

def countDns (event : CleanEvent) : FlowState :=
  if event.category = .dns then
    { state with
      dnsCounts := bump state.dnsCounts event.phase
      unphasedRelevant := state.unphasedRelevant + if event.phase = .unphased then 1 else 0 }
  else state

def countNetwork (event : CleanEvent) : FlowState :=
  { state with
    networkCounts := bump state.networkCounts event.phase
    unphasedRelevant := state.unphasedRelevant + if event.phase = .unphased then 1 else 0 }

def addEndpoint (phase : NetworkPhase) (endpoint : Option String) : FlowState :=
  match endpoint with
  | none => state
  | some text =>
    { state with
      endpoints := fun other =>
        if other = phase then (state.endpoints other).insert text else state.endpoints other }

def countCandidate (phase : NetworkPhase) (candidate : Bool) : FlowState :=
  if candidate then { state with candidateCounts := bump state.candidateCounts phase } else state

def addIncoherent (digest : Option String) : FlowState :=
  match digest with
  | none => state
  | some digest =>
    { state with incoherentConnectionIds := state.incoherentConnectionIds.insert digest }

/-- `setdefault` on the bindings, then the comparison with the one found. -/
def bindConnection (digest : Option String) (binding : ConnectionBinding) : FlowState :=
  match digest with
  | none => state
  | some connection =>
    match state.connectionBindings.get? connection with
    | none =>
      { state with connectionBindings := state.connectionBindings.set connection binding }
    | some previous => if previous = binding then state else state.addIncoherent digest

def putRecord (key : FlowKey) (record : FlowRecord) : FlowState :=
  { state with
    flowRecords := fun phase =>
      if phase = record.phase then (state.flowRecords phase).set key record
      else state.flowRecords phase }

/-- A record that is not merged into the flow of its connection. -/
def putDiagnostic (record : FlowRecord) : FlowState :=
  (state.addIncoherent record.connectionIdSha256).putRecord (.diagnosticRecord state.total) record

def flowKey (digest : Option String) : FlowKey :=
  match digest with
  | some connection =>
    if connection ∈ state.incoherentConnectionIds then .diagnosticRecord state.total
    else .connectionIdSha256 connection
  | none => .diagnosticRecord state.total

def addRecord (record : FlowRecord) : FlowState :=
  let key := state.flowKey record.connectionIdSha256
  match (state.flowRecords record.phase).get? key with
  | none => state.putRecord key record
  | some existing =>
    if existing.candidate ≠ record.candidate then state.putDiagnostic record
    else
      match mergeFlowDisposition existing.disposition record.disposition with
      | some disposition => state.putRecord key { existing with disposition }
      | none => state.putDiagnostic record

end FlowState

/-- The part of the loop for a TCP event. -/
def addTcpEvent (state : FlowState) (event : CleanEvent) : Except String FlowState := do
  let identity ← orRaise (processIdentity event)
    "sanitized TCP event lacks process-scoped attribution"
  let endpoint ← endpointOf env event.remoteAddress event.remotePort
  let candidate := decide (endpoint.isSome ∧ endpoint = candidateText)
  let binding : ConnectionBinding := {
    phase := event.phase, processIdentity := identity, localAddress := event.localAddress
    localPort := event.localPort, remoteAddress := event.remoteAddress
    remotePort := event.remotePort }
  let record : FlowRecord := {
    phase := event.phase, processIdentity := identity
    connectionIdSha256 := event.connectionIdSha256, localAddress := event.localAddress
    localPort := event.localPort, remoteAddress := event.remoteAddress
    remotePort := event.remotePort, candidate
    disposition := flowDisposition env.unicode event }
  let counted := (state.addEndpoint event.phase endpoint).countCandidate event.phase candidate
  return (counted.bindConnection event.connectionIdSha256 binding).addRecord record

/-- One turn of the loop on an event that has been validated. -/
def addEvent (state : FlowState) (event : CleanEvent) : Except String FlowState :=
  let counted := state.countDns event
  if event.category = .network then
    let seen := counted.countNetwork event
    if isTcp env.unicode event.protocol then addTcpEvent env candidateText seen event
    else .ok { seen with nonTcpNetworkCounts := bump seen.nonTcpNetworkCounts event.phase }
  else .ok counted

def maxEvents : Nat := 5000000

/-- The loop of `summarize_events`. -/
def collectEvents (runId : String) (state : FlowState) : List Members → Except String FlowState
  | [] => .ok state
  | event :: rest => do
    let counted := { state with total := state.total + 1 }
    demand (counted.total ≤ maxEvents) "sanitized event count exceeds the offline safety limit"
    let clean ← validateEvent env runId event
    collectEvents runId (← addEvent env candidateText counted clean) rest

end Loop

section Digests

def ProcessIdentity.json : ProcessIdentity → JsonValue
  | .payloadPid pid => .arr [.str "PAYLOAD_PID", .int pid]
  | .terminalImageSha256 digest => .arr [.str "TERMINAL_IMAGE_SHA256", .str digest]

def nullableText : Option String → JsonValue
  | some text => .str text
  | none => .null

def nullableNumber : Option Int → JsonValue
  | some number => .int number
  | none => .null

/-- A record with the `connection_binding_verified` that is added after the loop. -/
structure VerifiedRecord where
  record : FlowRecord
  connectionBindingVerified : Bool
  deriving DecidableEq, Repr

def VerifiedRecord.json (verified : VerifiedRecord) : JsonValue :=
  .obj [("phase", .str verified.record.phase.text),
    ("process_identity", verified.record.processIdentity.json),
    ("connection_id_sha256", nullableText verified.record.connectionIdSha256),
    ("protocol", .str "TCP"),
    ("local_address", nullableText verified.record.localAddress),
    ("local_port", nullableNumber verified.record.localPort),
    ("remote_address", nullableText verified.record.remoteAddress),
    ("remote_port", nullableNumber verified.record.remotePort),
    ("classification", .str (if verified.record.candidate then "candidate" else "other")),
    ("disposition", .str verified.record.disposition.text),
    ("connection_binding_verified", .bool verified.connectionBindingVerified)]

/-- The payload of the digest of a set of flows. -/
def flowSetPayload (env : LabEnv) (runId setKind : String) (records : List VerifiedRecord) :
    JsonValue :=
  let texts := records.map fun record =>
    (canonicalJson env.floatText record.json, record.json)
  .obj [("run_id", .str runId), ("set_kind", .str setKind),
    ("records", .arr ((texts.insertionSort fun a b => a.1 ≤ b.1).map Prod.snd))]

/-- `_digest_flow_records`. -/
def digestFlowRecords (env : LabEnv) (runId setKind : String) (records : List VerifiedRecord) :
    String :=
  contractDigest env "NETWORK_FLOW_RECORD_SET" 2 (flowSetPayload env runId setKind records)

end Digests

section Summary

/-- The flows of a phase after the loop. -/
def FlowState.records (state : FlowState) (phase : NetworkPhase) : List VerifiedRecord :=
  (state.flowRecords phase).values.map fun record =>
    { record
      connectionBindingVerified :=
        match record.connectionIdSha256 with
        | some digest => digest ∉ state.incoherentConnectionIds
        | none => false }

def allVerified (records : List VerifiedRecord) : Bool :=
  records.all VerifiedRecord.connectionBindingVerified

structure DispositionCounts where
  connected : Nat
  blocked : Nat
  attemptedNotConnected : Nat
  deriving DecidableEq, Repr

/-- `_disposition_counts`. -/
def dispositionCounts (records : List VerifiedRecord) : DispositionCounts :=
  let count (disposition : FlowDisposition) :=
    records.countP fun verified => verified.record.disposition = disposition
  { connected := count .connected, blocked := count .blocked
    attemptedNotConnected := count .attemptedNotConnected }

structure PhaseAccounting where
  processScopedTcpFlows : Nat
  candidateTcpFlows : Nat
  otherTcpFlows : Nat
  nonTcpNetworkEvents : Nat
  dnsEvents : Nat
  candidateDispositions : DispositionCounts
  otherDispositions : DispositionCounts
  flowRecordsVerified : Bool
  deriving DecidableEq, Repr

def DispositionCounts.sum (counts : DispositionCounts) : Nat :=
  counts.connected + counts.blocked + counts.attemptedNotConnected

/-- An entry of `phase_accounting`. -/
def phaseAccounting (state : FlowState) (phase : NetworkPhase) :
    Except String (NetworkPhase × PhaseAccounting) := do
  let records := state.records phase
  let candidates := records.filter fun verified => verified.record.candidate
  let others := records.filter fun verified => !verified.record.candidate
  let candidateDispositions := dispositionCounts candidates
  let otherDispositions := dispositionCounts others
  demand (records.length = candidates.length + others.length)
    "exclusive TCP flow accounting invariant failed"
  demand (candidates.length = candidateDispositions.sum)
    "candidate TCP disposition accounting failed"
  demand (others.length = otherDispositions.sum) "other TCP disposition accounting failed"
  return (phase, {
    processScopedTcpFlows := records.length, candidateTcpFlows := candidates.length
    otherTcpFlows := others.length, nonTcpNetworkEvents := state.nonTcpNetworkCounts phase
    dnsEvents := state.dnsCounts phase, candidateDispositions, otherDispositions
    flowRecordsVerified := allVerified records })

/-- `discovery_delta_source` of kind `PROCESS_SCOPED_TCP_FLOW_SET`. -/
structure FlowSetSource where
  sha256 : String
  verified : Bool
  deriving DecidableEq, Repr

structure SummaryDeltas where
  discoveryCommon : List String
  discoveryExactOnly : List String
  loginOnly : List String
  connectedOnly : List String
  reconnectOnly : List String
  deriving DecidableEq, Repr

/-- The dictionary that `summarize_events` returns, less the entries that are constants. -/
structure NetworkSummary where
  runId : String
  sourceEventsSha256 : String
  sourceEventCount : Nat
  candidateEndpoint : Option String
  flowRecordSetSha256 : String
  flowRecordSetVerified : Bool
  flowAccountingByPhase : List (NetworkPhase × PhaseAccounting)
  discoveryDeltaSource : Option FlowSetSource
  phaseEndpointSets : List (NetworkPhase × List String)
  networkEventsByPhase : List (NetworkPhase × Nat)
  dnsEventsByPhase : List (NetworkPhase × Nat)
  candidateEventsByPhase : List (NetworkPhase × Nat)
  nonTcpNetworkEventsByPhase : List (NetworkPhase × Nat)
  deltas : SummaryDeltas
  unexpectedDirectEndpoints : List (NetworkPhase × List String)
  unphasedRelevantEvents : Nat
  fallbackPresent : Bool
  directDnsPresent : Bool
  directNonTcpNetworkPresent : Bool
  candidateSeenInC3 : Bool
  candidateSeenInC4 : Bool
  candidateSeenInC5 : Bool
  discoveryDeltaHasProcessScopedSource : Bool
  deriving DecidableEq, Repr

variable (env : LabEnv) (runId : String) (state : FlowState)

/-- The elements of a set that are in none of the others. -/
def less (endpoints : List String) (others : List (List String)) : List String :=
  endpoints.filter fun endpoint => others.all fun other => endpoint ∉ other

def exactDeltaEndpoints : List String :=
  less (state.endpoints .c1DiscoveryExact)
    [state.endpoints .c1DiscoveryNegative, state.endpoints .c0Baseline]

/-- `_record_endpoint` is one of the delta. -/
def inExactDelta (verified : VerifiedRecord) : Bool :=
  match endpointOf env verified.record.remoteAddress verified.record.remotePort with
  | .ok (some endpoint) => endpoint ∈ exactDeltaEndpoints state
  | _ => false

def exactDeltaRecords : List VerifiedRecord :=
  (state.records .c1DiscoveryExact).filter (inExactDelta env state)

def discoveryDeltaSource : Option FlowSetSource :=
  let records := exactDeltaRecords env state
  if records = [] then none
  else some {
    sha256 := digestFlowRecords env runId "C1_DISCOVERY_EXACT_DELTA" records
    verified := allVerified records }

def allFlowRecords : List VerifiedRecord := NetworkPhase.all.flatMap state.records

def summaryDeltas : SummaryDeltas :=
  let negative := state.endpoints .c1DiscoveryNegative
  let preLogin := [state.endpoints .c0Baseline, negative, state.endpoints .c1DiscoveryExact]
  let login := state.endpoints .c2Login
  { discoveryCommon := sortedNames (negative.filter (· ∈ state.endpoints .c1DiscoveryExact))
    discoveryExactOnly := sortedNames (exactDeltaEndpoints state)
    loginOnly := sortedNames (less login preLogin)
    connectedOnly := sortedNames (less (state.endpoints .c2Connected) (preLogin ++ [login]))
    reconnectOnly := sortedNames (less (state.endpoints .c2Reconnect) (preLogin ++ [login])) }

/-- What `summarize_events` makes of the variables of its loop. -/
def summaryOf (sourceSha256 : String) (candidateText : Option String)
    (accounting : List (NetworkPhase × PhaseAccounting)) : NetworkSummary :=
  let flows := allFlowRecords state
  let delta := discoveryDeltaSource env runId state
  let unexpected := NetworkPhase.direct.map fun phase =>
    (phase, sortedNames ((state.endpoints phase).filter fun endpoint =>
      some endpoint ≠ candidateText))
  let seen (phases : List NetworkPhase) (counts : NetworkPhase → Nat) : Bool :=
    phases.any fun phase => 0 < counts phase
  { runId
    sourceEventsSha256 := lowerDigest sourceSha256
    sourceEventCount := state.total
    candidateEndpoint := candidateText
    flowRecordSetSha256 := digestFlowRecords env runId "ALL_PHASES" flows
    flowRecordSetVerified := allVerified flows
    flowAccountingByPhase := accounting
    discoveryDeltaSource := delta
    phaseEndpointSets := NetworkPhase.named.map fun phase =>
      (phase, sortedNames (state.endpoints phase))
    networkEventsByPhase := NetworkPhase.all.map fun phase => (phase, state.networkCounts phase)
    dnsEventsByPhase := NetworkPhase.all.map fun phase => (phase, state.dnsCounts phase)
    candidateEventsByPhase := NetworkPhase.named.map fun phase =>
      (phase, state.candidateCounts phase)
    nonTcpNetworkEventsByPhase := NetworkPhase.all.map fun phase =>
      (phase, state.nonTcpNetworkCounts phase)
    deltas := summaryDeltas state
    unexpectedDirectEndpoints := unexpected
    unphasedRelevantEvents := state.unphasedRelevant
    fallbackPresent := unexpected.any fun entry => entry.2 ≠ []
    directDnsPresent := seen NetworkPhase.direct state.dnsCounts
    directNonTcpNetworkPresent := seen NetworkPhase.direct state.nonTcpNetworkCounts
    candidateSeenInC3 := seen NetworkPhase.c3Direct state.candidateCounts
    candidateSeenInC4 := seen [.c4EndpointBlocked] state.candidateCounts
    candidateSeenInC5 := seen NetworkPhase.c5Direct state.candidateCounts
    discoveryDeltaHasProcessScopedSource := delta.any FlowSetSource.verified }

end Summary

section Json

def countsJson (counts : DispositionCounts) : JsonValue :=
  .obj [("connected", .int counts.connected), ("blocked", .int counts.blocked),
    ("attempted_not_connected", .int counts.attemptedNotConnected)]

def PhaseAccounting.json (accounting : PhaseAccounting) : JsonValue :=
  .obj [("process_scoped_tcp_flows", .int accounting.processScopedTcpFlows),
    ("candidate_tcp_flows", .int accounting.candidateTcpFlows),
    ("other_tcp_flows", .int accounting.otherTcpFlows),
    ("non_tcp_network_events", .int accounting.nonTcpNetworkEvents),
    ("dns_events", .int accounting.dnsEvents),
    ("candidate_dispositions", countsJson accounting.candidateDispositions),
    ("other_dispositions", countsJson accounting.otherDispositions),
    ("flow_records_verified", .bool accounting.flowRecordsVerified)]

def textsJson (texts : List String) : JsonValue := .arr (texts.map JsonValue.str)

/-- A dictionary over phases. -/
def byPhase {α : Type} (value : α → JsonValue) (entries : List (NetworkPhase × α)) : JsonValue :=
  .obj (entries.map fun entry => (entry.1.text, value entry.2))

def countJson (count : Nat) : JsonValue := .int count

def deltaSourceJson : Option FlowSetSource → JsonValue
  | some source =>
    .obj [("kind", .str "PROCESS_SCOPED_TCP_FLOW_SET"), ("sha256", .str source.sha256),
      ("verified", .bool source.verified)]
  | none => .obj [("kind", .str "NONE"), ("sha256", .null), ("verified", .bool false)]

def NetworkSummary.json (summary : NetworkSummary) : JsonValue :=
  .obj [("schema_version", .int 2), ("run_id", .str summary.runId),
    ("source_events_sha256", .str summary.sourceEventsSha256),
    ("source_event_count", .int summary.sourceEventCount),
    ("candidate_endpoint", nullableText summary.candidateEndpoint),
    ("flow_record_set_sha256", .str summary.flowRecordSetSha256),
    ("flow_record_set_verified", .bool summary.flowRecordSetVerified),
    ("flow_accounting_by_phase", byPhase PhaseAccounting.json summary.flowAccountingByPhase),
    ("discovery_delta_source", deltaSourceJson summary.discoveryDeltaSource),
    ("phase_endpoint_sets", byPhase textsJson summary.phaseEndpointSets),
    ("network_events_by_phase", byPhase countJson summary.networkEventsByPhase),
    ("dns_events_by_phase", byPhase countJson summary.dnsEventsByPhase),
    ("candidate_events_by_phase", byPhase countJson summary.candidateEventsByPhase),
    ("non_tcp_network_events_by_phase",
      byPhase countJson summary.nonTcpNetworkEventsByPhase),
    ("deltas", .obj [("discovery_common", textsJson summary.deltas.discoveryCommon),
      ("discovery_exact_only", textsJson summary.deltas.discoveryExactOnly),
      ("login_only", textsJson summary.deltas.loginOnly),
      ("connected_only", textsJson summary.deltas.connectedOnly),
      ("reconnect_only", textsJson summary.deltas.reconnectOnly)]),
    ("unexpected_direct_endpoints", byPhase textsJson summary.unexpectedDirectEndpoints),
    ("unphased_relevant_events", .int summary.unphasedRelevantEvents),
    ("interpretation", .obj [("fallback_present", .bool summary.fallbackPresent),
      ("direct_dns_present", .bool summary.directDnsPresent),
      ("direct_non_tcp_network_present", .bool summary.directNonTcpNetworkPresent),
      ("candidate_seen_in_c3", .bool summary.candidateSeenInC3),
      ("candidate_seen_in_c4", .bool summary.candidateSeenInC4),
      ("candidate_seen_in_c5", .bool summary.candidateSeenInC5),
      ("discovery_delta_has_process_scoped_source",
        .bool summary.discoveryDeltaHasProcessScopedSource),
      ("exclusive_tcp_accounting_verified", .bool true),
      ("connection_success_proven", .bool false), ("candidate_block_proven", .bool false),
      ("requires_wfp_and_identity_corroboration", .bool true)])]

end Json

section Summarize

variable (env : LabEnv)

/-- `_validate_run_id`, which lets capital letters pass. -/
def validateSummaryRunId (runId : String) : Except String Unit :=
  demand (isCanonicalUuid (lowerDigest runId) = true) "run_id must be a canonical lowercase UUID"

/-- The candidate's text, `None` where there is no candidate. -/
def summaryCandidate (candidate : Option JsonValue) : Except String (Option String) :=
  match candidate with
  | none => .ok none
  | some value => do
    let validated ← validateCandidate env value
    return some (← formatEndpoint env validated.ip validated.port)

/-- `summarize_events`. -/
def summarizeEvents (events : List Members) (runId : String) (candidate : Option JsonValue)
    (sourceSha256 : String) : Except String NetworkSummary := do
  validateSummaryRunId runId
  demand (isSha256 sourceSha256 = true) "source_sha256 must contain 64 hexadecimal digits"
  let candidateText ← summaryCandidate env candidate
  let state ← collectEvents env candidateText runId {} events
  let accounting ← NetworkPhase.all.mapM (phaseAccounting state)
  let summary := summaryOf env runId state sourceSha256 candidateText accounting
  rejectSensitiveContent env.unicode [] summary.json
  return summary

end Summarize

end TradeJournalWorker.Lab
