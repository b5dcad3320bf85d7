import TradeJournalWorker.CandidatePolicy

namespace TradeJournalWorker.Lab

/-- `PHASES`, and `UNPHASED` for an event without a phase. -/
inductive NetworkPhase where
  | c0Baseline
  | c1DiscoveryNegative
  | c1DiscoveryExact
  | c2Login
  | c2Connected
  | c2NetworkInterruption
  | c2Reconnect
  | c3DirectLogin
  | c3ConnectedSteady
  | c4EndpointBlocked
  | c5DirectLogin
  | c5ConnectedSteady
  | teardown
  | unphased
  deriving DecidableEq, Repr

namespace NetworkPhase

def text : NetworkPhase → String
  | c0Baseline => "C0_BASELINE"
  | c1DiscoveryNegative => "C1_DISCOVERY_NEGATIVE"
  | c1DiscoveryExact => "C1_DISCOVERY_EXACT"
  | c2Login => "C2_LOGIN"
  | c2Connected => "C2_CONNECTED"
  | c2NetworkInterruption => "C2_NETWORK_INTERRUPTION"
  | c2Reconnect => "C2_RECONNECT"
  | c3DirectLogin => "C3_DIRECT_LOGIN"
  | c3ConnectedSteady => "C3_CONNECTED_STEADY"
  | c4EndpointBlocked => "C4_ENDPOINT_BLOCKED"
  | c5DirectLogin => "C5_DIRECT_LOGIN"
  | c5ConnectedSteady => "C5_CONNECTED_STEADY"
  | teardown => "TEARDOWN"
  | unphased => "UNPHASED"

/-- `PHASES`. -/
def named : List NetworkPhase :=
  [c0Baseline, c1DiscoveryNegative, c1DiscoveryExact, c2Login, c2Connected,
    c2NetworkInterruption, c2Reconnect, c3DirectLogin, c3ConnectedSteady, c4EndpointBlocked,
    c5DirectLogin, c5ConnectedSteady, teardown]

/-- `(*PHASES, "UNPHASED")`. -/
def all : List NetworkPhase := named ++ [unphased]

/-- `C3_DIRECT_PHASES`. -/
def c3Direct : List NetworkPhase := [c3DirectLogin, c3ConnectedSteady]

/-- `C5_DIRECT_PHASES`. -/
def c5Direct : List NetworkPhase := [c5DirectLogin, c5ConnectedSteady]

/-- `DIRECT_PHASES`. -/
def direct : List NetworkPhase := c3Direct ++ [c4EndpointBlocked] ++ c5Direct

end NetworkPhase

inductive EventCategory where
  | dns
  | network
  | processOrImage
  | marker
  | otherCaptured
  deriving DecidableEq, Repr

namespace EventCategory

def text : EventCategory → String
  | dns => "DNS"
  | network => "NETWORK"
  | processOrImage => "PROCESS_OR_IMAGE"
  | marker => "MARKER"
  | otherCaptured => "OTHER_CAPTURED"

def all : List EventCategory := [dns, network, processOrImage, marker, otherCaptured]

end EventCategory

/-- A string or a whole number. -/
inductive Scalar where
  | text (value : String)
  | number (value : Int)
  deriving DecidableEq, Repr

/-- The fields of a validated event that the summary reads. -/
structure CleanEvent where
  phase : NetworkPhase
  category : EventCategory
  payloadProcessId : Option Int
  imageMatchesTerminal : Bool
  imagePathSha256 : Option String
  connectionIdSha256 : Option String
  protocol : Option Scalar
  localAddress : Option String
  localPort : Option Int
  remoteAddress : Option String
  remotePort : Option Int
  status : Option Scalar
  deriving DecidableEq, Repr

/-- `_EVENT_KEYS`. -/
def eventKeys : List String :=
  ["schema_version", "run_id", "phase", "timestamp_utc", "category", "provider_name",
    "provider_guid", "event_id", "task", "opcode", "header_process_id", "header_thread_id",
    "payload_process_id", "parent_process_id", "process_guid", "parent_process_guid",
    "connection_id_sha256", "image_name", "image_path_sha256", "image_matches_terminal",
    "protocol", "local_address", "local_port", "remote_address", "remote_port",
    "dns_query_name", "dns_result_addresses", "status"]

section Fields

variable (env : LabEnv) (event : Members) (key : String)

/-- A whole number within bounds or null. -/
def nullableInt (least : Int) (most : Option Int) (error : String) :
    Except String (Option Int) :=
  match JsonValue.get event key with
  | .null => .ok none
  | value => some <$> requireInt value least most error

/-- `_nullable_nonnegative_integer`. -/
def nullableNonnegativeInteger : Except String (Option Int) :=
  nullableInt event key 0 none (key ++ " must be a non-negative integer or null")

/-- `_nullable_port`. -/
def nullablePort : Except String (Option Int) :=
  nullableInt event key 1 (some 65535) (key ++ " is invalid")

/-- `_nullable_ip_address`. -/
def nullableIpAddress : Except String (Option String) :=
  match JsonValue.get event key with
  | .null => .ok none
  | .str text =>
    match env.addresses.parse text with
    | some address => .ok (some (env.addresses.compressed address))
    | none => .error (key ++ " is not a literal address")
  | _ => .error (key ++ " must be a literal string or null")

def nullableDigest : Except String (Option String) :=
  match JsonValue.get event key with
  | .null => .ok none
  | .str text =>
    if isSha256 text then .ok (some (lowerDigest text)) else .error (key ++ " is invalid")
  | _ => .error (key ++ " is invalid")

def nullableScalar : Except String (Option Scalar) :=
  match JsonValue.get event key with
  | .null => .ok none
  | .str text => .ok (some (.text text))
  | .int number => .ok (some (.number number))
  | _ => .error (key ++ " must be a string, integer, or null")

def eventPhase : Except String NetworkPhase :=
  match JsonValue.get event "phase" with
  | .null => .ok .unphased
  | value =>
    orRaise (NetworkPhase.named.find? fun phase => value.isText phase.text)
      "sanitized event has an unknown phase"

def eventCategory : Except String EventCategory :=
  orRaise (EventCategory.all.find? fun category =>
    (JsonValue.get event "category").isText category.text)
    "sanitized event has an unknown category"

def requireEventKeys : Except String Unit :=
  let keys := event.map Prod.fst
  let missing := sortedNames (eventKeys.filter (· ∉ keys))
  let extra := sortedNames (keys.filter (· ∉ eventKeys))
  demand (missing = [] ∧ extra = [])
    ("sanitized event fields mismatch (missing=" ++ reprNames missing ++ ", extra=" ++
      reprNames extra ++ ")")

def requireEventBinding (runId : String) : Except String Unit :=
  let version : Bool := match JsonValue.get event "schema_version" with
    | .int number => decide (number = 2)
    | _ => false
  demand (version = true ∧ (JsonValue.get event "run_id").isText runId = true)
    "sanitized event schema/run binding mismatch"

def imageMatches : Except String Bool :=
  match JsonValue.get event "image_matches_terminal" with
  | .bool value => .ok value
  | _ => .error "image_matches_terminal must be boolean"

end Fields

/-- `_validate_event`. -/
def validateEvent (env : LabEnv) (runId : String) (event : Members) : Except String CleanEvent := do
  rejectSensitiveContent env.unicode [] (.obj event)
  requireEventKeys event
  requireEventBinding event runId
  let phase ← eventPhase event
  let category ← eventCategory event
  let imageMatchesTerminal ← imageMatches event
  let payloadProcessId ← nullableNonnegativeInteger event "payload_process_id"
  let _ ← nullableNonnegativeInteger event "header_process_id"
  let localAddress ← nullableIpAddress env event "local_address"
  let remoteAddress ← nullableIpAddress env event "remote_address"
  let localPort ← nullablePort event "local_port"
  let remotePort ← nullablePort event "remote_port"
  let imagePathSha256 ← nullableDigest event "image_path_sha256"
  let connectionIdSha256 ← nullableDigest event "connection_id_sha256"
  let protocol ← nullableScalar event "protocol"
  let status ← nullableScalar event "status"
  return {
    phase, category, payloadProcessId, imageMatchesTerminal, imagePathSha256, connectionIdSha256
    protocol, localAddress, localPort, remoteAddress, remotePort, status }

/-- `value.strip().casefold()`. -/
def foldedText (tables : UnicodeTables) (text : String) : List Char :=
  tables.casefoldText (String.ofList (tables.strip text.toList))

/-- `_is_tcp`. -/
def isTcp (tables : UnicodeTables) : Option Scalar → Bool
  | some (.number number) => number = 6
  | some (.text text) =>
    let folded := foldedText tables text
    folded = "6".toList || folded = "tcp".toList
  | none => false

inductive ProcessIdentity where
  | payloadPid (pid : Int)
  | terminalImageSha256 (digest : String)
  deriving DecidableEq, Repr

/-- `_process_identity`. -/
def processIdentity (event : CleanEvent) : Option ProcessIdentity :=
  match event.payloadProcessId, event.imagePathSha256 with
  | some pid, digest =>
    if 0 < pid then some (.payloadPid pid)
    else if event.imageMatchesTerminal then digest.map .terminalImageSha256 else none
  | none, digest => if event.imageMatchesTerminal then digest.map .terminalImageSha256 else none

/-- `FLOW_DISPOSITIONS`. -/
inductive FlowDisposition where
  | connected
  | blocked
  | attemptedNotConnected
  deriving DecidableEq, Repr

def FlowDisposition.text : FlowDisposition → String
  | connected => "connected"
  | blocked => "blocked"
  | attemptedNotConnected => "attempted_not_connected"

def Scalar.str : Scalar → String
  | text value => value
  | number value => toString value

def blockedStatuses : List String :=
  ["blocked", "block", "denied", "deny", "access_denied", "blocked_by_policy", "0xc0000022"]

def connectedStatuses : List String :=
  ["0", "0x0", "success", "succeeded", "connected", "established"]

/-- `_flow_disposition`. -/
def flowDisposition (tables : UnicodeTables) (event : CleanEvent) : FlowDisposition :=
  match event.status with
  | none => .attemptedNotConnected
  | some status =>
    let normalized := (foldedText tables status.str).map fun c =>
      if c = '-' ∨ c = ' ' then '_' else c
    if blockedStatuses.any fun text => text.toList = normalized then .blocked
    else if connectedStatuses.any fun text => text.toList = normalized then .connected
    else .attemptedNotConnected

/-- `_merge_flow_disposition`, `none` where it raises. -/
def mergeFlowDisposition (current observed : FlowDisposition) : Option FlowDisposition :=
  match current, observed with
  | .connected, .blocked => none
  | .blocked, .connected => none
  | .attemptedNotConnected, other => some other
  | definitive, _ => some definitive

/-- `_format_endpoint`. -/
def formatEndpoint (env : LabEnv) (address : String) (port : Int) : Except String String := do
  let parsed ← orRaise (env.addresses.parse address)
    ("'" ++ address ++ "' does not appear to be an IPv4 or IPv6 address")
  match parsed with
  | .v4 _ => return env.addresses.compressed parsed ++ ":" ++ toString port
  | .v6 _ => return "[" ++ env.addresses.compressed parsed ++ "]:" ++ toString port

/-- The endpoint of an address and a port that may be missing. -/
def endpointOf (env : LabEnv) (address : Option String) (port : Option Int) :
    Except String (Option String) :=
  match address, port with
  | some address, some port => some <$> formatEndpoint env address port
  | _, _ => .ok none

end TradeJournalWorker.Lab
