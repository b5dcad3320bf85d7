import TradeJournalWorker.EndpointRecords

namespace TradeJournalWorker

/-- A record of registry v1; its status is not looked at. -/
structure V1Record where
  host : HostText
  port : Int
  protocol : String
  observedAt : Int
  discoveryMethod : String
  verificationPid : Int
  verificationSessionId : String
  confidence : Confidence
  artifactRelativePath : String
  artifactSha256 : String
  deriving DecidableEq, Repr

/-- A record of registry v2. -/
structure V2Record extends V1Record where
  status : EndpointStatus
  serverName : Option String
  processCreationTime : Option Int
  deriving DecidableEq, Repr

/-- The records of a registry under the labels of their brokers. -/
abbrev Brokers (ρ : Type) := List (String × List ρ)

/-- `unreadable` is a file that is no regular file, no JSON object of one of the three forms or
has a secret in it. -/
inductive RegistryFile where
  | missing
  | unreadable
  | v1 (updatedAt ttl : Int) (brokers : Brokers V1Record)
  | v2 (updatedAt ttl : Int) (brokers : Brokers V2Record)
  | v3 (updatedAt : Int) (brokers : Brokers EndpointRecord)
  deriving DecidableEq

structure Registry where
  updatedAt : Int
  brokers : Brokers EndpointRecord
  deriving DecidableEq

/-- A v1 record has no binding to a server and a process and is closed for good. -/
def V1Record.migrate (updatedAt : Int) (record : V1Record) : EndpointRecord where
  serverName := none
  host := record.host
  port := record.port
  protocol := record.protocol
  status := .invalid
  observedAt := record.observedAt
  discoveryMethod := record.discoveryMethod
  verificationPid := record.verificationPid
  processCreationTime := none
  verificationSessionId := record.verificationSessionId
  confidence := record.confidence
  artifactRelativePath := record.artifactRelativePath
  artifactSha256 := record.artifactSha256
  invalidatedAt := some updatedAt
  invalidationReason := some .legacyProvenanceInsufficient
  invalidationEventId := some record.verificationSessionId

/-- A v2 record keeps its status unless it has expired. -/
def V2Record.migrate (updatedAt : Int) (record : V2Record) : EndpointRecord :=
  let expired : Bool := record.status = .expired
  { record.toV1Record.migrate updatedAt with
    serverName := record.serverName
    status := if expired then .invalid else record.status
    processCreationTime := record.processCreationTime
    invalidatedAt := if expired then some updatedAt else none
    invalidationReason := if expired then some .legacyStatusMigration else none
    invalidationEventId := if expired then some record.verificationSessionId else none }

section Registry

variable (unicode : Unicode)

/-- The labels are names with distinct keys, and every record parses. -/
def normalizeBrokers {ρ : Type} (migrate : ρ → EndpointRecord) (brokers : Brokers ρ) :
    Option (Brokers EndpointRecord) :=
  let named := brokers.map fun (label, records) => (stripText label, records.map migrate)
  if (brokers.all fun broker => validName broker.1) ∧
      (named.all fun broker => brokerKey unicode broker.1 ≠ "") ∧
      (named.map fun broker => brokerKey unicode broker.1).Nodup ∧
      (named.all fun broker => broker.2.all fun record =>
        (parseRecord broker.1 record).toOption.isSome) then
    some named
  else none

/-- `_load_registry`, with the clock for a registry that does not exist yet. -/
def loadRegistry (now : Int) : RegistryFile → Option Registry
  | .missing => some { updatedAt := now, brokers := [] }
  | .unreadable => none
  | .v1 updatedAt ttl brokers =>
    if 0 < updatedAt ∧ 0 < ttl then
      (normalizeBrokers unicode (V1Record.migrate updatedAt) brokers).map (Registry.mk updatedAt)
    else none
  | .v2 updatedAt ttl brokers =>
    if 0 < updatedAt ∧ 0 < ttl then
      (normalizeBrokers unicode (V2Record.migrate updatedAt) brokers).map (Registry.mk updatedAt)
    else none
  | .v3 updatedAt brokers =>
    if 0 < updatedAt then
      (normalizeBrokers unicode id brokers).map (Registry.mk updatedAt)
    else none

end Registry

structure ManifestEntry where
  relativePath : String
  sha256 : String
  deriving DecidableEq, Repr

inductive ManifestFile where
  | missing
  | unreadable
  | files (entries : List ManifestEntry)
  deriving DecidableEq

/-- `text.replace("\\", "/").split("/")`. -/
def pathParts (path : String) : List (List Char) :=
  (path.toList.map fun c => if c = '\\' then '/' else c).splitOn '/'

/-- A relative path without a drive and without `.` and `..`. -/
def safeRelativePath (path : String) : Bool :=
  path ≠ "" ∧ ¬ ((path.toList)[1]? = some ':') ∧
    (pathParts path).all fun part => part ≠ [] ∧ part ≠ ['.'] ∧ part ≠ ['.', '.']

/-- `_load_manifest`. -/
def loadManifest : ManifestFile → Option (List ManifestEntry)
  | .missing => some []
  | .unreadable => none
  | .files entries =>
    if (entries.all fun entry => safeRelativePath entry.relativePath ∧ isSha256 entry.sha256) ∧
        (entries.map ManifestEntry.relativePath).Nodup then
      some entries
    else none

/-- The files of the endpoint registry. An artifact is known by its digest; something that is no
regular file has one that no digest equals. -/
structure EndpointFiles where
  registry : RegistryFile := .missing
  manifest : ManifestFile := .missing
  artifacts : String → Option String := fun _ => none

/-- The first part of `resolve_verified_broker_endpoint`: the key and the server asked for. -/
def resolveRequest (unicode : Unicode) (brokerLabel : Option String) (serverName : String) :
    Except String (Option String × String) :=
  if brokerLabel.any fun label => ¬ validName (stripText label) ∨
      brokerKey unicode (stripText label) = "" then
    .error "broker label is invalid"
  else if ¬ validName (stripText serverName) then .error "server name is invalid"
  else .ok (brokerLabel.map fun label => brokerKey unicode (stripText label), stripText serverName)

/-- The brokers of a registry v3 with the endpoints of their records. -/
def parseBroker (unicode : Unicode) (broker : String × List EndpointRecord) :
    Except String (String × List (EndpointRecord × VerifiedBrokerEndpoint)) := do
  demand (validName broker.1) "registry broker entry is invalid"
  demand (brokerKey unicode broker.1 ≠ "") "registry broker label is invalid"
  let endpoints ← broker.2.mapM (parseRecord broker.1)
  return (brokerKey unicode broker.1, broker.2.zip endpoints)

def resolveBrokers (unicode : Unicode) : RegistryFile →
    Except String (List (String × List (EndpointRecord × VerifiedBrokerEndpoint)))
  | .v3 updatedAt brokers =>
    if updatedAt ≤ 0 then .error "registry timestamp is invalid"
    else brokers.mapM (parseBroker unicode)
  | _ => .error "registry fields do not match registry v3"

/-- The endpoints in question: verified, of the broker and the server asked for. -/
def verifiedEndpoints (unicode : Unicode) (key : Option String) (server : String)
    (brokers : List (String × List (EndpointRecord × VerifiedBrokerEndpoint))) :
    List VerifiedBrokerEndpoint :=
  ((brokers.filter fun broker => key.all (broker.1 = ·)).flatMap Prod.snd).filterMap
    fun (record, endpoint) =>
      if record.status = .verified ∧ endpoint.serverName.any fun name =>
          unicode.casefold name = unicode.casefold server then
        some endpoint
      else none

def selectVerified (unicode : Unicode) (request : Option String × String)
    (brokers : List (String × List (EndpointRecord × VerifiedBrokerEndpoint))) :
    Except String VerifiedBrokerEndpoint :=
  if request.1.any fun key => (brokers.filter fun broker => broker.1 = key).length ≠ 1 then
    .error "broker endpoint is missing or ambiguous"
  else
    match verifiedEndpoints unicode request.1 request.2 brokers with
    | [endpoint] => .ok endpoint
    | _ => .error "verified broker endpoint is missing or ambiguous"

def readManifest : ManifestFile → Except String (List ManifestEntry)
  | .missing => .error "artifact manifest must be a regular file"
  | .unreadable => .error "artifact manifest cannot be read"
  | .files entries => .ok entries

/-- The manifest lists the artifact once, with the digest that the record and the file have. -/
def bindArtifact (entries : List ManifestEntry) (artifacts : String → Option String)
    (endpoint : VerifiedBrokerEndpoint) : Except String Unit :=
  match entries.filter fun entry => entry.relativePath = endpoint.artifactRelativePath with
  | [entry] =>
    if entry.sha256 ≠ endpoint.artifactSha256 then .error "artifact manifest binding is invalid"
    else if ¬ safeRelativePath endpoint.artifactRelativePath then .error "artifact path is unsafe"
    else if artifacts endpoint.artifactRelativePath ≠ some endpoint.artifactSha256 then
      .error "artifact digest verification failed"
    else .ok ()
  | _ => .error "artifact manifest binding is invalid"

/-- `resolve_verified_broker_endpoint`. -/
@[irreducible] def resolveEndpoint (unicode : Unicode) (files : EndpointFiles) (brokerLabel : Option String)
    (serverName : String) : Except String VerifiedBrokerEndpoint := do
  let request ← resolveRequest unicode brokerLabel serverName
  demand (files.registry ≠ .missing) "endpoint registry must be a regular file"
  demand (files.registry ≠ .unreadable) "endpoint registry cannot be read"
  let entries ← readManifest files.manifest
  let brokers ← resolveBrokers unicode files.registry
  let endpoint ← selectVerified unicode request brokers
  bindArtifact entries files.artifacts endpoint
  return endpoint

end TradeJournalWorker
