import Mathlib.Data.List.Sort
import TradeJournalWorker.EndpointRegistry
import TradeJournalWorker.FaultProgram

namespace TradeJournalWorker

open FaultProgram

structure ObservedProcessEndpoint where
  host : HostText
  port : Int
  pid : Int
  processCreationTime : Int
  observedAt : Int
  protocol : String := "TCP/TLS"
  deriving DecidableEq, Repr

inductive ProvenanceKind where
  | brokerWizard
  | mtapiSearch
  | other
  deriving DecidableEq, Repr

/-- The JSON of a verification artifact. -/
structure VerificationEvidence where
  schemaVersion : Int
  verificationSessionId : String
  serverName : String
  brokerLabel : String
  protocol : String
  verificationMethod : String
  loginVerified : Bool
  investorReadOnlyVerified : Bool
  verificationPid : Int
  processCreationTime : Int
  verifiedAt : Int
  remoteHost : HostText
  remotePort : Int
  provenanceKind : ProvenanceKind
  provenanceArtifactSha256 : String
  deriving DecidableEq, Repr

/-- What is to be published. The two source files are given by their digests, `none` for what is
no regular file, and by what can be read in them. -/
structure EndpointPromotion where
  brokerLabel : String
  serverName : String
  verificationSessionId : String
  artifactDigest : Option String
  artifactSha256 : String
  evidence : Option VerificationEvidence
  provenanceDigest : Option String
  provenanceSha256 : String
  provenanceReadable : Bool := true
  observation : ObservedProcessEndpoint
  confidence : Confidence := .high
  deriving DecidableEq, Repr

/-- What `publish` has worked out before it writes anything. -/
structure PublicationPlan where
  canonicalBroker : String
  record : EndpointRecord
  brokers : Brokers EndpointRecord
  entries : List ManifestEntry
  artifactPath : String
  provenancePath : String
  artifactExisted : Bool
  provenanceExisted : Bool

def artifactPathOf (runId : String) : String :=
  "artifacts/" ++ runId ++ "/endpoint-verification.json"

def provenancePathOf (runId : String) : String :=
  "artifacts/" ++ runId ++ "/login-provenance.json"

/-- `_usable_address`. -/
def usableAddress (host : HostText) : Except String IpAddress :=
  match host.address with
  | none => .error "observed endpoint address is invalid"
  | some address =>
    if address.usable then .ok address else .error "observed endpoint address is invalid"

/-- The checks of the promotion itself; the result is the address of the observed host. -/
def checkPromotion (promotion : EndpointPromotion) : Except String IpAddress := do
  let observation := promotion.observation
  demand (validName promotion.brokerLabel) "broker label is invalid"
  demand (validName promotion.serverName) "server name is invalid"
  demand (isUuid4 promotion.verificationSessionId) "verification session id is invalid"
  demand (promotion.confidence = .medium ∨ promotion.confidence = .high)
    "verified endpoint confidence is invalid"
  let address ← usableAddress observation.host
  demand (1 ≤ observation.port ∧ observation.port ≤ 65535 ∧ observation.protocol = "TCP/TLS" ∧
      0 < observation.pid ∧ 0 < observation.processCreationTime ∧ 0 < observation.observedAt)
    "observed endpoint binding is invalid"
  return address

/-- `expected_evidence`. -/
def expectedEvidence (promotion : EndpointPromotion) (address : IpAddress)
    (kind : ProvenanceKind) : VerificationEvidence where
  schemaVersion := 3
  verificationSessionId := promotion.verificationSessionId
  serverName := stripText promotion.serverName
  brokerLabel := stripText promotion.brokerLabel
  protocol := "TCP/TLS"
  verificationMethod := "managed_investor_login"
  loginVerified := true
  investorReadOnlyVerified := true
  verificationPid := promotion.observation.pid
  processCreationTime := promotion.observation.processCreationTime
  verifiedAt := promotion.observation.observedAt
  remoteHost := { address := some address }
  remotePort := promotion.observation.port
  provenanceKind := kind
  provenanceArtifactSha256 := promotion.provenanceSha256

def checkEvidence (promotion : EndpointPromotion) (address : IpAddress) : Except String Unit := do
  demand (isSha256 promotion.artifactSha256 ∧
      promotion.artifactDigest = some promotion.artifactSha256)
    "verification artifact digest is invalid"
  demand (isSha256 promotion.provenanceSha256 ∧
      promotion.provenanceDigest = some promotion.provenanceSha256)
    "verification provenance digest is invalid"
  demand promotion.provenanceReadable "verification provenance cannot be read"
  match promotion.evidence with
  | none => .error "verification artifact cannot be read"
  | some evidence =>
    demand (evidence.provenanceKind ≠ .other) "verification provenance kind is invalid"
    demand (evidence = expectedEvidence promotion address evidence.provenanceKind)
      "verification artifact binding is invalid"

/-- The record of the promotion. -/
def promotedRecord (promotion : EndpointPromotion) (address : IpAddress) : EndpointRecord where
  serverName := some (stripText promotion.serverName)
  host := { address := some address }
  port := promotion.observation.port
  protocol := "TCP/TLS"
  status := .verified
  observedAt := promotion.observation.observedAt
  discoveryMethod := "MT5_MANAGED_INVESTOR_LOGIN"
  verificationPid := promotion.observation.pid
  processCreationTime := some promotion.observation.processCreationTime
  verificationSessionId := promotion.verificationSessionId
  confidence := promotion.confidence
  artifactRelativePath := artifactPathOf promotion.verificationSessionId
  artifactSha256 := promotion.artifactSha256

/-- The record is verified for this server. -/
def EndpointRecord.verifiedFor (unicode : Unicode) (server : String) (record : EndpointRecord) :
    Bool :=
  record.status = .verified ∧
    record.serverName.any fun name => unicode.casefold name = unicode.casefold server

def EndpointRecord.supersede (unicode : Unicode) (promotion : EndpointPromotion)
    (record : EndpointRecord) : EndpointRecord :=
  if record.verifiedFor unicode (stripText promotion.serverName) then
    { record with
      status := .superseded
      invalidatedAt := some promotion.observation.observedAt
      invalidationReason := some .supersededByNewVerification
      invalidationEventId := some promotion.verificationSessionId }
  else record

/-- `setdefault` and the change of the records below one label. -/
def changeBroker (label : String) (change : List EndpointRecord → List EndpointRecord)
    (brokers : Brokers EndpointRecord) : Brokers EndpointRecord :=
  if label ∈ brokers.map Prod.fst then
    brokers.map fun broker => if broker.1 = label then (label, change broker.2) else broker
  else brokers ++ [(label, change [])]

def promote (unicode : Unicode) (promotion : EndpointPromotion) (record : EndpointRecord)
    (records : List EndpointRecord) : List EndpointRecord :=
  records.map (EndpointRecord.supersede unicode promotion) ++ [record]

/-- The labels of a registry with this key. -/
def brokerMatches (unicode : Unicode) (label : String) (brokers : Brokers EndpointRecord) :
    List String :=
  (brokers.map Prod.fst).filter fun other => brokerKey unicode other = brokerKey unicode label

/-- The label below which the registry has the broker, or the new one. -/
def canonicalLabel (unicode : Unicode) (label : String) (brokers : Brokers EndpointRecord) :
    Except String String :=
  match brokerMatches unicode label brokers with
  | [] => .ok label
  | [canonical] => .ok canonical
  | _ => .error "registry broker identity is ambiguous"

/-- The manifest with the two files of the promotion, in the order of the paths. -/
def nextManifest (promotion : EndpointPromotion) (entries : List ManifestEntry) :
    List ManifestEntry :=
  let artifact := artifactPathOf promotion.verificationSessionId
  let provenance := provenancePathOf promotion.verificationSessionId
  let others := entries.filter fun entry =>
    entry.relativePath ≠ artifact ∧ entry.relativePath ≠ provenance
  let files : List ManifestEntry := others ++
    [⟨artifact, promotion.artifactSha256⟩, ⟨provenance, promotion.provenanceSha256⟩]
  files.insertionSort fun a b => a.relativePath ≤ b.relativePath

/-- `publish` up to its first write. -/
@[irreducible] def preparePublication (unicode : Unicode) (now : Int) (files : EndpointFiles)
    (promotion : EndpointPromotion) : Except String PublicationPlan := do
  let address ← checkPromotion promotion
  checkEvidence promotion address
  let registry ← orRaise (loadRegistry unicode now files.registry) "endpoint registry is invalid"
  let entries ← orRaise (loadManifest files.manifest) "artifact manifest is invalid"
  demand (∀ entry ∈ entries, files.artifacts entry.relativePath = some entry.sha256)
    "existing artifact manifest binding is invalid"
  let canonicalBroker ←
    canonicalLabel unicode (stripText promotion.brokerLabel) registry.brokers
  let record := promotedRecord promotion address
  demand ((parseRecord canonicalBroker record).toOption.isSome)
    "promoted endpoint record is invalid"
  let artifactPath := artifactPathOf promotion.verificationSessionId
  let provenancePath := provenancePathOf promotion.verificationSessionId
  demand ((files.artifacts artifactPath).all (· = promotion.artifactSha256))
    "immutable verification artifact conflicts"
  demand ((files.artifacts provenancePath).all (· = promotion.provenanceSha256))
    "immutable verification provenance conflicts"
  return {
    canonicalBroker := canonicalBroker
    record := record
    brokers := changeBroker canonicalBroker (promote unicode promotion record) registry.brokers
    entries := nextManifest promotion entries
    artifactPath := artifactPath
    provenancePath := provenancePath
    artifactExisted := (files.artifacts artifactPath).isSome
    provenanceExisted := (files.artifacts provenancePath).isSome }

/-- The answers of the file system to the writes of one `publish` and to those of its rollback,
and what the reads of the resolver meet with. -/
structure PublicationEnv where
  now : Int
  copyArtifact : WriteAnswer String := .done
  copyProvenance : WriteAnswer String := .done
  manifestWrite : WriteAnswer String := .done
  registryWrite : WriteAnswer String := .done
  resolution : WriteAnswer String := .done
  restoreRegistry : WriteAnswer String := .done
  restoreManifest : WriteAnswer String := .done
  removeArtifact : WriteAnswer String := .done
  removeProvenance : WriteAnswer String := .done

abbrev EndpointProgram (α : Type) := Program PublicationEnv EndpointFiles String α

def setArtifact (path : String) (digest : Option String) (files : EndpointFiles) :
    EndpointFiles :=
  { files with artifacts := fun other => if other = path then digest else files.artifacts other }

def answered (answer : PublicationEnv → WriteAnswer String)
    (change : EndpointFiles → EndpointFiles) : EndpointProgram Unit :=
  Program.write (fun env => (answer env, env)) change

/-- `except Exception: pass`. -/
def bestEffort (p : EndpointProgram Unit) : EndpointProgram Unit :=
  Program.tryCatch p fun _ => pure ()

def onlyIf (condition : Bool) (p : EndpointProgram Unit) : EndpointProgram Unit :=
  if condition then p else pure ()

/-- The `except` branch of `publish`; the flags are `registry_written` and `manifest_written`. -/
def rollBack (original : EndpointFiles) (plan : PublicationPlan)
    (registryWritten manifestWritten : Bool) (error : String) {α : Type} :
    EndpointProgram α := do
  onlyIf registryWritten <| bestEffort <| answered PublicationEnv.restoreRegistry fun files =>
    { files with registry := original.registry }
  onlyIf manifestWritten <| bestEffort <| answered PublicationEnv.restoreManifest fun files =>
    { files with manifest := original.manifest }
  onlyIf (! plan.artifactExisted) <| bestEffort <|
    answered PublicationEnv.removeArtifact (setArtifact plan.artifactPath none)
  onlyIf (! plan.provenanceExisted) <| bestEffort <|
    answered PublicationEnv.removeProvenance (setArtifact plan.provenancePath none)
  Program.raise error

def resolutionFailure : String := "published endpoint failed independent resolution"

/-- A step of the `try` block with the flags that hold during it. -/
def guarded (original : EndpointFiles) (plan : PublicationPlan)
    (registryWritten manifestWritten : Bool) {α : Type} (p : EndpointProgram α) :
    EndpointProgram α :=
  Program.tryCatch p fun error =>
    rollBack original plan registryWritten manifestWritten
      (if error = resolutionFailure then error else "endpoint publication failed")

def orRaiseAs {α : Type} (error : String) : Except String α → EndpointProgram α
  | .ok value => pure value
  | .error _ => Program.raise error

/-- The resolver on what was written. -/
def resolvePublished (unicode : Unicode) (plan : PublicationPlan) (serverName : String) :
    EndpointProgram VerifiedBrokerEndpoint := do
  answered PublicationEnv.resolution id
  let files ← Program.getWorld
  orRaiseAs resolutionFailure
    (resolveEndpoint unicode files (some plan.canonicalBroker) serverName)

/-- The writes of `publish`: artifacts, manifest, registry, in this order. -/
def writePublication (unicode : Unicode) (promotion : EndpointPromotion)
    (original : EndpointFiles) (now : Int) (plan : PublicationPlan) :
    EndpointProgram VerifiedBrokerEndpoint := do
  guarded original plan false false
    (onlyIf (! plan.artifactExisted) <| answered PublicationEnv.copyArtifact <|
      setArtifact plan.artifactPath (some promotion.artifactSha256))
  guarded original plan false false
    (onlyIf (! plan.provenanceExisted) <| answered PublicationEnv.copyProvenance <|
      setArtifact plan.provenancePath (some promotion.provenanceSha256))
  guarded original plan false false
    (answered PublicationEnv.manifestWrite fun files =>
      { files with manifest := .files plan.entries })
  guarded original plan false true
    (answered PublicationEnv.registryWrite fun files =>
      { files with registry := .v3 now plan.brokers })
  guarded original plan true true
    (resolvePublished unicode plan (stripText promotion.serverName))

/-- `publish`. -/
def publishEndpoint (unicode : Unicode) (promotion : EndpointPromotion) :
    EndpointProgram VerifiedBrokerEndpoint := do
  let env ← Program.getEnv
  let original ← Program.getWorld
  match preparePublication unicode env.now original promotion with
  | .error error => Program.raise error
  | .ok plan => writePublication unicode promotion original env.now plan

structure EndpointInvalidation where
  endpoint : VerifiedBrokerEndpoint
  reason : InvalidationReason
  invalidatedAt : Int
  eventId : String
  deriving DecidableEq, Repr

def endpointFailureReasons : List InvalidationReason :=
  [.connectionFailed, .connectionRefused, .protocolIncompatible, .serverUnrecognized,
    .serverIdentityMismatch]

/-- The record is the verified one that the endpoint was made from. -/
def EndpointRecord.isTarget (unicode : Unicode) (invalidation : EndpointInvalidation)
    (record : EndpointRecord) : Bool :=
  let endpoint := invalidation.endpoint
  record.verifiedFor unicode (stripText (endpoint.serverName.getD "")) ∧
    record.host = { address := some endpoint.host } ∧ record.port = endpoint.port ∧
    record.verificationSessionId = endpoint.verificationSessionId ∧
    record.artifactSha256 = endpoint.artifactSha256

def EndpointRecord.invalidate (unicode : Unicode) (invalidation : EndpointInvalidation)
    (record : EndpointRecord) : EndpointRecord :=
  if record.isTarget unicode invalidation then
    { record with
      status := .invalid
      invalidatedAt := some invalidation.invalidatedAt
      invalidationReason := some invalidation.reason
      invalidationEventId := some invalidation.eventId }
  else record

/-- `invalidate` up to its first write: the registry to be written, the label and the target. -/
@[irreducible] def prepareInvalidation (unicode : Unicode) (now : Int) (files : EndpointFiles)
    (invalidation : EndpointInvalidation) : Except String (Registry × String × EndpointRecord) := do
  let endpoint := invalidation.endpoint
  demand (validName endpoint.brokerLabel) "broker label is invalid"
  demand (endpoint.serverName.any validName) "server name is invalid"
  demand (invalidation.reason ∈ endpointFailureReasons)
    "endpoint invalidation reason is not endpoint-specific"
  demand (0 < invalidation.invalidatedAt ∧ isUuid4 invalidation.eventId)
    "endpoint invalidation binding is invalid"
  demand (files.registry ≠ .missing) "endpoint registry is unavailable"
  let registry ← orRaise (loadRegistry unicode now files.registry) "endpoint registry is invalid"
  demand (endpoint.observedAt ≤ invalidation.invalidatedAt)
    "endpoint invalidation timestamp is stale"
  let label ← theOnly (brokerMatches unicode (stripText endpoint.brokerLabel) registry.brokers)
    "registry broker identity is missing or ambiguous"
  let target ← theOnly (((registry.brokers.lookup label).getD []).filter
      (EndpointRecord.isTarget unicode invalidation))
    "verified endpoint invalidation target is missing or ambiguous"
  let brokers := changeBroker label
    (List.map (EndpointRecord.invalidate unicode invalidation)) registry.brokers
  let updatedAt := max registry.updatedAt invalidation.invalidatedAt
  demand ((loadRegistry unicode now (.v3 updatedAt brokers)).isSome)
    "registry endpoint record is invalid"
  return (⟨updatedAt, brokers⟩, label, target)

/-- What `invalidate` reads back has exactly one record closed by this event. -/
def persistedMatches (invalidation : EndpointInvalidation) (label : String)
    (target : EndpointRecord) (brokers : Brokers EndpointRecord) : Nat :=
  (((brokers.lookup label).getD []).filter fun record =>
    record.status = .invalid ∧ record.serverName = target.serverName ∧
      record.host = target.host ∧ record.port = target.port ∧
      record.verificationSessionId = target.verificationSessionId ∧
      record.invalidationEventId = some invalidation.eventId).length

def invalidationFailure : String := "endpoint invalidation verification failed"

def readBack (unicode : Unicode) (invalidation : EndpointInvalidation) (label : String)
    (target : EndpointRecord) : EndpointProgram Unit := do
  answered PublicationEnv.resolution id
  let env ← Program.getEnv
  let files ← Program.getWorld
  match loadRegistry unicode env.now files.registry, files.registry with
  | some _, .v3 _ brokers =>
    if persistedMatches invalidation label target brokers = 1 then return ()
    else Program.raise invalidationFailure
  | _, _ => Program.raise invalidationFailure

/-- `invalidate`. -/
def invalidateEndpoint (unicode : Unicode) (invalidation : EndpointInvalidation) :
    EndpointProgram Unit := do
  let env ← Program.getEnv
  let original ← Program.getWorld
  match prepareInvalidation unicode env.now original invalidation with
  | .error error => Program.raise error
  | .ok (registry, label, target) =>
    Program.tryCatch
      (do
        answered PublicationEnv.registryWrite fun files =>
          { files with registry := .v3 registry.updatedAt registry.brokers }
        readBack unicode invalidation label target)
      (fun error => do
        bestEffort (answered PublicationEnv.restoreRegistry fun files =>
          { files with registry := original.registry })
        Program.raise
          (if error = invalidationFailure then error else "endpoint invalidation failed"))

end TradeJournalWorker
