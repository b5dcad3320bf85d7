import TradeJournalWorker.ExceptRules
import TradeJournalWorker.NetworkNames

namespace TradeJournalWorker.Routing

open Lab (UnicodeTables)

inductive ResolutionMethod where
  | directEndpoint
  | terminalDiscovery
  | unresolved
  deriving DecidableEq, Repr

structure BrokerProfile where
  profileId : String
  brokerId : String
  brokerName : String
  server : String
  environment : String
  aliases : List String
  discoveryQueries : List String
  source : String
  connectionTarget : Option String
  targetVerifiedAt : Option String
  deriving DecidableEq, Repr

structure BrokerResolution where
  requestedServer : String
  method : ResolutionMethod
  expectedServer : Option String
  connectionTarget : Option String
  discoveryQueries : List String
  profileId : Option String
  brokerId : Option String
  brokerName : Option String
  environment : Option String
  revision : Int
  matchedBy : String
  deriving DecidableEq, Repr

section Validators

variable (tables : UnicodeTables)

/-- `_ID_PATTERN`. -/
def isIdentifier (text : List Char) : Bool :=
  let letter := fun c : Char => c.isLower || c.isDigit
  text.length ≤ 64 && text.all (fun c => letter c || c = '-') && text.head?.any letter &&
    text.getLast?.any letter

def isServerChar (c : Char) : Bool := c.isAlphanum || "._ -".toList.contains c

/-- `_SERVER_PATTERN`. -/
def isServerLabel (text : List Char) : Bool :=
  text ≠ [] && text.length ≤ 128 && text.all isServerChar

def validatedId (value field : String) : Except String String :=
  if isIdentifier value.toList then .ok value else .error (field ++ " is invalid")

def validatedServer (value field : String) : Except String String :=
  if isServerLabel value.toList = false then .error (field ++ " is invalid")
  else if value.toList ≠ tables.strip value.toList then
    .error (field ++ " cannot have surrounding whitespace")
  else .ok value

def isControl (c : Char) : Bool := c.toNat < 32 || c.toNat = 127

def validatedCleanText (value field : String) (maxLength : Nat) : Except String String :=
  if value.toList = [] ∨ maxLength < value.toList.length then .error (field ++ " is invalid")
  else if value.toList ≠ tables.strip value.toList ∨ value.toList.any isControl then
    .error (field ++ " is invalid")
  else .ok value

/-- `_server_key`. -/
def serverKey (server : String) : List Char := tables.casefoldText server

def validatedServerList (value : List String) (field : String) : Except String (List String) := do
  let result ← value.mapM fun item => validatedServer tables item field
  if (result.map (serverKey tables)).Nodup then return result
  else .error (field ++ " contains duplicates")

def hasPathSeparator (value : String) : Bool :=
  value.toList.contains '/' || value.toList.contains '\\'

def validatedTextList (value : List String) (field : String) (maxLength : Nat) :
    Except String (List String) := do
  let result ← value.mapM fun item => validatedCleanText tables item field maxLength
  if result.any hasPathSeparator then .error (field ++ " cannot contain path separators")
  else if (result.map tables.casefoldText).Nodup then return result
  else .error (field ++ " contains duplicates")

/-- `[1-9][0-9]{0,4}`. -/
def isPortText (text : List Char) : Bool :=
  text ≠ [] && text.length ≤ 5 && text.all Char.isDigit && text.head? ≠ some '0'

def validatedPort (port : List Char) : Except String Unit :=
  if isPortText port = false then .error "connection_target contains an invalid port"
  else if 65535 < decimalValue port then .error "connection_target contains an invalid port"
  else .ok ()

def validatedHost (host : List Char) : Except String Unit :=
  if host = [] ∨ 253 < host.length ∨ host.getLast? = some '.' then
    .error "connection_target contains an invalid host"
  else if isIpv4 host then .ok ()
  else if isDotted host then .error "connection_target contains an invalid IPv4 address"
  else if (host.splitOn '.').all isDnsLabel then .ok ()
  else .error "connection_target contains an invalid DNS name"

/-- The host and the port of a text matched by `_BRACKETED_ENDPOINT_PATTERN`. -/
def bracketedEndpoint (text : List Char) : Option (List Char × List Char) :=
  match text with
  | '[' :: rest =>
    let host := rest.takeWhile (· ≠ ']')
    match rest.dropWhile (· ≠ ']') with
    | ']' :: ':' :: port => if host ≠ [] ∧ isPortText port then some (host, port) else none
    | _ => none
  | _ => none

def validatedConnectionTarget (value : String) : Except String String :=
  let text := value.toList
  if text ≠ tables.strip text ∨ text = [] then .error "connection_target is invalid"
  else
    match bracketedEndpoint text with
    | some (host, port) =>
      if host.contains '%' ∨ isIpv6 host = false then
        .error "connection_target contains an invalid IPv6 address"
      else do
        validatedPort port
        return value
    | none =>
      match text.splitOn ':' with
      | [host, port] => do
        validatedPort port
        validatedHost host
        return value
      | _ => .error "connection_target must use host:port"

/-- What follows a text of the given shape, where `d` stands for a decimal digit. -/
def afterShape : List Char → List Char → Option (List Char)
  | [], rest => some rest
  | _ :: _, [] => none
  | mark :: shape, c :: rest =>
    if if mark = 'd' then tables.isDecimal c else decide (c = mark) then afterShape shape rest
    else none

/-- `_UTC_TIMESTAMP_PATTERN`. -/
def isUtcTimestamp (text : List Char) : Bool :=
  match afterShape tables "dddd-dd-ddTdd:dd:dd".toList text with
  | some ['Z'] => true
  | some ('.' :: rest) =>
    let digits := rest.takeWhile tables.isDecimal
    1 ≤ digits.length && digits.length ≤ 6 && rest.drop digits.length = ['Z']
  | _ => false

end Validators

/-- The Unicode tables and the times that `datetime.fromisoformat` reads. -/
structure RegistryEnv where
  tables : UnicodeTables
  fromIsoformat : List Char → Bool

section Registry

variable (env : RegistryEnv)

def validatedUtcTimestamp (value : String) : Except String String :=
  if isUtcTimestamp env.tables value.toList = false then
    .error "target_verified_at must be an ISO-8601 UTC timestamp ending in Z"
  else if env.fromIsoformat (value.toList.dropLast ++ "+00:00".toList) then .ok value
  else .error "target_verified_at is not a valid timestamp"

/-- The target and its time, which are given together or not at all. -/
def parseTarget (raw : BrokerProfile) : Except String (Option String × Option String) :=
  match raw.connectionTarget, raw.targetVerifiedAt with
  | none, none => .ok (none, none)
  | some target, some verifiedAt => do
    let target ← validatedConnectionTarget env.tables target
    let verifiedAt ← validatedUtcTimestamp env verifiedAt
    return (some target, some verifiedAt)
  | _, _ => .error "connection_target and target_verified_at must be provided together"

def validatedEnvironment (environment : String) : Except String String :=
  if environment = "live" ∨ environment = "demo" then .ok environment
  else .error "environment must be live or demo"

def validatedQueries (queries : List String) : Except String (List String) := do
  let queries ← validatedTextList env.tables queries "discovery_queries" 128
  if queries = [] then .error "discovery_queries cannot be empty" else return queries

/-- `_parse_profile` of an object with the fields of a profile. -/
def parseProfile (raw : BrokerProfile) : Except String BrokerProfile := do
  let profileId ← validatedId raw.profileId "profile_id"
  let brokerId ← validatedId raw.brokerId "broker_id"
  let brokerName ← validatedCleanText env.tables raw.brokerName "broker_name" 128
  let server ← validatedServer env.tables raw.server "server"
  let environment ← validatedEnvironment raw.environment
  let aliases ← validatedServerList env.tables raw.aliases "aliases"
  let discoveryQueries ← validatedQueries env raw.discoveryQueries
  let source ← validatedCleanText env.tables raw.source "source" 256
  let target ← parseTarget env raw
  return ⟨profileId, brokerId, brokerName, server, environment, aliases, discoveryQueries, source,
    target.1, target.2⟩

/-- The labels a profile claims. -/
def BrokerProfile.labels (profile : BrokerProfile) : List (List Char) :=
  (profile.server :: profile.aliases).map (serverKey env.tables)

structure BrokerRegistry where
  revision : Int
  profiles : List BrokerProfile
  labels_nodup : (profiles.flatMap (·.labels env)).Nodup

/-- Texts are equal where their characters are; the membership tests below refer to it by name. -/
theorem lawfulText : LawfulBEq (List Char) := inferInstance

attribute [local instance] lawfulText

structure ClaimedLabels where
  ids : List String
  labels : List (List Char)

/-- `_claim_label`. -/
def claimLabel (claimed : List (List Char)) (key : List Char) : Except String (List (List Char)) :=
  if key ∈ claimed then .error "server and alias labels must be unique after normalization"
  else .ok (claimed ++ [key])

def claimProfile (claimed : ClaimedLabels) (profile : BrokerProfile) :
    Except String ClaimedLabels :=
  if profile.profileId ∈ claimed.ids then .error "duplicate profile_id"
  else do
    let labels ← (profile.labels env).foldlM claimLabel claimed.labels
    return ⟨claimed.ids ++ [profile.profileId], labels⟩

theorem foldlM_claimLabel {keys claimed labels : List (List Char)}
    (h : keys.foldlM claimLabel claimed = .ok labels) (hnodup : claimed.Nodup) :
    labels = claimed ++ keys ∧ labels.Nodup := by
  induction keys generalizing claimed with
  | nil =>
    cases h
    exact ⟨by simp, hnodup⟩
  | cons key rest ih =>
    rw [List.foldlM_cons] at h
    obtain ⟨next, hnext, h⟩ := except_bind_eq_ok h
    unfold claimLabel at hnext
    split at hnext
    next => cases hnext
    next hnew =>
      cases hnext
      have hlonger : (claimed ++ [key]).Nodup := by
        rw [List.nodup_append]
        grind
      obtain ⟨hlabels, hall⟩ := ih h hlonger
      exact ⟨by simp [hlabels], hall⟩

theorem foldlM_claimProfile {profiles : List BrokerProfile} {claimed after : ClaimedLabels}
    (h : profiles.foldlM (claimProfile env) claimed = .ok after) (hnodup : claimed.labels.Nodup) :
    after.labels = claimed.labels ++ profiles.flatMap (·.labels env) ∧ after.labels.Nodup := by
  induction profiles generalizing claimed with
  | nil =>
    cases h
    exact ⟨by simp, hnodup⟩
  | cons profile rest ih =>
    rw [List.foldlM_cons] at h
    obtain ⟨next, hnext, h⟩ := except_bind_eq_ok h
    unfold claimProfile at hnext
    split at hnext
    next => cases hnext
    next =>
      obtain ⟨labels, hlabels, hnext⟩ := except_bind_eq_ok hnext
      cases hnext
      obtain ⟨hjoined, hunique⟩ := foldlM_claimLabel hlabels hnodup
      obtain ⟨hafter, hall⟩ := ih h hunique
      refine ⟨?_, hall⟩
      rw [hafter]
      simp [hjoined]

/-- `BrokerRegistry.__init__`. -/
def registryOf (revision : Int) (profiles : List BrokerProfile) :
    Except String (BrokerRegistry env) :=
  match h : profiles.foldlM (claimProfile env) ⟨[], []⟩ with
  | .error text => .error text
  | .ok _ => .ok ⟨revision, profiles, by
      obtain ⟨hlabels, hnodup⟩ := foldlM_claimProfile env h List.nodup_nil
      rw [hlabels] at hnodup
      simpa using hnodup⟩

/-- `BrokerRegistry.from_dict` of a document of the supported version. -/
def registryFromDict (revision : Int) (raw : List BrokerProfile) :
    Except String (BrokerRegistry env) :=
  if revision < 1 then .error "registry revision must be a positive integer"
  else if raw = [] then .error "registry profiles cannot be empty"
  else do
    let profiles ← raw.mapM (parseProfile env)
    registryOf env revision profiles

namespace BrokerRegistry

variable {env} (registry : BrokerRegistry env)

def canonical (key : List Char) : Option BrokerProfile :=
  registry.profiles.find? fun profile => serverKey env.tables profile.server = key

def aliasOf (key : List Char) : Option BrokerProfile :=
  registry.profiles.find? fun profile => key ∈ profile.aliases.map (serverKey env.tables)

def resolution (requestedServer matchedBy : String) (profile : BrokerProfile) :
    BrokerResolution where
  requestedServer
  method := if profile.connectionTarget.isSome then .directEndpoint else .terminalDiscovery
  expectedServer := some profile.server
  connectionTarget := profile.connectionTarget
  discoveryQueries := profile.discoveryQueries
  profileId := some profile.profileId
  brokerId := some profile.brokerId
  brokerName := some profile.brokerName
  environment := some profile.environment
  revision := registry.revision
  matchedBy

def unresolvedPlan (requestedServer : String) : BrokerResolution where
  requestedServer
  method := .unresolved
  expectedServer := none
  connectionTarget := none
  discoveryQueries := []
  profileId := none
  brokerId := none
  brokerName := none
  environment := none
  revision := registry.revision
  matchedBy := "none"

/-- What the labels of the registry say about a server. -/
def lookup (server : String) : BrokerResolution :=
  match registry.canonical (serverKey env.tables server) with
  | some profile =>
    registry.resolution server (if server = profile.server then "exact" else "casefold") profile
  | none =>
    match registry.aliasOf (serverKey env.tables server) with
    | some profile => registry.resolution server "alias" profile
    | none => registry.unresolvedPlan server

def resolve (requestedServer : String) : Except String BrokerResolution := do
  let requestedServer ← validatedServer env.tables requestedServer "requested_server"
  return registry.lookup requestedServer

end BrokerRegistry

end Registry

end TradeJournalWorker.Routing
