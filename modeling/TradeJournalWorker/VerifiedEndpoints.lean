import Mathlib.Data.List.Infix
import TradeJournalWorker.AccountOnboarding
import TradeJournalWorker.EventNormalizer
import TradeJournalWorker.ExceptRules
import TradeJournalWorker.OrderedDict

namespace TradeJournalWorker

inductive RecordStatus where
  | verified
  | candidate
  | metaquotesCdn
  | expired
  deriving DecidableEq, Repr

inductive RecordConfidence where
  | low
  | medium
  | high
  deriving DecidableEq, Repr

structure VerifiedRecord where
  host : String
  port : Int
  protocol : String
  status : RecordStatus
  observedAtUnixMs : Int
  discoveryMethod : String
  verificationPid : Int
  verificationSessionId : String
  confidence : RecordConfidence
  artifactRelativePath : String
  artifactSha256 : String
  deriving DecidableEq, Repr

/-- The registry file. -/
structure BrokerRegistry where
  updatedAtUnixMs : Int
  ttlSeconds : Int
  brokers : OrderedDict String (List VerifiedRecord)

/-- What `ipaddress` says of a host and what the artifact manifest says of an artifact. -/
structure RegistryEnv where
  isAddress : String → Bool
  isUsable : String → Bool
  inManifest : String → String → Bool

def isHexText (text : List Char) : Bool :=
  text.all fun c => ('0' ≤ c && c ≤ '9') || ('a' ≤ c && c ≤ 'f')

/-- `_SHA256` -/
def isSha256Text (text : String) : Bool := text.toList.length == 64 && isHexText text.toList

/-- `_RUN_ID` -/
def isRunId (text : String) : Bool :=
  match text.toList.splitOn '-' with
  | [first, second, '4' :: third, variant :: fourth, last] =>
    first.length == 8 && second.length == 4 && third.length == 3 && fourth.length == 3 &&
      last.length == 12 && isHexText first && isHexText second && isHexText third &&
      isHexText fourth && isHexText last && "89ab".toList.contains variant
  | _ => false

/-- A character as a case-insensitive pattern reads it. -/
def foldLetter (c : Char) : Char :=
  if c = 'ſ' then 's' else if c = '\u212A' then 'k' else if c = 'ı' ∨ c = 'İ' then 'i' else c.toLower

/-- `_SECRET_KEYS.search` -/
def isSecretKey (key : String) : Bool :=
  ["password", "passwd", "token", "secret", "credential", "hmac"].any fun word =>
    decide (word.toList <:+: key.toList.map foldLetter)

namespace RegistryEnv

variable (env : RegistryEnv)

/-- `_record` -/
def checkRecord (record : VerifiedRecord) : Except String VerifiedRecord := do
  demand (env.isAddress record.host) "host must be a valid IP address"
  demand (env.isUsable record.host) "host address is not a usable endpoint"
  demand (1 ≤ record.port ∧ record.port ≤ 65535) "port must be in range 1..65535"
  demand (pyStrip record.protocol ≠ []) "protocol is required"
  demand (pyStrip record.discoveryMethod ≠ []) "discovery_method is required"
  demand (0 < record.observedAtUnixMs) "observed_at_unix_ms is invalid"
  demand (0 < record.verificationPid) "verification_pid is invalid"
  demand (isRunId record.verificationSessionId) "verification_session_id must be UUID4"
  demand (isSha256Text record.artifactSha256) "artifact_sha256 must be lowercase SHA-256"
  demand (record.artifactRelativePath ≠ "") "artifact_relative_path is required"
  return record

def checkBroker (broker : String × List VerifiedRecord) :
    Except String (String × List VerifiedRecord) := do
  demand (pyStrip broker.1 ≠ []) "broker records are invalid"
  let records ← broker.2.mapM env.checkRecord
  return (broker.1, records)

/-- `_payload` -/
def payload (registry : BrokerRegistry) : Except String BrokerRegistry := do
  demand (¬ registry.brokers.keys.any isSecretKey) "secret-bearing field is forbidden"
  demand (0 < registry.updatedAtUnixMs) "updated_at_unix_ms is invalid"
  demand (0 < registry.ttlSeconds) "ttl_seconds is invalid"
  let _ ← registry.brokers.entries.mapM env.checkBroker
  return registry

/-- `_validate_manifest` -/
def validateManifest (relativePath digest : String) : Except String Unit :=
  demand (env.inManifest relativePath digest)
    "artifact is absent or digest differs from manifest"

/-- `load_registry` with the artifact root and the manifest. -/
def loadWithArtifacts (registry : BrokerRegistry) : Except String BrokerRegistry := do
  let loaded ← env.payload registry
  let _ ← (loaded.brokers.values.flatMap id).mapM fun record =>
    env.validateManifest record.artifactRelativePath record.artifactSha256
  return loaded

end RegistryEnv

/-- The arguments of one `register_verified` call and the clock it reads. -/
structure Registration where
  brokerLabel : String
  host : String
  port : Int
  protocol : String
  observedAtUnixMs : Int
  discoveryMethod : String
  verificationPid : Int
  verificationSessionId : String
  confidence : RecordConfidence
  artifactRelativePath : String
  artifactSha256 : String
  ttlSeconds : Int := 86400
  now : Int
  deriving DecidableEq, Repr

def Registration.record (call : Registration) : VerifiedRecord where
  host := call.host
  port := call.port
  protocol := call.protocol
  status := .verified
  observedAtUnixMs := call.observedAtUnixMs
  discoveryMethod := call.discoveryMethod
  verificationPid := call.verificationPid
  verificationSessionId := call.verificationSessionId
  confidence := call.confidence
  artifactRelativePath := call.artifactRelativePath
  artifactSha256 := call.artifactSha256

def verifiedDiscoveryMethods : List String := ["MT5_LOGIN_DIALOG_IP", "MT5_NONINTERACTIVE_CONFIG"]

/-- `registry["brokers"].setdefault(label, []).append(record)` -/
def BrokerRegistry.append (registry : BrokerRegistry) (label : String) (record : VerifiedRecord)
    (now : Int) : BrokerRegistry :=
  { registry with
    updatedAtUnixMs := now
    brokers := registry.brokers.set label ((registry.brokers.get? label).getD [] ++ [record]) }

namespace RegistryEnv

variable (env : RegistryEnv)

/-- The registry that a registration starts from; the time to live of a file does not change. -/
def registryFor (file : Option BrokerRegistry) (call : Registration) :
    Except String BrokerRegistry :=
  match file with
  | none => return ⟨call.now, call.ttlSeconds, ∅⟩
  | some registry => do
    let loaded ← env.loadWithArtifacts registry
    demand (loaded.ttlSeconds = call.ttlSeconds) "ttl_seconds cannot change implicitly"
    return loaded

/-- `register_verified`: what the file holds afterwards. -/
def registerVerified (file : Option BrokerRegistry) (call : Registration) :
    Except String BrokerRegistry := do
  demand (pyStrip call.brokerLabel ≠ []) "broker_label is required"
  demand (call.discoveryMethod ∈ verifiedDiscoveryMethods)
    "VERIFIED endpoint requires an MT5 login verification method"
  env.validateManifest call.artifactRelativePath call.artifactSha256
  let registry ← env.registryFor file call
  let record ← env.checkRecord call.record
  env.payload (registry.append call.brokerLabel record call.now)

/-- A verified record whose time to live is not over. -/
def isCurrent (ttlSeconds now : Int) (record : VerifiedRecord) : Bool :=
  record.status = .verified ∧ now ≤ record.observedAtUnixMs + ttlSeconds * 1000

/-- `resolve_verified` without artifacts. -/
def resolveVerified (registry : BrokerRegistry) (label : String) (now : Int) :
    Except String (List VerifiedRecord) := do
  let loaded ← env.payload registry
  return ((loaded.brokers.get? label).getD []).filter (isCurrent loaded.ttlSeconds now)

end RegistryEnv

/-- `OnboardingStateMachine.resolve_endpoint`: one record verifies the endpoint. -/
def OnboardingStateMachine.resolveEndpoint (machine : OnboardingStateMachine)
    (records : List VerifiedRecord) : OnboardingResult × OnboardingStateMachine :=
  machine.apply (if records.length = 1 then .endpointVerified else .failure .missingEndpoint)

/-- The onboarding of an account worker with the endpoint in its state file. -/
structure EndpointWorker where
  brokerLabel : String
  onboarding : OnboardingStateMachine
  endpoint : Option String := none
  deriving DecidableEq, Repr

/-- `f"{record['host']}:{record['port']}"` -/
def endpointText (host : String) (port : Int) : String := host ++ ":" ++ toString port

/-- `AccountWorker.resolve_endpoint` -/
def EndpointWorker.resolveEndpoint (env : RegistryEnv) (file : Option BrokerRegistry) (now : Int)
    (worker : EndpointWorker) : EndpointWorker :=
  match file with
  | none =>
    { worker with onboarding := (worker.onboarding.apply (.failure .missingEndpoint)).2 }
  | some registry =>
    match env.resolveVerified registry worker.brokerLabel now with
    | .error _ =>
      { worker with onboarding := (worker.onboarding.apply (.failure .invalidConfig)).2 }
    | .ok records =>
      let (result, machine) := worker.onboarding.resolveEndpoint records
      if result.accepted ∧ machine.currentState = .brokerEndpointVerified then
        { worker with
          onboarding := machine
          endpoint := records.head?.map fun record => endpointText record.host record.port }
      else { worker with onboarding := machine }

/-- A registry file that these registrations have built, in their order. -/
inductive BuiltBy (env : RegistryEnv) : Option BrokerRegistry → List Registration → Prop where
  | absent : BuiltBy env none []
  | register {file : Option BrokerRegistry} {calls : List Registration} {registry : BrokerRegistry}
      (call : Registration) (prior : BuiltBy env file calls)
      (done : env.registerVerified file call = .ok registry) :
      BuiltBy env (some registry) (calls ++ [call])

section Built

variable {env : RegistryEnv}

theorem RegistryEnv.payload_ok {registry loaded : BrokerRegistry}
    (h : env.payload registry = .ok loaded) : loaded = registry := by
  unfold RegistryEnv.payload at h
  obtain ⟨_, _, h⟩ := except_bind_eq_ok h
  obtain ⟨_, _, h⟩ := except_bind_eq_ok h
  obtain ⟨_, _, h⟩ := except_bind_eq_ok h
  obtain ⟨_, _, h⟩ := except_bind_eq_ok h
  cases h
  rfl

theorem RegistryEnv.loadWithArtifacts_ok {registry loaded : BrokerRegistry}
    (h : env.loadWithArtifacts registry = .ok loaded) : loaded = registry := by
  obtain ⟨first, hfirst, h⟩ := except_bind_eq_ok h
  obtain ⟨_, _, h⟩ := except_bind_eq_ok h
  cases h
  exact RegistryEnv.payload_ok hfirst

theorem RegistryEnv.checkRecord_ok {record checked : VerifiedRecord}
    (h : env.checkRecord record = .ok checked) : checked = record := by
  unfold RegistryEnv.checkRecord at h
  iterate 10 obtain ⟨_, _, h⟩ := except_bind_eq_ok h
  cases h
  rfl

/-- A registration starts from nothing or from the file, under the time to live of the call. -/
theorem RegistryEnv.registryFor_ok {file : Option BrokerRegistry} {call : Registration}
    {registry : BrokerRegistry} (h : env.registryFor file call = .ok registry) :
    registry.ttlSeconds = call.ttlSeconds ∧
      (file = none ∧ registry.brokers = ∅ ∨ file = some registry) := by
  cases file with
  | none =>
    cases h
    exact ⟨rfl, .inl ⟨rfl, rfl⟩⟩
  | some stored =>
    obtain ⟨loaded, hload, h⟩ := except_bind_eq_ok h
    obtain ⟨_, httl, h⟩ := except_bind_eq_ok h
    cases h
    have hsame := RegistryEnv.loadWithArtifacts_ok hload
    subst hsame
    exact ⟨demand_eq_ok.mp httl, .inr rfl⟩

/-- A registration that returns has appended its record and written a registry that loads. -/
theorem RegistryEnv.registerVerified_ok {file : Option BrokerRegistry} {call : Registration}
    {result : BrokerRegistry} (h : env.registerVerified file call = .ok result) :
    ∃ registry, env.registryFor file call = .ok registry ∧
      result = registry.append call.brokerLabel call.record call.now ∧
      env.payload result = .ok result := by
  unfold RegistryEnv.registerVerified at h
  obtain ⟨_, _, h⟩ := except_bind_eq_ok h
  obtain ⟨_, _, h⟩ := except_bind_eq_ok h
  obtain ⟨_, _, h⟩ := except_bind_eq_ok h
  obtain ⟨registry, hregistry, h⟩ := except_bind_eq_ok h
  obtain ⟨record, hrecord, h⟩ := except_bind_eq_ok h
  have hsame := RegistryEnv.checkRecord_ok hrecord
  subst hsame
  have hresult := RegistryEnv.payload_ok h
  exact ⟨registry, hregistry, hresult, hresult ▸ h⟩

/-- What the registry holds for the label of all the registrations that built it. -/
theorem BuiltBy.records {file : Option BrokerRegistry} {calls : List Registration} {label : String}
    (built : BuiltBy env file calls) (hlabel : ∀ call ∈ calls, call.brokerLabel = label) :
    (file = none ∧ calls = []) ∨
      ∃ registry, file = some registry ∧ env.payload registry = .ok registry ∧
        (registry.brokers.get? label).getD [] = calls.map Registration.record ∧
        ∀ call ∈ calls, call.ttlSeconds = registry.ttlSeconds := by
  induction built with
  | absent => exact .inl ⟨rfl, rfl⟩
  | @register file calls result call prior done ih =>
    right
    obtain ⟨registry, hregistry, hresult, hpayload⟩ := RegistryEnv.registerVerified_ok done
    obtain ⟨httl, hfile⟩ := RegistryEnv.registryFor_ok hregistry
    have hown : call.brokerLabel = label := hlabel call (by simp)
    have hprior := ih fun earlier hmem => hlabel earlier (by simp [hmem])
    have hheld : (registry.brokers.get? label).getD [] = calls.map Registration.record ∧
        ∀ earlier ∈ calls, earlier.ttlSeconds = registry.ttlSeconds := by
      rcases hfile with ⟨hnone, hempty⟩ | hsome
      · rcases hprior with ⟨_, hcalls⟩ | ⟨stored, hstored, _⟩
        · simp [hempty, hcalls]
        · rw [hnone] at hstored
          cases hstored
      · rcases hprior with ⟨hnone, _⟩ | ⟨stored, hstored, _, hrecords, httls⟩
        · rw [hnone] at hsome
          cases hsome
        · rw [hsome] at hstored
          cases hstored
          exact ⟨hrecords, httls⟩
    refine ⟨result, rfl, hpayload, ?_, ?_⟩
    · rw [hresult, hown]
      simp [BrokerRegistry.append, hheld.1]
    · intro earlier hmem
      have hkept : result.ttlSeconds = registry.ttlSeconds := by rw [hresult]; rfl
      rw [hkept]
      rcases List.mem_append.mp hmem with hmem | hmem
      · exact hheld.2 earlier hmem
      · have hsame : earlier = call := by simpa using hmem
        rw [hsame, httl]

end Built

section Resolution

variable {env : RegistryEnv}

/-- How the worker goes on depends on the number of current records alone. -/
theorem EndpointWorker.resolveEndpoint_current {registry : BrokerRegistry} {now : Int}
    {worker : EndpointWorker} {records : List VerifiedRecord}
    (hstate : worker.onboarding.currentState = .brokerEndpointRequired)
    (hrecords : env.resolveVerified registry worker.brokerLabel now = .ok records) :
    (worker.resolveEndpoint env (some registry) now).onboarding.currentState =
        .brokerEndpointVerified ↔ records.length = 1 := by
  have hterminal : worker.onboarding.currentState.isTerminal = false := by
    rw [hstate]
    rfl
  by_cases hone : records.length = 1
  · simp [resolveEndpoint, hrecords, OnboardingStateMachine.resolveEndpoint, hone,
      OnboardingStateMachine.apply, hstate, OnboardingState.isTerminal, OnboardingState.table,
      OnboardingState.happyPath]
  · simp [resolveEndpoint, hrecords, OnboardingStateMachine.resolveEndpoint, hone,
      OnboardingStateMachine.apply_failure _ hterminal]

theorem EndpointWorker.resolveEndpoint_endpoint {registry : BrokerRegistry} {now : Int}
    {worker : EndpointWorker} {record : VerifiedRecord}
    (hstate : worker.onboarding.currentState = .brokerEndpointRequired)
    (hrecords : env.resolveVerified registry worker.brokerLabel now = .ok [record]) :
    (worker.resolveEndpoint env (some registry) now).endpoint =
      some (endpointText record.host record.port) := by
  simp [resolveEndpoint, hrecords, OnboardingStateMachine.resolveEndpoint,
    OnboardingStateMachine.apply, hstate, OnboardingState.isTerminal, OnboardingState.table,
    OnboardingState.happyPath]

/-- The observation of the call is not older than its time to live. -/
def Registration.isCurrent (now : Int) (call : Registration) : Bool :=
  now ≤ call.observedAtUnixMs + call.ttlSeconds * 1000

/-- The records that a resolution sees are those of the registrations still in their time. -/
theorem BuiltBy.resolve {registry : BrokerRegistry} {calls : List Registration} {label : String}
    (now : Int) (built : BuiltBy env (some registry) calls)
    (hlabel : ∀ call ∈ calls, call.brokerLabel = label) :
    env.resolveVerified registry label now =
      .ok ((calls.filter (Registration.isCurrent now)).map Registration.record) := by
  rcases built.records hlabel with ⟨habsent, _⟩ | ⟨stored, hstored, hpayload, hrecords, httl⟩
  · cases habsent
  · cases hstored
    have hfilter : (calls.map Registration.record).filter
        (RegistryEnv.isCurrent registry.ttlSeconds now) =
          (calls.filter (Registration.isCurrent now)).map Registration.record := by
      rw [List.filter_map]
      congr 1
      apply List.filter_congr
      intro call hmem
      simp [RegistryEnv.isCurrent, Registration.isCurrent, Registration.record, httl call hmem]
    unfold RegistryEnv.resolveVerified
    rw [hpayload]
    show Except.ok (((registry.brokers.get? label).getD []).filter _) = _
    rw [hrecords, hfilter]

/-- Registrations of one endpoint keep it usable exactly as long as a single one of them is
still in its time. -/
theorem reverified_endpoint_resolves_iff (env : RegistryEnv) (host protocol : String) (port : Int)
    (file : Option BrokerRegistry) (calls : List Registration) (built : BuiltBy env file calls)
    (worker : EndpointWorker)
    (hsame : ∀ call ∈ calls, call.brokerLabel = worker.brokerLabel ∧ call.host = host ∧
      call.port = port ∧ call.protocol = protocol)
    (hstate : worker.onboarding.currentState = .brokerEndpointRequired) (now : Int)
    (last : Registration) (hlast : last ∈ calls) (hnow : last.isCurrent now = true) :
    ((worker.resolveEndpoint env file now).onboarding.currentState = .brokerEndpointVerified ∧
        (worker.resolveEndpoint env file now).endpoint = some (endpointText host port)) ↔
      calls.filter (Registration.isCurrent now) = [last] := by
  have hlabel : ∀ call ∈ calls, call.brokerLabel = worker.brokerLabel := fun call hmem =>
    (hsame call hmem).1
  cases file with
  | none =>
    rcases built.records hlabel with ⟨_, hcalls⟩ | ⟨_, hstored, _⟩
    · rw [hcalls] at hlast
      cases hlast
    · cases hstored
  | some registry =>
    have hresolve := built.resolve now hlabel
    have hcurrent : last ∈ calls.filter (Registration.isCurrent now) :=
      List.mem_filter.mpr ⟨hlast, hnow⟩
    constructor
    · intro ⟨hverified, _⟩
      have hlength := (EndpointWorker.resolveEndpoint_current hstate hresolve).mp hverified
      rw [List.length_map] at hlength
      obtain ⟨only, honly⟩ := List.length_eq_one_iff.mp hlength
      rw [honly] at hcurrent ⊢
      have hsingle : last = only := by simpa using hcurrent
      rw [hsingle]
    · intro honly
      rw [honly] at hresolve
      obtain ⟨_, hhost, hport, _⟩ := hsame last hlast
      have hendpoint := EndpointWorker.resolveEndpoint_endpoint hstate hresolve
      refine ⟨(EndpointWorker.resolveEndpoint_current hstate hresolve).mpr rfl, ?_⟩
      rw [hendpoint, ← hhost, ← hport]
      rfl

end Resolution

/-- One address and one artifact, as the tests of the registry use them. -/
def sampleRegistryEnv : RegistryEnv where
  isAddress host := host == "198.51.100.7"
  isUsable host := host == "198.51.100.7"
  inManifest path digest := path == "events.jsonl" && isSha256Text digest

def sampleRegistration (observedAtUnixMs : Int) : Registration where
  brokerLabel := "FPMTrading"
  host := "198.51.100.7"
  port := 443
  protocol := "MT5"
  observedAtUnixMs := observedAtUnixMs
  discoveryMethod := "MT5_LOGIN_DIALOG_IP"
  verificationPid := 42
  verificationSessionId := "123e4567-e89b-42d3-a456-426614174000"
  confidence := .high
  artifactRelativePath := "events.jsonl"
  artifactSha256 := "0123456789abcdef0123456789abcdef0123456789abcdef0123456789abcdef"
  ttlSeconds := 100
  now := 1000001

def waitingWorker : EndpointWorker where
  brokerLabel := "FPMTrading"
  onboarding := ⟨.brokerEndpointRequired, none⟩

def registryOnce : BrokerRegistry :=
  (⟨1000001, 100, ∅⟩ : BrokerRegistry).append "FPMTrading" (sampleRegistration 1000000).record 1000001

def registryTwice : BrokerRegistry :=
  registryOnce.append "FPMTrading" (sampleRegistration 1050000).record 1000001

theorem builtBy_registryOnce :
    BuiltBy sampleRegistryEnv (some registryOnce) [sampleRegistration 1000000] := by
  have done : sampleRegistryEnv.registerVerified none (sampleRegistration 1000000) =
      .ok registryOnce := by
    rfl
  exact .register _ .absent done

theorem builtBy_registryTwice : BuiltBy sampleRegistryEnv (some registryTwice)
    [sampleRegistration 1000000, sampleRegistration 1050000] := by
  have done : sampleRegistryEnv.registerVerified (some registryOnce) (sampleRegistration 1050000) =
      .ok registryTwice := by
    rfl
  exact .register _ builtBy_registryOnce done

/-- After one registration the endpoint is there. -/
theorem reverified_endpoint_resolves_once :
    ((waitingWorker.resolveEndpoint sampleRegistryEnv (some registryOnce) 1100000).onboarding.currentState =
          .brokerEndpointVerified ∧
        (waitingWorker.resolveEndpoint sampleRegistryEnv (some registryOnce) 1100000).endpoint =
          some (endpointText "198.51.100.7" 443)) ↔
      [sampleRegistration 1000000].filter (Registration.isCurrent 1100000) =
        [sampleRegistration 1000000] :=
  reverified_endpoint_resolves_iff sampleRegistryEnv "198.51.100.7" "MT5" 443 (some registryOnce)
    [sampleRegistration 1000000] builtBy_registryOnce waitingWorker (by decide) rfl 1100000
    (sampleRegistration 1000000) (by decide) (by decide)

/-- A second registration of the endpoint within the time to live of the first fails the
onboarding closed. -/
theorem not_reverified_endpoint_resolves :
    ¬ ∀ (env : RegistryEnv) (host protocol : String) (port : Int) (file : Option BrokerRegistry)
      (calls : List Registration), BuiltBy env file calls → ∀ worker : EndpointWorker,
      (∀ call ∈ calls, call.brokerLabel = worker.brokerLabel ∧ call.host = host ∧
        call.port = port ∧ call.protocol = protocol) →
      worker.onboarding.currentState = .brokerEndpointRequired → ∀ (now : Int),
      ∀ last ∈ calls, last.isCurrent now = true →
      (worker.resolveEndpoint env file now).onboarding.currentState = .brokerEndpointVerified ∧
        (worker.resolveEndpoint env file now).endpoint = some (endpointText host port) := by
  intro h
  have hverified := h sampleRegistryEnv "198.51.100.7" "MT5" 443 (some registryTwice)
    [sampleRegistration 1000000, sampleRegistration 1050000] builtBy_registryTwice waitingWorker
    (by decide) rfl 1060000 (sampleRegistration 1050000) (by decide) (by decide)
  revert hverified
  decide

end TradeJournalWorker
