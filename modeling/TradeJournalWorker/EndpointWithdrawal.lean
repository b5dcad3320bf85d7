import TradeJournalWorker.EndpointSources

namespace TradeJournalWorker

open FaultProgram

section Runs

variable {unicode : Unicode} {invalidation : EndpointInvalidation} {env : PublicationEnv}
  {files : EndpointFiles} {registry : Registry} {label : String} {target : EndpointRecord}

theorem answered_done {answer : PublicationEnv → WriteAnswer String}
    {change : EndpointFiles → EndpointFiles} (h : answer env = .done) :
    answered answer change env files = (.returned (), env, change files) := by
  show ((answer env).exit, env, (answer env).apply change files) = _
  rw [h]
  rfl

theorem answered_failed {answer : PublicationEnv → WriteAnswer String}
    {change : EndpointFiles → EndpointFiles} {refusal : String} (h : answer env = .failed refusal) :
    answered answer change env files = (.raised refusal, env, files) := by
  show ((answer env).exit, env, (answer env).apply change files) = _
  rw [h]
  rfl

theorem readBack_run (hresolution : env.resolution = .done)
    (hload : (loadRegistry unicode env.now
      (.v3 registry.updatedAt registry.brokers)).isSome = true) :
    readBack unicode invalidation label target env
        { files with registry := .v3 registry.updatedAt registry.brokers } =
      (if persistedMatches invalidation label target registry.brokers = 1 then .returned ()
        else .raised invalidationFailure, env,
        { files with registry := .v3 registry.updatedAt registry.brokers }) := by
  obtain ⟨loaded, hloaded⟩ := Option.isSome_iff_exists.mp hload
  unfold readBack
  rw [Program.run_bind_returned (answered_done hresolution),
    Program.run_bind_returned (Program.run_getEnv _ _),
    Program.run_bind_returned (Program.run_getWorld _ _)]
  simp only [id, hloaded]
  show (if persistedMatches invalidation label target registry.brokers = 1 then pure ()
    else Program.raise invalidationFailure : EndpointProgram Unit) env _ = _
  split
  · rfl
  · rfl

/-- An exception of the body does not come back as a return. -/
theorem recovery_raises {error : String} {original : RegistryFile} {world : EndpointFiles} :
    (((bestEffort (answered PublicationEnv.restoreRegistry fun written =>
        { written with registry := original })) >>= fun _ =>
          Program.raise (if error = invalidationFailure then error
            else "endpoint invalidation failed") : EndpointProgram Unit) env world).1 ≠
      .returned () := by
  rw [Program.run_bind]
  split
  · intro h
    cases h
  · intro h
    cases h
  · intro h
    cases h

/-- A call whose writes succeed returns if it reads back exactly one record closed by it. -/
theorem invalidateEndpoint_written
    (hprepared : prepareInvalidation unicode env.now files invalidation =
      .ok (registry, label, target))
    (hload : (loadRegistry unicode env.now
      (.v3 registry.updatedAt registry.brokers)).isSome = true)
    (hwrite : env.registryWrite = .done) (hresolution : env.resolution = .done) :
    (invalidateEndpoint unicode invalidation env files).1 = .returned () ↔
      persistedMatches invalidation label target registry.brokers = 1 := by
  rw [invalidateEndpoint_of_ok hprepared]
  unfold Program.tryCatch
  rw [Program.run_bind_returned (answered_done hwrite), readBack_run hresolution hload]
  by_cases hone : persistedMatches invalidation label target registry.brokers = 1
  · rw [if_pos hone]
    exact ⟨fun _ => hone, fun _ => rfl⟩
  · rw [if_neg hone]
    exact ⟨fun h => absurd h recovery_raises, fun h => absurd h hone⟩

/-- A call whose write is refused raises. -/
theorem invalidateEndpoint_refused {refusal : String}
    (hprepared : prepareInvalidation unicode env.now files invalidation =
      .ok (registry, label, target))
    (hwrite : env.registryWrite = .failed refusal) :
    (invalidateEndpoint unicode invalidation env files).1 ≠ .returned () := by
  rw [invalidateEndpoint_of_ok hprepared]
  unfold Program.tryCatch
  rw [Program.run_bind, answered_failed hwrite]
  exact recovery_raises

/-- The record is closed already, by the event that the call brings. -/
def EndpointRecord.closedBefore (invalidation : EndpointInvalidation) (record : EndpointRecord) :
    Bool :=
  record.status = .invalid ∧ record.serverName = invalidation.endpoint.serverName ∧
    record.host = { address := some invalidation.endpoint.host } ∧
    record.port = invalidation.endpoint.port ∧
    record.verificationSessionId = invalidation.endpoint.verificationSessionId ∧
    record.invalidationEventId = some invalidation.eventId

theorem lookup_split {front back : Brokers EndpointRecord} {records : List EndpointRecord}
    (h : ∀ other ∈ front ++ back, other.1 ≠ label) :
    (front ++ (label, records) :: back).lookup label = some records := by
  induction front with
  | nil => simp
  | cons other rest ih =>
    have hne : (label == other.1) = false := by
      simpa using Ne.symm (h other List.mem_cons_self)
    obtain ⟨name, others⟩ := other
    rw [List.cons_append, List.lookup_cons, hne]
    exact ih fun third hthird => h third (List.mem_cons_of_mem _ hthird)

/-- What is read back counts the closed record and those that the same event closed before. -/
theorem persistedMatches_withClosed {record : EndpointRecord} {front back : Brokers EndpointRecord}
    {earlier later : List EndpointRecord}
    (h : ∀ other ∈ front ++ back, other.1 ≠ label)
    (hserver : record.serverName = invalidation.endpoint.serverName)
    (hhost : record.host = { address := some invalidation.endpoint.host })
    (hport : record.port = invalidation.endpoint.port)
    (hsession : record.verificationSessionId = invalidation.endpoint.verificationSessionId) :
    persistedMatches invalidation label record
        (withClosed invalidation label record front earlier later back) =
      (earlier ++ later).countP (EndpointRecord.closedBefore invalidation) + 1 := by
  unfold persistedMatches withClosed
  rw [lookup_split h, Option.getD_some, ← List.countP_eq_length_filter, hserver, hhost, hport,
    hsession, List.countP_append, List.countP_cons, List.countP_append]
  have hclosed : (record.closedBy invalidation).closedBefore invalidation = true := by
    unfold EndpointRecord.closedBefore EndpointRecord.closedBy
    simp [hserver, hhost, hport, hsession]
  unfold EndpointRecord.closedBefore at hclosed ⊢
  rw [if_pos hclosed]
  omega

end Runs

section Withdrawal

/-- A verified record that the resolver makes this endpoint from. -/
def MadeFrom (endpoint : VerifiedBrokerEndpoint) (record : EndpointRecord) : Prop :=
  record.status = .verified ∧ ∃ address, record.host.address = some address ∧
    record.endpoint endpoint.brokerLabel address = endpoint

/-- The record of the endpoint is closed and all others are as they were. -/
def Withdrawn (invalidation : EndpointInvalidation) (before after : Brokers EndpointRecord) :
    Prop :=
  ∃ label front earlier record later back, MadeFrom invalidation.endpoint record ∧
    before = front ++ (label, earlier ++ record :: later) :: back ∧
    after = withClosed invalidation label record front earlier later back

/-- The registry of an endpoint that can be withdrawn: the labels of its brokers have distinct
keys, the record has the host and the server in the spelling of the resolver, no record of the
broker is closed by the same event, and no text in it looks like a secret. -/
structure Withdrawable (unicode : Unicode) (hosts : HostText → String)
    (invalidation : EndpointInvalidation) (brokers : Brokers EndpointRecord) : Prop where
  keys : (brokers.map fun broker => brokerKey unicode broker.1).Nodup
  written : ∀ broker ∈ brokers, broker.1 = stripText invalidation.endpoint.brokerLabel →
    ∀ record ∈ broker.2, MadeFrom invalidation.endpoint record →
      record.host.compressed = true ∧ record.serverName = invalidation.endpoint.serverName
  fresh : ∀ broker ∈ brokers, broker.1 = stripText invalidation.endpoint.brokerLabel →
    ∀ record ∈ broker.2, record.closedBefore invalidation = false
  unmarked : Unmarked (brokersDocument hosts brokers)

/-- A call that nothing but the guard of `atomic_json` stops. -/
def guardedCall (floats : FloatRepr) (hosts : HostText → String) (unicode : Unicode) (now : Int)
    (files : EndpointFiles) (invalidation : EndpointInvalidation) : PublicationEnv :=
  { now := now
    registryWrite :=
      match prepareInvalidation unicode now files invalidation with
      | .error _ => .done
      | .ok (registry, _, _) =>
        guardAnswer "secrets are forbidden in state" floats (registry.document hosts) }

variable {unicode : Unicode} {invalidation : EndpointInvalidation} {floats : FloatRepr}
  {hosts : HostText → String} {now : Int} {files : EndpointFiles}

theorem unmarked_withClosed_iff {label : String} {record : EndpointRecord}
    {front back : Brokers EndpointRecord} {earlier later : List EndpointRecord}
    (hopen : record.invalidationEventId = none) (hevent : isUuid4 invalidation.eventId = true) :
    Unmarked (brokersDocument hosts
        (withClosed invalidation label record front earlier later back)) ↔
      Unmarked (brokersDocument hosts
        (front ++ (label, earlier ++ record :: later) :: back)) := by
  unfold withClosed
  rw [unmarked_brokers_iff, unmarked_brokers_iff]
  simp only [List.forall_mem_append, List.forall_mem_cons, unmarked_closedBy_iff hopen hevent]

/-- Every other member of the broker with the label of the record stands for the same broker. -/
theorem SourceRecord.broker_eq {updatedAt : Int} {brokers : Brokers EndpointRecord}
    {broker : String × List EndpointRecord} {record : EndpointRecord} {name : String}
    {address : IpAddress}
    (hsource : SourceRecord unicode invalidation.endpoint updatedAt brokers broker record name
      address)
    (hnodup : (brokers.map fun broker => brokerKey unicode broker.1).Nodup)
    {other : String × List EndpointRecord} (hother : other ∈ namedBrokers id brokers)
    (hlabel : other.1 = stripText invalidation.endpoint.brokerLabel) :
    other = (stripText broker.1, broker.2) := by
  have hmem : other ∈ (namedBrokers id brokers).filter fun other => brokerKey unicode other.1 =
      brokerKey unicode (stripText invalidation.endpoint.brokerLabel) := by
    refine List.mem_filter.mpr ⟨hother, ?_⟩
    rw [hlabel]
    simp
  rw [hsource.brokers_filter hnodup] at hmem
  exact List.mem_singleton.mp hmem

section

variable {updatedAt : Int} {brokers : Brokers EndpointRecord}
  {broker : String × List EndpointRecord} {record : EndpointRecord} {name : String}
  {address : IpAddress}
  (hsource : SourceRecord unicode invalidation.endpoint updatedAt brokers broker record name
    address)
include hsource

theorem SourceRecord.madeFrom : MadeFrom invalidation.endpoint record := by
  refine ⟨hsource.verified, address, hsource.host, ?_⟩
  rw [hsource.made]
  rfl

theorem SourceRecord.eq_of_madeFrom {other : EndpointRecord} (hmem : other ∈ broker.2)
    (h : MadeFrom invalidation.endpoint other) : other = record := by
  obtain ⟨hverified, found, -, hmade⟩ := h
  have hname := congrArg VerifiedBrokerEndpoint.serverName hmade
  rw [hsource.serverName] at hname
  obtain ⟨raw, hraw, hstrip⟩ := Option.map_eq_some_iff.mp hname
  refine eq_of_countP_le_one hsource.alone hmem hsource.record_mem ?_ hsource.answers
  unfold EndpointRecord.answers
  rw [hraw]
  simp [hverified, hstrip]

variable (hnodup : (brokers.map fun broker => brokerKey unicode broker.1).Nodup)
include hnodup

theorem SourceRecord.written_iff :
    (∀ other ∈ namedBrokers id brokers, other.1 = stripText invalidation.endpoint.brokerLabel →
      ∀ twin ∈ other.2, MadeFrom invalidation.endpoint twin →
        twin.host.compressed = true ∧ twin.serverName = invalidation.endpoint.serverName) ↔
      CanonicalRecord record name := by
  have hlabel : stripText broker.1 = stripText invalidation.endpoint.brokerLabel := by
    rw [hsource.made]
    rfl
  have hmem : (stripText broker.1, broker.2) ∈ namedBrokers id brokers := by
    rw [namedBrokers_id]
    exact List.mem_map_of_mem hsource.broker_mem
  have hserver : record.serverName = invalidation.endpoint.serverName ↔ stripText name = name := by
    rw [hsource.server, hsource.serverName, Option.some.injEq]
    exact eq_comm
  constructor
  · intro h
    obtain ⟨hhost, hname⟩ := h _ hmem hlabel record hsource.record_mem hsource.madeFrom
    exact ⟨hhost, hserver.mp hname⟩
  · intro h other hother hsame twin htwin hmade
    rw [hsource.broker_eq hnodup hother hsame] at htwin
    rw [hsource.eq_of_madeFrom htwin hmade]
    exact ⟨h.1, hserver.mpr h.2⟩

theorem SourceRecord.fresh_iff {earlier later : List EndpointRecord}
    (hrecords : broker.2 = earlier ++ record :: later) :
    (∀ other ∈ namedBrokers id brokers, other.1 = stripText invalidation.endpoint.brokerLabel →
      ∀ twin ∈ other.2, twin.closedBefore invalidation = false) ↔
      (earlier ++ later).countP (EndpointRecord.closedBefore invalidation) = 0 := by
  have hlabel : stripText broker.1 = stripText invalidation.endpoint.brokerLabel := by
    rw [hsource.made]
    rfl
  have hmem : (stripText broker.1, broker.2) ∈ namedBrokers id brokers := by
    rw [namedBrokers_id]
    exact List.mem_map_of_mem hsource.broker_mem
  have hopen : record.closedBefore invalidation = false := by
    unfold EndpointRecord.closedBefore
    simp [hsource.verified]
  rw [List.countP_eq_zero]
  constructor
  · intro h twin htwin
    have htwin' : twin ∈ broker.2 := by
      rw [hrecords]
      simp only [List.mem_append, List.mem_cons] at htwin ⊢
      tauto
    rw [h _ hmem hlabel twin htwin']
    exact Bool.false_ne_true
  · intro h other hother hsame twin htwin
    rw [hsource.broker_eq hnodup hother hsame] at htwin
    rw [show (stripText broker.1, broker.2).2 = earlier ++ record :: later from hrecords] at htwin
    by_cases heq : twin = record
    · rw [heq]
      exact hopen
    · have hin : twin ∈ earlier ++ later := by
        simp only [List.mem_append, List.mem_cons] at htwin ⊢
        tauto
      simpa using h twin hin

end

/-- A call that can be prepared returns if the guard lets it write and no record was closed by the
same event before. -/
theorem SourceRecord.returned_iff {updatedAt : Int} {brokers : Brokers EndpointRecord}
    {broker : String × List EndpointRecord} {record : EndpointRecord} {name : String}
    {address : IpAddress} {front back : Brokers EndpointRecord}
    {earlier later : List EndpointRecord}
    (hsource : SourceRecord unicode invalidation.endpoint updatedAt brokers broker record name
      address)
    (hregistry : files.registry = .v3 updatedAt brokers) (hrequest : ValidRequest invalidation)
    (hnodup : (brokers.map fun broker => brokerKey unicode broker.1).Nodup)
    (hplaced : PlacedRecord unicode invalidation (namedBrokers id brokers) (stripText broker.1)
      record front earlier later back)
    (hcanonical : CanonicalRecord record name) :
    (invalidateEndpoint unicode invalidation
      (guardedCall floats hosts unicode now files invalidation) files).1 = .returned () ↔
      Unmarked (brokersDocument hosts (namedBrokers id brokers)) ∧
        (earlier ++ later).countP (EndpointRecord.closedBefore invalidation) = 0 := by
  have hprepared := @SourceRecord.prepared unicode invalidation updatedAt brokers broker record name
    address now files front back earlier later hsource hregistry hrequest hnodup hplaced hcanonical
  have hopen : record.invalidationEventId = none :=
    open_of_parse (hsource.accepted.parsed broker hsource.broker_mem record hsource.record_mem)
      hsource.verified
  have hanswer : (guardedCall floats hosts unicode now files invalidation).registryWrite =
      guardAnswer "secrets are forbidden in state" floats (Registry.document hosts
        ⟨max updatedAt invalidation.invalidatedAt,
          withClosed invalidation (stripText broker.1) record front earlier later back⟩) := by
    unfold guardedCall
    rw [hprepared]
  have hserver : record.serverName = invalidation.endpoint.serverName := by
    rw [hsource.server, hsource.serverName, hcanonical.2]
  have hhost : record.host = { address := some invalidation.endpoint.host } :=
    (of_decide_eq_true (hsource.isTarget_iff.mpr hcanonical)).2.1
  have hcount := @persistedMatches_withClosed invalidation (stripText broker.1) record front back
    earlier later hplaced.others hserver hhost (by rw [hsource.made]; rfl)
    (by rw [hsource.made]; rfl)
  have hmarks := @unmarked_withClosed_iff invalidation hosts (stripText broker.1) record front back
    earlier later hopen hrequest.event
  rw [← hplaced.split] at hmarks
  rw [← hmarks]
  by_cases hguard : Unmarked (brokersDocument hosts
      (withClosed invalidation (stripText broker.1) record front earlier later back))
  · have hwrite := hanswer.trans (guardAnswer_ok
      (guardSecrets_ok_iff.mpr (unmarked_registry_iff.mpr hguard)))
    rw [invalidateEndpoint_written hprepared (hsource.closed_loads hrequest hnodup hplaced) hwrite
      rfl, hcount]
    simp [hguard]
  · have hwrite := hanswer.trans (guardAnswer_refused fun hok =>
      hguard (unmarked_registry_iff.mp (guardSecrets_ok_iff.mp hok)))
    have hraised := invalidateEndpoint_refused hprepared hwrite
    exact ⟨fun h => absurd h hraised, fun h => absurd h.1 hguard⟩

end Withdrawal

def loginHosts (_ : HostText) : String := "1.2.3.4"

theorem loginInvalidation_valid : ValidRequest loginInvalidation where
  reason := by decide
  time := by decide
  event := by decide +kernel

/-- An IPv6 address in a spelling that the resolver rewrites, as a migrated registry keeps it. -/
def spelledHost : HostText where
  address := some (.v6 0x20010DB8000000000000000000000001)
  compressed := false

def spelledRecord : EndpointRecord :=
  { promotedRecord (loginPromotion firstRun 1000) (.v6 0x20010DB8000000000000000000000001) with
    host := spelledHost }

def spelledFiles : EndpointFiles :=
  { firstPublished with registry := .v3 1000 [("Broker", [spelledRecord])] }

def spelledInvalidation : EndpointInvalidation :=
  { loginInvalidation with
    endpoint := spelledRecord.endpoint "Broker" (.v6 0x20010DB8000000000000000000000001) }

end TradeJournalWorker
