import TradeJournalWorker.EndpointDocuments
import TradeJournalWorker.EndpointGuarantee

namespace TradeJournalWorker

open FaultProgram

section Resolution

variable {unicode : Unicode}

/-- The record is verified for a server that folds like this one. -/
def EndpointRecord.answers (unicode : Unicode) (server : String) (record : EndpointRecord) :
    Bool :=
  record.status = .verified ∧ record.serverName.any fun name =>
    unicode.casefold (stripText name) = unicode.casefold server

/-- The records of a broker that answer are chosen from one by one. -/
theorem countP_answers {label server : String} {records : List EndpointRecord}
    {endpoints : List VerifiedBrokerEndpoint}
    (h : List.Forall₂ (fun record endpoint => parseRecord label record = .ok endpoint) records
      endpoints) :
    records.countP (EndpointRecord.answers unicode server) =
      ((records.zip endpoints).filterMap fun (record, endpoint) =>
        if record.status = .verified ∧ endpoint.serverName.any fun name =>
            unicode.casefold name = unicode.casefold server then
          some endpoint
        else none).length := by
  induction h with
  | nil => rfl
  | cons hparse _ ih =>
    obtain ⟨address, -, rfl⟩ := parseRecord_eq_ok hparse
    rw [List.countP_cons, ih, List.zip_cons_cons, List.filterMap_cons]
    unfold EndpointRecord.answers EndpointRecord.endpoint
    simp only [Option.any_map, decide_eq_true_eq]
    split
    · rfl
    · rfl

/-- No two records of a broker answer a request that the resolver settles. -/
theorem countP_le_one {updatedAt : Int} {brokers : Brokers EndpointRecord}
    {parsed : List (String × List (EndpointRecord × VerifiedBrokerEndpoint))}
    {request : Option String × String} {endpoint : VerifiedBrokerEndpoint}
    (hparsed : resolveBrokers unicode (.v3 updatedAt brokers) = .ok parsed)
    (hselected : selectVerified unicode request parsed = .ok endpoint)
    {broker : String × List EndpointRecord} (hbroker : broker ∈ brokers)
    (hkey : ∀ key, request.1 = some key → brokerKey unicode broker.1 = key) :
    broker.2.countP (EndpointRecord.answers unicode request.2) ≤ 1 := by
  obtain ⟨found, hfound, hparse⟩ := exists_of_mem_left
    (forall₂_of_mapM (resolveBrokers_v3 hparsed)) hbroker
  obtain ⟨hname, endpoints, hzip, hrecords⟩ := parseBroker_eq_ok hparse
  have hone := congrArg List.length (selectVerified_eq_ok hselected)
  have hasked : found ∈ parsed.filter fun broker => request.1.all (broker.1 = ·) := by
    refine List.mem_filter.mpr ⟨hfound, ?_⟩
    cases hrequest : request.1 with
    | none => rfl
    | some key =>
      rw [hname, hkey key hrequest]
      simp
  have hpart : found.2.Sublist
      ((parsed.filter fun broker => request.1.all (broker.1 = ·)).flatMap Prod.snd) := by
    rw [List.flatMap_def]
    exact List.sublist_flatten_of_mem (List.mem_map_of_mem hasked)
  rw [countP_answers hrecords, ← hzip]
  refine le_of_le_of_eq ?_ hone
  unfold verifiedEndpoints
  exact (hpart.filterMap _).length_le

/-- Whether a record parses does not depend on the label above it. -/
theorem parseRecord_isSome (label other : String) (record : EndpointRecord) :
    (parseRecord label record).toOption.isSome = (parseRecord other record).toOption.isSome := by
  unfold parseRecord
  split
  · rfl
  · split
    · rfl
    · split
      · rfl
      · rfl

/-- The brokers of a registry v3 before anyone looks at the keys together. -/
structure AcceptedBrokers (unicode : Unicode) (updatedAt : Int) (brokers : Brokers EndpointRecord) :
    Prop where
  positive : 0 < updatedAt
  named : ∀ broker ∈ brokers, validName broker.1 = true
  keyed : ∀ broker ∈ brokers, brokerKey unicode broker.1 ≠ ""
  parsed : ∀ broker ∈ brokers, ∀ record ∈ broker.2,
    (parseRecord broker.1 record).toOption.isSome = true

theorem accepted_of_resolve {updatedAt : Int} {brokers : Brokers EndpointRecord}
    {parsed : List (String × List (EndpointRecord × VerifiedBrokerEndpoint))}
    (h : resolveBrokers unicode (.v3 updatedAt brokers) = .ok parsed) :
    AcceptedBrokers unicode updatedAt brokers := by
  have hpositive : 0 < updatedAt := by
    unfold resolveBrokers at h
    simp only at h
    split at h
    · cases h
    · omega
  have hbrokers := forall₂_of_mapM (resolveBrokers_v3 h)
  have hbroker : ∀ broker ∈ brokers, validName broker.1 = true ∧
      brokerKey unicode broker.1 ≠ "" := by
    intro broker hmem
    obtain ⟨found, -, hparse⟩ := exists_of_mem_left hbrokers hmem
    unfold parseBroker at hparse
    obtain ⟨_, hname, hparse⟩ := except_bind_eq_ok hparse
    obtain ⟨_, hkey, -⟩ := except_bind_eq_ok hparse
    exact ⟨demand_eq_ok.mp hname, demand_eq_ok.mp hkey⟩
  refine ⟨hpositive, fun broker hmem => (hbroker broker hmem).1,
    fun broker hmem => (hbroker broker hmem).2, ?_⟩
  intro broker hmem record hrecord
  obtain ⟨found, -, hparse⟩ := exists_of_mem_left hbrokers hmem
  obtain ⟨-, endpoints, -, hrecords⟩ := parseBroker_eq_ok hparse
  obtain ⟨endpoint, -, hendpoint⟩ := exists_of_mem_left hrecords hrecord
  rw [hendpoint]
  rfl

theorem namedBrokers_id (brokers : Brokers EndpointRecord) :
    namedBrokers id brokers = brokers.map fun broker => (stripText broker.1, broker.2) := by
  unfold namedBrokers
  refine List.map_congr_left fun broker _ => ?_
  show (stripText broker.1, broker.2.map id) = _
  rw [List.map_id]

theorem keys_named (brokers : Brokers EndpointRecord) :
    (namedBrokers id brokers).map (fun broker => brokerKey unicode broker.1) =
      brokers.map fun broker => brokerKey unicode broker.1 := by
  rw [namedBrokers_id, List.map_map]
  exact List.map_congr_left fun broker _ => brokerKey_stripText broker.1

/-- `_load_registry` adds to the checks of the resolver that the keys are distinct. -/
theorem loadRegistry_v3_iff {now updatedAt : Int} {brokers : Brokers EndpointRecord}
    {registry : Registry} :
    loadRegistry unicode now (.v3 updatedAt brokers) = some registry ↔
      AcceptedBrokers unicode updatedAt brokers ∧
      (brokers.map fun broker => brokerKey unicode broker.1).Nodup ∧
      registry = ⟨updatedAt, namedBrokers id brokers⟩ := by
  have hnormalized : ∀ named, normalizeBrokers unicode id brokers = some named ↔
      ((∀ broker ∈ brokers, validName broker.1 = true) ∧
        (∀ broker ∈ brokers, brokerKey unicode broker.1 ≠ "") ∧
        (brokers.map fun broker => brokerKey unicode broker.1).Nodup ∧
        ∀ broker ∈ brokers, ∀ record ∈ broker.2,
          (parseRecord broker.1 record).toOption.isSome = true) ∧
        namedBrokers id brokers = named := by
    intro named
    unfold normalizeBrokers
    have hnamed : (brokers.map fun (label, records) => (stripText label, records.map id)) =
        namedBrokers id brokers := rfl
    rw [Option.ite_none_right_eq_some, Option.some.injEq, hnamed, keys_named, namedBrokers_id]
    simp only [List.all_map, List.all_eq_true, Function.comp, decide_eq_true_eq,
      brokerKey_stripText]
    refine and_congr (and_congr Iff.rfl (and_congr Iff.rfl (and_congr Iff.rfl ?_))) Iff.rfl
    refine forall₂_congr fun broker _ => forall₂_congr fun record _ => ?_
    rw [parseRecord_isSome (stripText broker.1) broker.1]
  unfold loadRegistry
  rw [Option.ite_none_right_eq_some]
  simp only [Option.map_eq_some_iff, hnormalized]
  constructor
  · rintro ⟨hpositive, named, ⟨⟨hnamed, hkeyed, hnodup, hparsed⟩, rfl⟩, rfl⟩
    exact ⟨⟨hpositive, hnamed, hkeyed, hparsed⟩, hnodup, rfl⟩
  · rintro ⟨⟨hpositive, hnamed, hkeyed, hparsed⟩, hnodup, rfl⟩
    exact ⟨hpositive, _, ⟨⟨hnamed, hkeyed, hnodup, hparsed⟩, rfl⟩, rfl⟩

end Resolution

section Closing

variable {unicode : Unicode} {invalidation : EndpointInvalidation}

theorem parseRecord_isSome_iff {label : String} {record : EndpointRecord} :
    (parseRecord label record).toOption.isSome = true ↔
      (∃ address, record.host.address = some address ∧ address.usable = true) ∧
        record.fieldError = none ∧ record.invalidationError = none := by
  unfold parseRecord
  cases record.host.address with
  | none => simp [Except.toOption]
  | some address =>
    by_cases husable : address.usable = true
    · cases herror : record.fieldError.or record.invalidationError with
      | none =>
        have herrors := Option.or_eq_none_iff.mp herror
        simp [husable, herrors, Except.toOption]
      | some error =>
        have herrors : ¬ (record.fieldError = none ∧ record.invalidationError = none) := by
          rw [← Option.or_eq_none_iff, herror]
          simp
        simp only [husable, not_true_eq_false, if_false]
        constructor
        · intro h
          cases h
        · rintro ⟨-, hnone⟩
          exact absurd hnone herrors
    · simp [husable, Except.toOption]

theorem passes_iff_none {condition : Prop} [Decidable condition] {error : String}
    {rest : Option String} :
    (if condition then some error else rest) = none ↔ ¬ condition ∧ rest = none := by
  split
  next h => simp [h]
  next h => simp [h]

theorem failure_not_legacy (h : invalidation.reason ∈ endpointFailureReasons) :
    invalidation.reason ≠ .legacyProvenanceInsufficient ∧
      invalidation.reason ≠ .legacyStatusMigration ∧
      invalidation.reason ≠ .supersededByNewVerification ∧ invalidation.reason ≠ .other := by
  unfold endpointFailureReasons at h
  simp only [List.mem_cons, List.not_mem_nil, or_false] at h
  rcases h with h | h | h | h | h
  all_goals rw [h]; decide

/-- A verified record still parses when it is closed. -/
theorem parse_closedBy {label : String} {record : EndpointRecord}
    (hparse : (parseRecord label record).toOption.isSome = true)
    (hverified : record.status = .verified)
    (hreason : invalidation.reason ∈ endpointFailureReasons)
    (hpositive : 0 < invalidation.invalidatedAt) (hevent : isUuid4 invalidation.eventId = true) :
    (parseRecord label (record.closedBy invalidation)).toOption.isSome = true := by
  obtain ⟨husable, hfields, -⟩ := parseRecord_isSome_iff.mp hparse
  obtain ⟨hfirst, hsecond, hthird, hfourth⟩ := failure_not_legacy hreason
  refine parseRecord_isSome_iff.mpr ⟨husable, ?_, ?_⟩
  · unfold EndpointRecord.fieldError EndpointRecord.legacyInvalid at hfields ⊢
    unfold EndpointRecord.closedBy
    simp only [hverified, hfirst, hsecond, Option.some.injEq, passes_iff_none] at hfields ⊢
    obtain ⟨hport, hprotocol, -, hmethod, -, hname, hrest⟩ := hfields
    refine ⟨hport, hprotocol, by decide, hmethod, ?_, ?_, ?_⟩
    · simp
    · simpa using hname
    · simpa using hrest
  · unfold EndpointRecord.invalidationError EndpointRecord.closedBy
    simp [hpositive, hevent, hthird, hfourth]

/-- A verified record has no event of its closing. -/
theorem open_of_parse {label : String} {record : EndpointRecord}
    (hparse : (parseRecord label record).toOption.isSome = true)
    (hverified : record.status = .verified) : record.invalidationEventId = none := by
  obtain ⟨-, -, hclosing⟩ := parseRecord_isSome_iff.mp hparse
  unfold EndpointRecord.invalidationError at hclosing
  simp only [hverified] at hclosing
  have hnone : record.invalidatedAt = none ∧ record.invalidationReason = none ∧
      record.invalidationEventId = none := by simpa using hclosing
  exact hnone.2.2

theorem name_of_parse {label name : String} {record : EndpointRecord}
    (hparse : (parseRecord label record).toOption.isSome = true)
    (hname : record.serverName = some name) :
    validName name = true := by
  obtain ⟨-, hfields, -⟩ := parseRecord_isSome_iff.mp hparse
  unfold EndpointRecord.fieldError at hfields
  simp only [passes_iff_none] at hfields
  obtain ⟨-, -, -, -, -, hserver, -⟩ := hfields
  simpa [hname] using hserver

theorem invalidate_eq_closedBy {record : EndpointRecord}
    (h : record.isTarget unicode invalidation = true) :
    record.invalidate unicode invalidation = record.closedBy invalidation := by
  unfold EndpointRecord.invalidate
  rw [if_pos h]
  rfl

end Closing

section Sources

variable {unicode : Unicode} {invalidation : EndpointInvalidation} {updatedAt : Int}
  {brokers : Brokers EndpointRecord} {broker : String × List EndpointRecord}
  {record : EndpointRecord} {name : String} {address : IpAddress}

/-- The record that the resolver made the endpoint from. -/
structure SourceRecord (unicode : Unicode) (endpoint : VerifiedBrokerEndpoint) (updatedAt : Int)
    (brokers : Brokers EndpointRecord) (broker : String × List EndpointRecord)
    (record : EndpointRecord) (name : String) (address : IpAddress) : Prop where
  accepted : AcceptedBrokers unicode updatedAt brokers
  broker_mem : broker ∈ brokers
  record_mem : record ∈ broker.2
  verified : record.status = .verified
  server : record.serverName = some name
  host : record.host.address = some address
  made : endpoint = record.endpoint broker.1 address
  alone : broker.2.countP (EndpointRecord.answers unicode (stripText name)) ≤ 1

theorem answers_congr {server other : String}
    (h : unicode.casefold server = unicode.casefold other) :
    EndpointRecord.answers unicode server = EndpointRecord.answers unicode other := by
  funext record
  unfold EndpointRecord.answers
  rw [h]

theorem source_of_resolve {files : EndpointFiles} {brokerLabel : Option String}
    {serverName : String} {endpoint : VerifiedBrokerEndpoint}
    (h : resolveEndpoint unicode files brokerLabel serverName = .ok endpoint) :
    ∃ updatedAt brokers broker record name address, files.registry = .v3 updatedAt brokers ∧
      SourceRecord unicode endpoint updatedAt brokers broker record name address := by
  obtain ⟨updatedAt, brokers, request, parsed, broker, record, address, hregistry, hparsed,
    hselected, hmatch, haddress, hendpoint⟩ := resolveEndpoint_matching h
  obtain ⟨name, hname, hfold⟩ := hmatch.server
  have halone := countP_le_one hparsed hselected hmatch.broker_mem hmatch.key
  rw [← answers_congr hfold] at halone
  exact ⟨updatedAt, brokers, broker, record, name, address, hregistry,
    { accepted := accepted_of_resolve hparsed
      broker_mem := hmatch.broker_mem
      record_mem := hmatch.record_mem
      verified := hmatch.verified
      server := hname
      host := haddress
      made := hendpoint
      alone := halone }⟩

theorem eq_of_countP_le_one {α : Type} {p : α → Bool} {xs : List α} {a b : α}
    (h : xs.countP p ≤ 1) (ha : a ∈ xs) (hb : b ∈ xs) (hpa : p a = true) (hpb : p b = true) :
    a = b := by
  rw [List.countP_eq_length_filter] at h
  have hfirst : a ∈ xs.filter p := List.mem_filter.mpr ⟨ha, hpa⟩
  have hsecond : b ∈ xs.filter p := List.mem_filter.mpr ⟨hb, hpb⟩
  cases hfilter : xs.filter p with
  | nil =>
    rw [hfilter] at hfirst
    exact absurd hfirst List.not_mem_nil
  | cons x rest =>
    rw [hfilter] at h hfirst hsecond
    obtain rfl : rest = [] := List.eq_nil_of_length_eq_zero (by simpa using h)
    rw [List.mem_singleton.mp hfirst, List.mem_singleton.mp hsecond]

/-- The record is written as the resolver writes its host and its server. -/
def CanonicalRecord (record : EndpointRecord) (name : String) : Prop :=
  record.host.compressed = true ∧ stripText name = name

section

variable (hsource : SourceRecord unicode invalidation.endpoint updatedAt brokers broker record name
  address)
include hsource

theorem SourceRecord.serverName : invalidation.endpoint.serverName = some (stripText name) := by
  rw [hsource.made]
  exact congrArg (Option.map stripText) hsource.server

theorem SourceRecord.answers_of_isTarget {other : EndpointRecord}
    (h : other.isTarget unicode invalidation = true) :
    other.answers unicode (stripText name) = true := by
  obtain ⟨hfor, -⟩ := of_decide_eq_true h
  obtain ⟨hverified, raw, hraw, hfold⟩ := EndpointRecord.verifiedAs_iff.mp hfor
  rw [hsource.serverName, Option.getD_some, stripText_idem] at hfold
  have hstripped : stripText raw = raw := stripText_of_casefold hfold (stripText_idem name)
  unfold EndpointRecord.answers
  rw [hraw]
  simp [hverified, hstripped, hfold]

theorem SourceRecord.answers : record.answers unicode (stripText name) = true := by
  unfold EndpointRecord.answers
  rw [hsource.server]
  simp [hsource.verified]

theorem SourceRecord.isTarget_iff :
    record.isTarget unicode invalidation = true ↔ CanonicalRecord record name := by
  have hserver := hsource.serverName
  unfold EndpointRecord.isTarget CanonicalRecord
  simp only [hserver, Option.getD_some, stripText_idem]
  rw [decide_eq_true_eq, hsource.made]
  constructor
  · rintro ⟨hfor, hhost, -⟩
    obtain ⟨-, raw, hraw, hfold⟩ := EndpointRecord.verifiedAs_iff.mp hfor
    rw [hsource.server] at hraw
    obtain rfl := Option.some.inj hraw
    rw [hhost]
    exact ⟨rfl, stripText_of_casefold hfold (stripText_idem name)⟩
  · rintro ⟨hcompressed, hname⟩
    refine ⟨?_, ?_, rfl, rfl, rfl⟩
    · refine EndpointRecord.verifiedAs_iff.mpr ⟨hsource.verified, name, hsource.server, ?_⟩
      rw [hname]
    · have haddress := hsource.host
      generalize record.host = host at haddress hcompressed ⊢
      obtain ⟨found, compressed⟩ := host
      simp only at haddress hcompressed
      rw [haddress, hcompressed]
      rfl

/-- What `invalidate` takes for its target is the record that the endpoint was made from. -/
theorem SourceRecord.eq_of_isTarget {other : EndpointRecord} (hmem : other ∈ broker.2)
    (h : other.isTarget unicode invalidation = true) : other = record :=
  eq_of_countP_le_one hsource.alone hmem hsource.record_mem (hsource.answers_of_isTarget h)
    hsource.answers

theorem SourceRecord.filter_isTarget (h : CanonicalRecord record name) :
    broker.2.filter (EndpointRecord.isTarget unicode invalidation) = [record] := by
  have hmem : record ∈ broker.2.filter (EndpointRecord.isTarget unicode invalidation) :=
    List.mem_filter.mpr ⟨hsource.record_mem, hsource.isTarget_iff.mpr h⟩
  have hlength : (broker.2.filter (EndpointRecord.isTarget unicode invalidation)).length ≤ 1 := by
    rw [← List.countP_eq_length_filter]
    refine le_trans (List.countP_mono_left fun other _ hother => ?_) hsource.alone
    exact hsource.answers_of_isTarget hother
  cases hfilter : broker.2.filter (EndpointRecord.isTarget unicode invalidation) with
  | nil =>
    rw [hfilter] at hmem
    exact absurd hmem List.not_mem_nil
  | cons other rest =>
    rw [hfilter] at hmem hlength
    obtain rfl : rest = [] := List.eq_nil_of_length_eq_zero (by simpa using hlength)
    rw [List.mem_singleton.mp hmem]

variable (hnodup : (brokers.map fun broker => brokerKey unicode broker.1).Nodup)
include hnodup

theorem SourceRecord.brokers_filter :
    (namedBrokers id brokers).filter (fun other => brokerKey unicode other.1 =
      brokerKey unicode (stripText invalidation.endpoint.brokerLabel)) =
        [(stripText broker.1, broker.2)] := by
  have hmem : (stripText broker.1, broker.2) ∈ namedBrokers id brokers := by
    rw [namedBrokers_id]
    exact List.mem_map_of_mem hsource.broker_mem
  have hlabel : invalidation.endpoint.brokerLabel = broker.1 := by
    rw [hsource.made]
    rfl
  rw [hlabel]
  exact filter_eq_singleton (keys_named brokers ▸ hnodup) hmem

theorem SourceRecord.brokerMatches_eq :
    brokerMatches unicode (stripText invalidation.endpoint.brokerLabel) (namedBrokers id brokers) =
      [stripText broker.1] := by
  rw [TradeJournalWorker.brokerMatches_eq, hsource.brokers_filter hnodup]
  rfl

theorem SourceRecord.lookup_eq :
    (namedBrokers id brokers).lookup (stripText broker.1) = some broker.2 := by
  refine lookup_of_filter ?_ (hsource.brokers_filter hnodup)
  rw [hsource.made]
  rfl

/-- Where the record stands: below a label and among records that are not to be changed. -/
structure PlacedRecord (unicode : Unicode) (invalidation : EndpointInvalidation)
    (brokers : Brokers EndpointRecord) (label : String) (record : EndpointRecord)
    (front : Brokers EndpointRecord) (earlier later : List EndpointRecord)
    (back : Brokers EndpointRecord) : Prop where
  split : brokers = front ++ (label, earlier ++ record :: later) :: back
  others : ∀ other ∈ front ++ back, other.1 ≠ label
  target : record.isTarget unicode invalidation = true
  apart : ∀ other ∈ earlier ++ later, other.isTarget unicode invalidation = false

omit hsource hnodup in
theorem append_of_filter {α : Type} {p : α → Bool} {xs : List α} {x : α}
    (h : xs.filter p = [x]) : ∃ earlier later, xs = earlier ++ x :: later ∧
      ∀ y ∈ earlier ++ later, p y = false := by
  obtain ⟨earlier, later, hsplit, hearlier, -, hlater⟩ := List.filter_eq_cons_iff.mp h
  refine ⟨earlier, later, hsplit, fun y hy => ?_⟩
  rcases List.mem_append.mp hy with hy | hy
  · simpa using hearlier y hy
  · simpa using List.filter_eq_nil_iff.mp hlater y hy

theorem SourceRecord.placed (h : CanonicalRecord record name) : ∃ front earlier later back,
    broker.2 = earlier ++ record :: later ∧
    PlacedRecord unicode invalidation (namedBrokers id brokers) (stripText broker.1) record front
      earlier later back := by
  obtain ⟨earlier, later, hrecords, hapart⟩ := append_of_filter (hsource.filter_isTarget h)
  obtain ⟨front, back, hsplit, hothers⟩ := append_of_filter (hsource.brokers_filter hnodup)
  refine ⟨front, earlier, later, back, hrecords, ?_, ?_, hsource.isTarget_iff.mpr h, hapart⟩
  · rw [hsplit, hrecords]
  · intro other hmem heq
    have hother := hothers other hmem
    rw [heq, hsource.made] at hother
    simp [EndpointRecord.endpoint] at hother

end

theorem changeBroker_split {front back : Brokers EndpointRecord} {label : String}
    {records : List EndpointRecord} (change : List EndpointRecord → List EndpointRecord)
    (h : ∀ other ∈ front ++ back, other.1 ≠ label) :
    changeBroker label change (front ++ (label, records) :: back) =
      front ++ (label, change records) :: back := by
  have hmem : label ∈ (front ++ (label, records) :: back).map Prod.fst := by simp
  have hkept : ∀ part : Brokers EndpointRecord, (∀ other ∈ part, other.1 ≠ label) →
      (part.map fun other => if other.1 = label then (label, change other.2) else other) =
        part := by
    intro part hpart
    refine (List.map_congr_left fun other hother => ?_).trans (List.map_id part)
    exact if_neg (hpart other hother)
  unfold changeBroker
  rw [if_pos hmem, List.map_append, List.map_cons, if_pos rfl,
    hkept front fun other hother => h other (List.mem_append_left _ hother),
    hkept back fun other hother => h other (List.mem_append_right _ hother)]

/-- The brokers with the record closed and everything else as it was. -/
def withClosed (invalidation : EndpointInvalidation) (label : String) (record : EndpointRecord)
    (front : Brokers EndpointRecord) (earlier later : List EndpointRecord)
    (back : Brokers EndpointRecord) : Brokers EndpointRecord :=
  front ++ (label, earlier ++ record.closedBy invalidation :: later) :: back

theorem PlacedRecord.changed {label : String} {front back : Brokers EndpointRecord}
    {earlier later : List EndpointRecord}
    (h : PlacedRecord unicode invalidation brokers label record front earlier later back) :
    changeBroker label (List.map (EndpointRecord.invalidate unicode invalidation)) brokers =
      withClosed invalidation label record front earlier later back := by
  have hkept : ∀ part : List EndpointRecord, (∀ other ∈ part, other ∈ earlier ++ later) →
      part.map (EndpointRecord.invalidate unicode invalidation) = part := by
    intro part hpart
    refine (List.map_congr_left fun other hother => ?_).trans (List.map_id part)
    unfold EndpointRecord.invalidate
    rw [if_neg (by simpa using h.apart other (hpart other hother))]
    rfl
  unfold withClosed
  rw [h.split, changeBroker_split _ h.others, List.map_append, List.map_cons,
    hkept earlier fun other hother => List.mem_append_left _ hother,
    hkept later fun other hother => List.mem_append_right _ hother,
    invalidate_eq_closedBy h.target]

theorem AcceptedBrokers.namedBrokers (h : AcceptedBrokers unicode updatedAt brokers) :
    AcceptedBrokers unicode updatedAt (TradeJournalWorker.namedBrokers id brokers) := by
  rw [namedBrokers_id]
  refine ⟨h.positive, ?_, ?_, ?_⟩
  · intro other hother
    obtain ⟨source, hmem, rfl⟩ := List.mem_map.mp hother
    exact validName_stripText (h.named source hmem)
  · intro other hother
    obtain ⟨source, hmem, rfl⟩ := List.mem_map.mp hother
    rw [brokerKey_stripText]
    exact h.keyed source hmem
  · intro other hother record hrecord
    obtain ⟨source, hmem, rfl⟩ := List.mem_map.mp hother
    rw [parseRecord_isSome _ source.1]
    exact h.parsed source hmem record hrecord

section Preparation

variable {now : Int} {files : EndpointFiles} {label : String} {front back : Brokers EndpointRecord}
  {earlier later : List EndpointRecord}

theorem PlacedRecord.keys
    (h : PlacedRecord unicode invalidation brokers label record front earlier later back) :
    (withClosed invalidation label record front earlier later back).map
        (fun broker => brokerKey unicode broker.1) =
      brokers.map fun broker => brokerKey unicode broker.1 := by
  unfold withClosed
  rw [h.split]
  simp only [List.map_append, List.map_cons]

theorem PlacedRecord.accepted
    (h : PlacedRecord unicode invalidation brokers label record front earlier later back)
    (haccepted : AcceptedBrokers unicode updatedAt brokers) (hverified : record.status = .verified)
    (hreason : invalidation.reason ∈ endpointFailureReasons)
    (hpositive : 0 < invalidation.invalidatedAt) (hevent : isUuid4 invalidation.eventId = true) :
    AcceptedBrokers unicode (max updatedAt invalidation.invalidatedAt)
      (withClosed invalidation label record front earlier later back) := by
  have hold := h.split ▸ haccepted
  have hmem : (label, earlier ++ record :: later) ∈
      front ++ (label, earlier ++ record :: later) :: back := by simp
  have hin : ∀ broker ∈ withClosed invalidation label record front earlier later back,
      broker = (label, earlier ++ record.closedBy invalidation :: later) ∨
        broker ∈ front ++ (label, earlier ++ record :: later) :: back := by
    intro broker hbroker
    unfold withClosed at hbroker
    simp only [List.mem_append, List.mem_cons] at hbroker ⊢
    tauto
  refine ⟨lt_max_of_lt_right hpositive, ?_, ?_, ?_⟩
  · intro broker hbroker
    rcases hin broker hbroker with rfl | hbroker
    · have hnamed := hold.named _ hmem
      exact hnamed
    · exact hold.named _ hbroker
  · intro broker hbroker
    rcases hin broker hbroker with rfl | hbroker
    · have hkeyed := hold.keyed _ hmem
      exact hkeyed
    · exact hold.keyed _ hbroker
  · intro broker hbroker other hother
    rcases hin broker hbroker with rfl | hbroker
    · have hparsed := hold.parsed _ hmem
      rcases List.mem_append.mp hother with hother | hother
      · exact hparsed other (List.mem_append_left _ hother)
      · rcases List.mem_cons.mp hother with rfl | hother
        · have hrecord := hparsed record (by simp)
          exact parse_closedBy hrecord hverified hreason hpositive hevent
        · exact hparsed other (by simp [hother])
    · exact hold.parsed _ hbroker other hother

/-- What the caller of `invalidate` has to bring along. -/
structure ValidRequest (invalidation : EndpointInvalidation) : Prop where
  reason : invalidation.reason ∈ endpointFailureReasons
  time : invalidation.endpoint.observedAt ≤ invalidation.invalidatedAt
  event : isUuid4 invalidation.eventId = true

theorem SourceRecord.positive
    (hsource : SourceRecord unicode invalidation.endpoint updatedAt brokers broker record name
      address)
    (hrequest : ValidRequest invalidation) : 0 < invalidation.invalidatedAt := by
  have hparse := hsource.accepted.parsed broker hsource.broker_mem record hsource.record_mem
  obtain ⟨-, hfields, -⟩ := parseRecord_isSome_iff.mp hparse
  unfold EndpointRecord.fieldError at hfields
  simp only [passes_iff_none] at hfields
  obtain ⟨-, -, -, -, -, -, hobserved, -⟩ := hfields
  have htime := hrequest.time
  rw [hsource.made] at htime
  have hsame : (record.endpoint broker.1 address).observedAt = record.observedAt := rfl
  omega

theorem SourceRecord.closed_loads
    (hsource : SourceRecord unicode invalidation.endpoint updatedAt brokers broker record name
      address)
    (hrequest : ValidRequest invalidation)
    (hnodup : (brokers.map fun broker => brokerKey unicode broker.1).Nodup)
    (hplaced : PlacedRecord unicode invalidation (TradeJournalWorker.namedBrokers id brokers)
      (stripText broker.1) record front earlier later back) :
    (loadRegistry unicode now (.v3 (max updatedAt invalidation.invalidatedAt)
      (withClosed invalidation (stripText broker.1) record front earlier later back))).isSome =
        true := by
  have haccepted := hplaced.accepted hsource.accepted.namedBrokers hsource.verified
    hrequest.reason (hsource.positive hrequest) hrequest.event
  have hkeys := hplaced.keys
  rw [keys_named] at hkeys
  exact Option.isSome_of_eq_some (loadRegistry_v3_iff.mpr ⟨haccepted, hkeys ▸ hnodup, rfl⟩)

/-- The preparation of a request that meets no obstacle. -/
theorem SourceRecord.prepared
    (hsource : SourceRecord unicode invalidation.endpoint updatedAt brokers broker record name
      address)
    (hregistry : files.registry = .v3 updatedAt brokers) (hrequest : ValidRequest invalidation)
    (hnodup : (brokers.map fun broker => brokerKey unicode broker.1).Nodup)
    (hplaced : PlacedRecord unicode invalidation (TradeJournalWorker.namedBrokers id brokers)
      (stripText broker.1) record front earlier later back)
    (hcanonical : CanonicalRecord record name) :
    prepareInvalidation unicode now files invalidation =
      .ok (⟨max updatedAt invalidation.invalidatedAt,
        withClosed invalidation (stripText broker.1) record front earlier later back⟩,
        stripText broker.1, record) := by
  have hpositive := hsource.positive hrequest
  have hlabel : invalidation.endpoint.brokerLabel = broker.1 := by
    rw [hsource.made]
    rfl
  have hname : validName invalidation.endpoint.brokerLabel = true := by
    rw [hlabel]
    exact hsource.accepted.named broker hsource.broker_mem
  have hserver : invalidation.endpoint.serverName.any validName = true := by
    have hparse := hsource.accepted.parsed broker hsource.broker_mem record hsource.record_mem
    rw [hsource.serverName, Option.any_some]
    exact validName_stripText (name_of_parse hparse hsource.server)
  have hpresent : files.registry ≠ .missing := by
    rw [hregistry]
    intro h
    cases h
  have hload : loadRegistry unicode now files.registry =
      some ⟨updatedAt, TradeJournalWorker.namedBrokers id brokers⟩ := by
    rw [hregistry]
    exact loadRegistry_v3_iff.mpr ⟨hsource.accepted, hnodup, rfl⟩
  have hrecords : ((TradeJournalWorker.namedBrokers id brokers).lookup (stripText broker.1)).getD []
      = broker.2 := by
    rw [hsource.lookup_eq hnodup]
    rfl
  unfold prepareInvalidation
  rw [demand_bind hname, demand_bind hserver, demand_bind hrequest.reason,
    demand_bind ⟨hpositive, hrequest.event⟩, demand_bind hpresent, orRaise_bind hload,
    demand_bind hrequest.time, theOnly_bind (hsource.brokerMatches_eq hnodup),
    theOnly_bind (hrecords ▸ hsource.filter_isTarget hcanonical), hplaced.changed,
    demand_bind (hsource.closed_loads hrequest hnodup hplaced)]
  rfl

/-- A preparation that goes through had distinct keys and a record in the resolver's spelling. -/
theorem SourceRecord.canonical_of_prepared
    (hsource : SourceRecord unicode invalidation.endpoint updatedAt brokers broker record name
      address)
    (hregistry : files.registry = .v3 updatedAt brokers)
    {prepared : Registry × String × EndpointRecord}
    (h : prepareInvalidation unicode now files invalidation = .ok prepared) :
    (brokers.map fun broker => brokerKey unicode broker.1).Nodup ∧ CanonicalRecord record name := by
  unfold prepareInvalidation at h
  obtain ⟨_, -, h⟩ := except_bind_eq_ok h
  obtain ⟨_, -, h⟩ := except_bind_eq_ok h
  obtain ⟨_, -, h⟩ := except_bind_eq_ok h
  obtain ⟨_, -, h⟩ := except_bind_eq_ok h
  obtain ⟨_, -, h⟩ := except_bind_eq_ok h
  obtain ⟨loaded, hloaded, h⟩ := except_bind_eq_ok h
  obtain ⟨_, -, h⟩ := except_bind_eq_ok h
  obtain ⟨found, hfound, h⟩ := except_bind_eq_ok h
  obtain ⟨target, htarget, -⟩ := except_bind_eq_ok h
  rw [hregistry] at hloaded
  obtain ⟨-, hnodup, rfl⟩ := loadRegistry_v3_iff.mp (orRaise_eq_ok.mp hloaded)
  have hlabel := theOnly_eq_ok hfound
  rw [hsource.brokerMatches_eq hnodup] at hlabel
  obtain rfl : stripText broker.1 = found := (List.cons.inj hlabel).1
  have hone := theOnly_eq_ok htarget
  rw [hsource.lookup_eq hnodup] at hone
  have hmem : target ∈ broker.2.filter (EndpointRecord.isTarget unicode invalidation) := by
    rw [show broker.2.filter (EndpointRecord.isTarget unicode invalidation) = [target] from hone]
    exact List.mem_singleton_self target
  obtain ⟨htargetMem, hisTarget⟩ := List.mem_filter.mp hmem
  have hsame := hsource.eq_of_isTarget htargetMem hisTarget
  rw [hsame] at hisTarget
  exact ⟨hnodup, hsource.isTarget_iff.mp hisTarget⟩

end Preparation

end Sources

end TradeJournalWorker
