import TradeJournalWorker.EndpointPublication
import TradeJournalWorker.SecretGuard

namespace TradeJournalWorker

/-- `other` stands for the texts that no check accepts. -/
def EndpointStatus.text : EndpointStatus → String
  | verified => "VERIFIED"
  | invalid => "INVALID"
  | superseded => "SUPERSEDED"
  | candidate => "CANDIDATE"
  | metaquotesCdn => "METAQUOTES_CDN"
  | expired => "EXPIRED"
  | other => ""

def InvalidationReason.text : InvalidationReason → String
  | connectionFailed => "ENDPOINT_CONNECTION_FAILED"
  | connectionRefused => "ENDPOINT_CONNECTION_REFUSED"
  | protocolIncompatible => "ENDPOINT_PROTOCOL_INCOMPATIBLE"
  | serverUnrecognized => "ENDPOINT_SERVER_UNRECOGNIZED"
  | serverIdentityMismatch => "SERVER_IDENTITY_MISMATCH"
  | supersededByNewVerification => "SUPERSEDED_BY_NEW_VERIFICATION"
  | legacyProvenanceInsufficient => "LEGACY_PROVENANCE_INSUFFICIENT"
  | legacyStatusMigration => "LEGACY_STATUS_MIGRATION"
  | other => ""

def Confidence.text : Confidence → String
  | low => "LOW"
  | medium => "MEDIUM"
  | high => "HIGH"
  | other => ""

def textOrNull (value : Option String) : JsonValue := value.elim .null .str

def integerOrNull (value : Option Int) : JsonValue := value.elim .null .int

section Documents

variable (hosts : HostText → String)

/-- A record as it is written, the hosts in the spelling they were read in. -/
def EndpointRecord.document (record : EndpointRecord) : JsonValue :=
  .obj [("server_name", textOrNull record.serverName), ("host", .str (hosts record.host)),
    ("port", .int record.port), ("protocol", .str record.protocol),
    ("status", .str record.status.text), ("observed_at_unix_ms", .int record.observedAt),
    ("discovery_method", .str record.discoveryMethod),
    ("verification_pid", .int record.verificationPid),
    ("process_creation_time_unix_ms", integerOrNull record.processCreationTime),
    ("verification_session_id", .str record.verificationSessionId),
    ("confidence", .str record.confidence.text),
    ("artifact_relative_path", .str record.artifactRelativePath),
    ("artifact_sha256", .str record.artifactSha256),
    ("invalidated_at_unix_ms", integerOrNull record.invalidatedAt),
    ("invalidation_reason", textOrNull (record.invalidationReason.map InvalidationReason.text)),
    ("invalidation_event_id", textOrNull record.invalidationEventId)]

def brokersDocument (brokers : Brokers EndpointRecord) : JsonValue :=
  .obj (brokers.map fun broker =>
    (broker.1, .arr (broker.2.map (EndpointRecord.document hosts))))

def Registry.document (registry : Registry) : JsonValue :=
  .obj [("schema_version", .int 3), ("updated_at_unix_ms", .int registry.updatedAt),
    ("brokers", brokersDocument hosts registry.brokers)]

end Documents

section Unmarked

theorem unmarked_obj_iff {members : List (String × JsonValue)} :
    Unmarked (.obj members) ↔
      ∀ member ∈ members, startsSecret member.1 = false ∧ Unmarked member.2 := by
  have hmembers : ∀ text, text ∈ textsOf (.obj members) ↔
      ∃ member ∈ members, text = member.1 ∨ text ∈ textsOf member.2 := by
    intro text
    unfold textsOf
    induction members with
    | nil => simp [keyTexts, keyTexts.memberKeys, valueTexts, valueTexts.memberValues]
    | cons member rest ih =>
      obtain ⟨key, value⟩ := member
      simp only [keyTexts, keyTexts.memberKeys, valueTexts, valueTexts.memberValues,
        List.mem_append, List.mem_cons, exists_eq_or_imp] at ih ⊢
      rw [← ih]
      tauto
  unfold Unmarked
  simp only [hmembers]
  constructor
  · intro h member hmember
    exact ⟨h member.1 ⟨member, hmember, Or.inl rfl⟩,
      fun text htext => h text ⟨member, hmember, Or.inr htext⟩⟩
  · rintro h text ⟨member, hmember, rfl | htext⟩
    · exact (h member hmember).1
    · exact (h member hmember).2 text htext

theorem unmarked_arr_iff {items : List JsonValue} :
    Unmarked (.arr items) ↔ ∀ item ∈ items, Unmarked item := by
  have hitems : ∀ text, text ∈ textsOf (.arr items) ↔ ∃ item ∈ items, text ∈ textsOf item := by
    intro text
    unfold textsOf
    induction items with
    | nil => simp [keyTexts, keyTexts.itemKeys, valueTexts, valueTexts.itemValues]
    | cons item rest ih =>
      simp only [keyTexts, keyTexts.itemKeys, valueTexts, valueTexts.itemValues,
        List.mem_append, List.mem_cons, exists_eq_or_imp] at ih ⊢
      rw [← ih]
      tauto
  unfold Unmarked
  simp only [hitems]
  constructor
  · intro h item hitem text htext
    exact h text ⟨item, hitem, htext⟩
  · rintro h text ⟨item, hitem, htext⟩
    exact h item hitem text htext

theorem unmarked_str_iff {text : String} : Unmarked (.str text) ↔ startsSecret text = false := by
  simp [Unmarked, textsOf, keyTexts, valueTexts]

theorem unmarked_int (value : Int) : Unmarked (.int value) := by
  simp [Unmarked, textsOf, keyTexts, valueTexts]

theorem unmarked_null : Unmarked .null := by
  simp [Unmarked, textsOf, keyTexts, valueTexts]

theorem unmarked_integerOrNull (value : Option Int) : Unmarked (integerOrNull value) := by
  cases value with
  | none => exact unmarked_null
  | some number => exact unmarked_int number

theorem unmarked_status (status : EndpointStatus) : startsSecret status.text = false := by
  cases status
  all_goals decide

theorem unmarked_reason (reason : InvalidationReason) : startsSecret reason.text = false := by
  cases reason
  all_goals decide

theorem unmarked_uuid4 {text : String} (h : isUuid4 text = true) : startsSecret text = false := by
  apply startsSecret_of_identifier
  intro c hc
  obtain ⟨-, hplaces⟩ := of_decide_eq_true h
  obtain ⟨index, hindex⟩ := List.mem_iff_getElem?.mp hc
  have hmem : (c, index) ∈ text.toList.zipIdx := List.mk_mem_zipIdx_iff_getElem?.mpr hindex
  have hplace := List.all_eq_true.mp hplaces _ hmem
  have hval : c.val.toNat = c.toNat := rfl
  simp only at hplace
  split at hplace
  · obtain rfl : c = '-' := of_decide_eq_true hplace
    exact Or.inl (by decide)
  · split at hplace
    · obtain rfl : c = '4' := of_decide_eq_true hplace
      exact Or.inl (by decide)
    · split at hplace
      · have hvariant : c = '8' ∨ c = '9' ∨ c = 'a' ∨ c = 'b' := by simpa using hplace
        unfold IsIdentifier
        rcases hvariant with rfl | rfl | rfl | rfl
        all_goals decide
      · simp [isLowerHex, Char.isDigit, Char.le_def, UInt32.le_iff_toNat_le] at hplace
        unfold IsIdentifier
        omega

end Unmarked

section Records

variable {hosts : HostText → String}

/-- A record whose texts other than the ones of its closing are free of markers. -/
def EndpointRecord.UnmarkedFields (hosts : HostText → String) (record : EndpointRecord) : Prop :=
  Unmarked (textOrNull record.serverName) ∧ startsSecret (hosts record.host) = false ∧
    startsSecret record.protocol = false ∧ startsSecret record.discoveryMethod = false ∧
    startsSecret record.verificationSessionId = false ∧
    startsSecret record.confidence.text = false ∧
    startsSecret record.artifactRelativePath = false ∧ startsSecret record.artifactSha256 = false

theorem unmarked_document_iff {record : EndpointRecord} :
    Unmarked (record.document hosts) ↔ record.UnmarkedFields hosts ∧
      Unmarked (textOrNull record.invalidationEventId) := by
  have hkeys : (["server_name", "host", "port", "protocol", "status", "observed_at_unix_ms",
      "discovery_method", "verification_pid", "process_creation_time_unix_ms",
      "verification_session_id", "confidence", "artifact_relative_path", "artifact_sha256",
      "invalidated_at_unix_ms", "invalidation_reason", "invalidation_event_id"].all
        fun key => !startsSecret key) = true := by
    decide +kernel
  have hreason : Unmarked (textOrNull (record.invalidationReason.map InvalidationReason.text)) := by
    cases record.invalidationReason with
    | none => exact unmarked_null
    | some reason => exact unmarked_str_iff.mpr (unmarked_reason reason)
  simp only [List.all_cons, List.all_nil, Bool.and_eq_true, Bool.not_eq_true'] at hkeys
  unfold EndpointRecord.document EndpointRecord.UnmarkedFields
  rw [unmarked_obj_iff]
  simp only [List.forall_mem_cons, List.not_mem_nil, false_imp_iff, implies_true, hkeys,
    unmarked_str_iff, unmarked_int, unmarked_integerOrNull, unmarked_status, hreason, true_and,
    and_true, and_assoc]

/-- The record as an invalidation closes it. -/
def EndpointRecord.closedBy (invalidation : EndpointInvalidation) (record : EndpointRecord) :
    EndpointRecord :=
  { record with
    status := .invalid
    invalidatedAt := some invalidation.invalidatedAt
    invalidationReason := some invalidation.reason
    invalidationEventId := some invalidation.eventId }

theorem unmarked_closedBy_iff {record : EndpointRecord} {invalidation : EndpointInvalidation}
    (hopen : record.invalidationEventId = none) (hevent : isUuid4 invalidation.eventId = true) :
    Unmarked ((record.closedBy invalidation).document hosts) ↔
      Unmarked (record.document hosts) := by
  have hclosed : Unmarked (textOrNull (some invalidation.eventId)) :=
    unmarked_str_iff.mpr (unmarked_uuid4 hevent)
  rw [unmarked_document_iff, unmarked_document_iff, hopen]
  exact and_congr Iff.rfl ⟨fun _ => unmarked_null, fun _ => hclosed⟩

theorem unmarked_brokers_iff {brokers : Brokers EndpointRecord} :
    Unmarked (brokersDocument hosts brokers) ↔
      ∀ broker ∈ brokers, startsSecret broker.1 = false ∧
        ∀ record ∈ broker.2, Unmarked (record.document hosts) := by
  unfold brokersDocument
  rw [unmarked_obj_iff]
  simp only [List.forall_mem_map, unmarked_arr_iff]

theorem unmarked_registry_iff {registry : Registry} :
    Unmarked (registry.document hosts) ↔ Unmarked (brokersDocument hosts registry.brokers) := by
  have hkeys : startsSecret "schema_version" = false ∧
      startsSecret "updated_at_unix_ms" = false ∧ startsSecret "brokers" = false := by
    decide
  unfold Registry.document
  rw [unmarked_obj_iff]
  simp only [List.forall_mem_cons, List.not_mem_nil, false_imp_iff, implies_true, hkeys,
    unmarked_int, true_and, and_true]

end Records

end TradeJournalWorker
