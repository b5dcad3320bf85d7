import TradeJournalWorker.EvidenceEdits
import TradeJournalWorker.NetworkSummary
import TradeJournalWorker.VerifierGuarantee

namespace TradeJournalWorker.Lab

section Preimages

variable {env : LabEnv} {runId : String} {records others : List VerifiedRecord}

/-- The digests of two different texts are the same. -/
def Collide (env : LabEnv) (first second : String) : Prop :=
  first = second ∧ ∃ a b, a ≠ b ∧ env.sha256 a = first ∧ env.sha256 b = second

theorem collide_of_preimages {firstType secondType : String} {firstVersion secondVersion : Nat}
    {a b : JsonValue}
    (h : contractPreimage env firstType firstVersion a ≠
      contractPreimage env secondType secondVersion b)
    (heq : contractDigest env firstType firstVersion a =
      contractDigest env secondType secondVersion b) :
    Collide env (contractDigest env firstType firstVersion a)
      (contractDigest env secondType secondVersion b) :=
  ⟨heq, _, _, fun hbytes => h (utf8Bytes_injective hbytes), rfl, rfl⟩

theorem take_toList_append (front rest : String) {n : Nat} (h : n ≤ front.toList.length) :
    (front ++ rest).toList.take n = front.toList.take n := by
  rw [String.toList_append, List.take_append_of_le_length h]

theorem preimage_front (env : LabEnv) (artifactType : String) (schemaVersion : Nat) (payload : JsonValue) :
    ∃ rest, contractPreimage env artifactType schemaVersion payload =
      "MT5_DIRECT_ENDPOINT\x00" ++ artifactType ++ rest := by
  refine ⟨"\x00" ++ (toString schemaVersion ++ ("\x00" ++ canonicalJson env.floatText payload)), ?_⟩
  unfold contractPreimage
  simp only [String.append_assoc]

/-- The type of the artifact tells a flow set from a summary. -/
theorem flowSet_preimage_ne_summary (payload summary : JsonValue) :
    contractPreimage env "NETWORK_SUMMARY" 1 summary ≠
      contractPreimage env "NETWORK_FLOW_RECORD_SET" 2 payload := by
  intro h
  obtain ⟨rest, hsummary⟩ := preimage_front env "NETWORK_SUMMARY" 1 summary
  obtain ⟨others, hflows⟩ := preimage_front env "NETWORK_FLOW_RECORD_SET" 2 payload
  have hchars : (("MT5_DIRECT_ENDPOINT\x00" ++ "NETWORK_SUMMARY") ++ rest).toList.take 29 =
      (("MT5_DIRECT_ENDPOINT\x00" ++ "NETWORK_FLOW_RECORD_SET") ++ others).toList.take 29 := by
    rw [← hsummary, h, hflows]
  rw [take_toList_append ("MT5_DIRECT_ENDPOINT\x00" ++ "NETWORK_SUMMARY") rest (by simp),
    take_toList_append ("MT5_DIRECT_ENDPOINT\x00" ++ "NETWORK_FLOW_RECORD_SET") others
      (by simp)] at hchars
  simp at hchars

theorem flowSetKeys_sorted : ("run_id" : String) ≤ "set_kind" ∧
    ¬ ("run_id" : String) ≤ "records" ∧ ¬ ("set_kind" : String) ≤ "records" := by
  simp

/-- The text of a flow set ends with the kind of the set. -/
theorem flowSet_text (env : LabEnv) (runId kind : String) (records : List VerifiedRecord) :
    ∃ front,
    canonicalJson env.floatText (flowSetPayload env runId kind records) =
      front ++ (jsonText kind ++ "\x7d") := by
  obtain ⟨hrun, hrecords, hkinds⟩ := flowSetKeys_sorted
  have htext : ∀ text, canonicalJson env.floatText (.str text) = jsonText text := by
    intro text
    rw [canonicalJson]
  unfold flowSetPayload
  rw [canonicalJson]
  simp only [canonicalJson.memberTexts, List.insertionSort, List.foldr, List.orderedInsert, hrun,
    hrecords, hkinds, if_true, if_false, List.map_cons, List.map_nil, joinTexts, htext]
  generalize canonicalJson env.floatText (.arr _) = flows
  refine ⟨"\x7b" ++ (jsonText "records" ++ ":" ++ flows ++ "," ++ (jsonText "run_id" ++ ":" ++
    jsonText runId ++ "," ++ (jsonText "set_kind" ++ ":"))), ?_⟩
  simp only [String.append_assoc]

theorem flowSet_preimage (env : LabEnv) (runId kind : String) (records : List VerifiedRecord) :
    ∃ front,
    contractPreimage env "NETWORK_FLOW_RECORD_SET" 2 (flowSetPayload env runId kind records) =
      front ++ (jsonText kind ++ "\x7d") := by
  obtain ⟨front, htext⟩ := flowSet_text env runId kind records
  unfold contractPreimage
  rw [htext]
  refine ⟨"MT5_DIRECT_ENDPOINT\x00" ++ ("NETWORK_FLOW_RECORD_SET" ++ ("\x00" ++
    (toString 2 ++ ("\x00" ++ front)))), ?_⟩
  simp only [String.append_assoc]

theorem lastChars_append (front rest : String) {n : Nat} (h : n ≤ rest.toList.length) :
    (front ++ rest).toList.reverse.take n = rest.toList.reverse.take n := by
  rw [String.toList_append, List.reverse_append, List.take_append_of_le_length (by simpa using h)]

/-- The kind tells the delta of C1 from the flows of all phases. -/
theorem delta_preimage_ne_all :
    contractPreimage env "NETWORK_FLOW_RECORD_SET" 2
        (flowSetPayload env runId "C1_DISCOVERY_EXACT_DELTA" records) ≠
      contractPreimage env "NETWORK_FLOW_RECORD_SET" 2
        (flowSetPayload env runId "ALL_PHASES" others) := by
  intro h
  obtain ⟨front, hdelta⟩ := flowSet_preimage env runId "C1_DISCOVERY_EXACT_DELTA" records
  obtain ⟨other, hall⟩ := flowSet_preimage env runId "ALL_PHASES" others
  have hchars : (front ++ (jsonText "C1_DISCOVERY_EXACT_DELTA" ++ "\x7d")).toList.reverse.take 3 =
      (other ++ (jsonText "ALL_PHASES" ++ "\x7d")).toList.reverse.take 3 := by
    rw [← hdelta, h, hall]
  rw [lastChars_append front _ (by decide +kernel), lastChars_append other _ (by decide +kernel)]
    at hchars
  revert hchars
  decide +kernel

end Preimages

section Producer

variable {env : LabEnv} {events : List Members} {runId sourceSha256 : String}
  {candidate : Option JsonValue} {summary : NetworkSummary} {delta : FlowSetSource}

theorem summarizeEvents_state
    (h : summarizeEvents env events runId candidate sourceSha256 = .ok summary) :
    ∃ state, summary.flowRecordSetSha256 =
        digestFlowRecords env runId "ALL_PHASES" (allFlowRecords state) ∧
      summary.discoveryDeltaSource = discoveryDeltaSource env runId state := by
  unfold summarizeEvents at h
  obtain ⟨⟨⟩, _, h⟩ := except_bind_eq_ok h
  obtain ⟨⟨⟩, _, h⟩ := except_bind_eq_ok h
  obtain ⟨_, _, h⟩ := except_bind_eq_ok h
  obtain ⟨state, _, h⟩ := except_bind_eq_ok h
  obtain ⟨_, _, h⟩ := except_bind_eq_ok h
  obtain ⟨⟨⟩, _, h⟩ := except_bind_eq_ok h
  cases h
  exact ⟨state, rfl, rfl⟩

theorem flowSet_hex (h : summarizeEvents env events runId candidate sourceSha256 = .ok summary) :
    isLowerSha256 summary.flowRecordSetSha256 = true := by
  obtain ⟨state, hflows, _⟩ := summarizeEvents_state h
  rw [hflows]
  exact contractDigest_hex env _ _ _

theorem delta_hex (h : summarizeEvents env events runId candidate sourceSha256 = .ok summary)
    (hdelta : summary.discoveryDeltaSource = some delta) : isLowerSha256 delta.sha256 = true := by
  obtain ⟨state, _, hsource⟩ := summarizeEvents_state h
  rw [hsource] at hdelta
  unfold discoveryDeltaSource at hdelta
  simp only at hdelta
  split at hdelta
  next => cases hdelta
  next =>
    cases hdelta
    exact contractDigest_hex env _ _ _

/-- The delta and the whole set have one digest only where two texts collide. -/
theorem delta_eq_iff (h : summarizeEvents env events runId candidate sourceSha256 = .ok summary)
    (hdelta : summary.discoveryDeltaSource = some delta) :
    delta.sha256 = summary.flowRecordSetSha256 ↔
      Collide env delta.sha256 summary.flowRecordSetSha256 := by
  constructor
  · intro heq
    obtain ⟨state, hflows, hsource⟩ := summarizeEvents_state h
    rw [hsource] at hdelta
    unfold discoveryDeltaSource at hdelta
    simp only at hdelta
    split at hdelta
    next => cases hdelta
    next =>
      cases hdelta
      rw [hflows] at heq ⊢
      exact collide_of_preimages delta_preimage_ne_all heq
  · exact fun hcollide => hcollide.1

theorem summary_eq_iff
    (h : summarizeEvents env events runId candidate sourceSha256 = .ok summary) :
    contractDigest env "NETWORK_SUMMARY" 1 summary.json = summary.flowRecordSetSha256 ↔
      Collide env (contractDigest env "NETWORK_SUMMARY" 1 summary.json)
        summary.flowRecordSetSha256 := by
  constructor
  · intro heq
    obtain ⟨state, hflows, _⟩ := summarizeEvents_state h
    rw [hflows] at heq ⊢
    exact collide_of_preimages (flowSet_preimage_ne_summary _ _) heq
  · exact fun hcollide => hcollide.1

end Producer

section Validator

variable {env : LabEnv} {payload : JsonValue} {evidence : Evidence} {digest : String}

theorem requireDiscovery_source {value : JsonValue} {discovery : Discovery}
    (h : requireDiscovery value = .ok discovery) : checkDeltaSource discovery = .ok () := by
  unfold requireDiscovery at h
  repeat' obtain ⟨_, _, h⟩ := except_bind_eq_ok h
  cases h
  assumption

theorem validateEvidence_discovery (h : validateEvidence env payload = .ok evidence) :
    checkDeltaSource evidence.discovery = .ok () := by
  unfold validateEvidence at h
  repeat' obtain ⟨_, _, h⟩ := except_bind_eq_ok h
  cases h
  apply requireDiscovery_source
  assumption

theorem requireControl_c1 (h : requireControl .c1 evidence = .ok ()) :
    deltaUnproven evidence.network evidence.discovery = false := by
  unfold requireControl at h
  simp only at h
  obtain ⟨_, _, h⟩ := except_bind_eq_ok h
  obtain ⟨_, _, h⟩ := except_bind_eq_ok h
  obtain ⟨_, _, h⟩ := except_bind_eq_ok h
  obtain ⟨⟨⟩, hproven, _⟩ := except_bind_eq_ok h
  exact demand_eq_ok.mp hproven

theorem delta_of_proven {network : Network} {discovery : Discovery}
    (h : deltaUnproven network discovery = false) (hsource : discovery.endpointDeltaSource ≠ .none)
    (hacquired : discovery.endpointDeltaAcquired = true) :
    discovery.endpointDeltaSourceSha256 = network.flowRecordSetSha256 := by
  have hkind : discovery.endpointDeltaSource = .processScopedTcpFlowSet := by
    cases hcase : discovery.endpointDeltaSource with
    | none => exact absurd hcase hsource
    | processScopedTcpFlowSet => rfl
  unfold deltaUnproven at h
  simp [hkind, hacquired] at h
  exact h.2.2

/-- C1 evidence with a copied digest of the delta is accepted exactly when it is the digest of the
whole flow set. -/
theorem withDeltaDigest_accepted_iff (hdigest : isLowerSha256 digest = true)
    (h : validateEvidence env payload = .ok evidence) (hcontrol : evidence.control = .c1)
    (hsome : evidence.discovery.endpointDeltaSourceSha256.isSome = true) :
    (∃ accepted, validateEvidence env (withDeltaDigest digest payload) = .ok accepted) ↔
      evidence.network.flowRecordSetSha256 = some digest := by
  obtain ⟨hsource, _, hacquired⟩ := checkDeltaSource_some (validateEvidence_discovery h) hsome
  have hinvariants := validateEvidence_invariants h
  rw [validateEvidence_withDeltaDigest hdigest h hsome]
  constructor
  · intro haccepted
    obtain ⟨accepted, haccepted⟩ := haccepted
    obtain ⟨⟨⟩, hedited, _⟩ := except_bind_eq_ok haccepted
    have hown := (invariants_parts hedited).1
    simp only [hcontrol] at hown
    exact (delta_of_proven (requireControl_c1 hown) hsource hacquired).symm
  · intro hflows
    have hown := (invariants_parts hinvariants).1
    rw [hcontrol] at hown
    have hold := delta_of_proven (requireControl_c1 hown) hsource hacquired
    -- the digest was that of the whole set before, so nothing has been edited
    have hsame : ({ evidence with
        discovery := { evidence.discovery with endpointDeltaSourceSha256 := some digest } } :
        Evidence) = evidence := by
      rw [← hflows, ← hold]
    refine ⟨evidence, ?_⟩
    simp only [hsame, hinvariants]
    rfl

end Validator

section Verifier

variable {env : LabEnv} {manifest : ArtifactManifest} {body : Evidence} {bytes : Bytes}
  {claimed : String} {payload : JsonValue}

theorem crossCheck_no_mismatch (network : Network) (summary : Members) :
    "digest_mismatch:network_summary" ∉ (crossCheckNetworkSummaryContent network summary).2 := by
  unfold crossCheckNetworkSummaryContent
  split
  next =>
    split
    next => simp
    next =>
      split
      next => simp
      next =>
        split
        next => simp
        next => simp
  next => simp

/-- The check of the network reports a digest mismatch exactly when the summary's contract digest
is another one. -/
theorem evaluateNetwork_mismatch (hbytes : manifest .networkSummary = some bytes)
    (hne : bytes ≠ []) (hloads : env.loads bytes = some payload)
    (hclaimed : body.network.flowRecordSetSha256 = some claimed)
    (hlower : isLowerSha256 claimed = true) :
    "digest_mismatch:network_summary" ∈ (evaluateNetwork env body manifest).2 ↔
      contractDigest env "NETWORK_SUMMARY" 1 payload ≠ claimed := by
  have hverify : verifyStructuredDigest env manifest .networkSummary (some claimed)
      "NETWORK_SUMMARY" 1 =
      if contractDigest env "NETWORK_SUMMARY" 1 payload ≠ claimed then
        (.mismatch, none, ["digest_mismatch:" ++ ArtifactRole.networkSummary.text])
      else (.verified, some payload, []) := by
    simp [verifyStructuredDigest, requireManifestFile, hbytes, hne, hloads, hlower]
  have hothers : "digest_mismatch:network_summary" ∈ (evaluateNetwork env body manifest).2 ↔
      "digest_mismatch:network_summary" ∈ (summaryVerdict body.network
        (verifyStructuredDigest env manifest .networkSummary (some claimed)
          "NETWORK_SUMMARY" 1)).2 := by
    unfold evaluateNetwork
    simp only [hclaimed, List.mem_append]
    have hendpoint : "digest_mismatch:network_summary" ∉
        (if 0 < body.network.candidateTcpFlows ∧ body.runContext.candidateEndpoint = none then
          ["candidate_tcp_flows_without_candidate_endpoint"] else []) := by
      split
      next => simp
      next => simp
    have hforeign : "digest_mismatch:network_summary" ∉
        (if 0 < body.network.otherTcpFlows ∧ body.network.attributionUnambiguous = false then
          ["unattributed_foreign_tcp_flow"] else []) := by
      split
      next => simp
      next => simp
    simp only [hendpoint, hforeign, false_or]
  rw [hothers, hverify]
  by_cases hdigest : contractDigest env "NETWORK_SUMMARY" 1 payload = claimed
  · simp only [hdigest, ne_eq, not_true_eq_false, if_false, iff_false]
    cases payload with
    | obj summary => exact crossCheck_no_mismatch body.network summary
    | null | bool | int | float | str | arr => exact List.not_mem_nil
  · simp only [hdigest, ne_eq, not_false_eq_true, if_true, iff_true]
    exact List.mem_singleton.mpr rfl

end Verifier

/-- C1 evidence that copies the digests of a summary is accepted, and its stored summary agrees
with it, only where SHA-256 gives one digest to two texts: the digests of the delta and of the
summary are both compared with that of the whole flow set. -/
theorem flow_digests_agree_iff {env : LabEnv} {events : List Members}
    {runId sourceSha256 : String} {candidate : Option JsonValue} {summary : NetworkSummary}
    {delta : FlowSetSource} {payload : JsonValue} {evidence : Evidence}
    {manifest : ArtifactManifest} {bytes : Bytes}
    (hsummary : summarizeEvents env events runId candidate sourceSha256 = .ok summary)
    (hdelta : summary.discoveryDeltaSource = some delta)
    (hvalid : validateEvidence env payload = .ok evidence) (hcontrol : evidence.control = .c1)
    (hsource : evidence.discovery.endpointDeltaSourceSha256.isSome = true)
    (hcopied : evidence.network.flowRecordSetSha256 = some summary.flowRecordSetSha256)
    (hstored : manifest .networkSummary = some bytes) (hbytes : bytes ≠ [])
    (hloads : env.loads bytes = some summary.json) :
    (∃ accepted, validateEvidence env (withDeltaDigest delta.sha256 payload) = .ok accepted) ∧
        "digest_mismatch:network_summary" ∉ (evaluateNetwork env evidence manifest).2 ↔
      Collide env delta.sha256 summary.flowRecordSetSha256 ∧
        Collide env (contractDigest env "NETWORK_SUMMARY" 1 summary.json)
          summary.flowRecordSetSha256 := by
  have haccepted := withDeltaDigest_accepted_iff (delta_hex hsummary hdelta) hvalid hcontrol hsource
  have hmismatch := evaluateNetwork_mismatch hstored hbytes hloads hcopied (flowSet_hex hsummary)
  rw [haccepted, hmismatch, hcopied, not_not, summary_eq_iff hsummary, Option.some.injEq, eq_comm,
    delta_eq_iff hsummary hdelta]

section ExactDiscovery

def deltaDigest : String := "8dba6b5f75a938d8839ab8989bd45ae90a531ba478b3e02e582eaeaab700a351"
def flowsDigest : String := "43018677b22380871158ec810d45431ccb65f4b0dff047bce2b31bc360fa5e8e"

/-- One connection of the terminal while the exact label is searched. -/
def discoveryEvent : Members :=
  [("schema_version", .int 2), ("run_id", .str "00000000-0000-4000-8000-000000000001"),
    ("phase", .str "C1_DISCOVERY_EXACT"), ("timestamp_utc", .null), ("category", .str "NETWORK"),
    ("provider_name", .null), ("provider_guid", .null), ("event_id", .null), ("task", .null),
    ("opcode", .null), ("header_process_id", .null), ("header_thread_id", .null),
    ("payload_process_id", .int 4321), ("parent_process_id", .null), ("process_guid", .null),
    ("parent_process_guid", .null), ("connection_id_sha256", .str machineDigest),
    ("image_name", .null), ("image_path_sha256", .null), ("image_matches_terminal", .bool true),
    ("protocol", .str "TCP"), ("local_address", .str "10.0.0.5"), ("local_port", .int 50000),
    ("remote_address", .str "198.51.100.7"), ("remote_port", .int 443),
    ("dns_query_name", .null), ("dns_result_addresses", .arr []), ("status", .int 0)]

/-- The text whose digest is that of the flows of the kind. -/
def discoveryFlows (kind : String) : String :=
  "MT5_DIRECT_ENDPOINT\x00NETWORK_FLOW_RECORD_SET\x002\x00\x7b\"records\":[\x7b" ++
    "\"classification\":\"other\",\"connection_binding_verified\":true," ++
    "\"connection_id_sha256\":\"" ++ machineDigest ++ "\",\"disposition\":\"connected\"," ++
    "\"local_address\":\"10.0.0.5\",\"local_port\":50000,\"phase\":\"C1_DISCOVERY_EXACT\"," ++
    "\"process_identity\":[\"PAYLOAD_PID\",4321],\"protocol\":\"TCP\"," ++
    "\"remote_address\":\"198.51.100.7\",\"remote_port\":443\x7d]," ++
    "\"run_id\":\"00000000-0000-4000-8000-000000000001\",\"set_kind\":\"" ++ kind ++ "\"\x7d"

def noDispositions : DispositionCounts := ⟨0, 0, 0⟩

/-- The summary of the one event. -/
def discoverySummary : NetworkSummary where
  runId := "00000000-0000-4000-8000-000000000001"
  sourceEventsSha256 := machineDigest
  sourceEventCount := 1
  candidateEndpoint := none
  flowRecordSetSha256 := flowsDigest
  flowRecordSetVerified := true
  flowAccountingByPhase := NetworkPhase.all.map fun phase =>
    if phase = .c1DiscoveryExact then
      (phase, ⟨1, 0, 1, 0, 0, noDispositions, ⟨1, 0, 0⟩, true⟩)
    else (phase, ⟨0, 0, 0, 0, 0, noDispositions, noDispositions, true⟩)
  discoveryDeltaSource := some ⟨deltaDigest, true⟩
  phaseEndpointSets := NetworkPhase.named.map fun phase =>
    (phase, if phase = .c1DiscoveryExact then ["198.51.100.7:443"] else [])
  networkEventsByPhase := NetworkPhase.all.map fun phase =>
    (phase, if phase = .c1DiscoveryExact then 1 else 0)
  dnsEventsByPhase := NetworkPhase.all.map fun phase => (phase, 0)
  candidateEventsByPhase := NetworkPhase.named.map fun phase => (phase, 0)
  nonTcpNetworkEventsByPhase := NetworkPhase.all.map fun phase => (phase, 0)
  deltas := ⟨[], ["198.51.100.7:443"], [], [], []⟩
  unexpectedDirectEndpoints := NetworkPhase.direct.map fun phase => (phase, [])
  unphasedRelevantEvents := 0
  fallbackPresent := false
  directDnsPresent := false
  directNonTcpNetworkPresent := false
  candidateSeenInC3 := false
  candidateSeenInC4 := false
  candidateSeenInC5 := false
  discoveryDeltaHasProcessScopedSource := true

/-- The tables of the captured C0 with the two addresses, the digests and the summary's text. -/
def discoveryEnv : LabEnv where
  unicode := baselineEnv.unicode
  addresses := {
    parse := fun text =>
      if text = "10.0.0.5" then some (.v4 0x0A000005)
      else if text = "198.51.100.7" then some (.v4 0xC6336407)
      else none
    compressed := fun address => if address = .v4 0x0A000005 then "10.0.0.5" else "198.51.100.7"
    isGlobal := fun _ => false
    isPrivate := fun _ => true
    isReserved := fun _ => false }
  floatText := fun _ => ""
  loads := fun bytes =>
    if bytes = utf8Bytes (wholeText discoverySummary.json) then some discoverySummary.json
    else none
  sha256 := fun bytes =>
    if bytes = utf8Bytes (discoveryFlows "C1_DISCOVERY_EXACT_DELTA") then deltaDigest
    else if bytes = utf8Bytes (discoveryFlows "ALL_PHASES") then flowsDigest
    else summaryDigest
  sha256_hex := fun bytes => by
    split
    · decide +kernel
    · split
      · decide +kernel
      · exact summaryDigest_hex

set_option maxRecDepth 10000 in
theorem discovery_summarized : (match summarizeEvents discoveryEnv [discoveryEvent]
      "00000000-0000-4000-8000-000000000001" none machineDigest with
    | .ok summary => decide (summary = discoverySummary)
    | .error _ => false) = true := by
  decide +kernel

/-- The mapping with other values under some of its keys. -/
def withValues (values : Members) (mapping : JsonValue) : JsonValue :=
  values.foldl (fun edited entry => edited.updateMember entry.1 fun _ => entry.2) mapping

def discoveryMarker (code : String) (sequence milliseconds : Int) : JsonValue :=
  .obj [("code", .str code), ("qpc", .int milliseconds), ("sequence", .int sequence),
    ("timestamp_unix_ms", .int milliseconds)]

/-- The C1 of the session of the captured C0, with the digest of the whole flow set as that of the
delta. -/
def discoveryEvidence : JsonValue :=
  ((((((((capturedBaseline
    |> withValues [("control", .str "C1"), ("pre_state", .null),
        ("phase_markers", .arr [.str "C1_DISCOVERY_NEGATIVE_START",
          .str "C1_DISCOVERY_NEGATIVE_END", .str "C1_DISCOVERY_EXACT_START",
          .str "C1_DISCOVERY_EXACT_END"])])
    |>.updateMember "environment_health"
        (withValues [("baseline_stable", .bool false), ("ui_compatible", .bool true)]))
    |>.updateMember "initial_pre_state_binding" (withValues [("scope", .str "C012_REFERENCE")]))
    |>.updateMember "lifecycle_binding"
        (withValues [("session_role", .str "REUSE_RETAIN"),
          ("terminal_alive_at_start", .bool true)]))
    |>.updateMember "network"
        (withValues [("attribution_unambiguous", .bool true), ("other_tcp_flows", .int 1),
          ("process_scoped_tcp_flows", .int 1),
          ("flow_record_set_sha256", .str flowsDigest)]))
    |>.updateMember "discovery"
        (withValues [("endpoint_delta_acquired", .bool true),
          ("endpoint_delta_source", .str "PROCESS_SCOPED_TCP_FLOW_SET"),
          ("endpoint_delta_source_sha256", .str flowsDigest),
          ("endpoint_delta_source_verified", .bool true)]))
    |>.updateMember "state_transition"
        (withValues [("account_cache_state", .str "ABSENT_RECORDED"),
          ("broker_cache_state", .str "CREATED_RECORDED"),
          ("stage", .str "C1_DISCOVERY_COMPLETE"),
          ("transition_evidence_sha256", .str machineDigest)]))
    |>.updateMember "timeline"
        (withValues [("events", .arr [discoveryMarker "C1_DISCOVERY_NEGATIVE_START" 1 1000000,
          discoveryMarker "C1_DISCOVERY_NEGATIVE_END" 2 1300000,
          discoveryMarker "C1_DISCOVERY_EXACT_START" 3 1300001,
          discoveryMarker "C1_DISCOVERY_EXACT_END" 4 1600001])]))
    |>.updateMember "timing"
        (withValues [("baseline_seconds", .int 0), ("exact_discovery_seconds", .int 300),
          ("negative_discovery_seconds", .int 300)])

/-- What the digests are compared with in the body of the C1. -/
def discoveryFacts (body : Evidence) : Bool :=
  body.control = .c1 && body.discovery.endpointDeltaSourceSha256 = some flowsDigest &&
    body.network.flowRecordSetSha256 = some flowsDigest

set_option maxRecDepth 10000 in
theorem discoveryEvidence_clean :
    rejectSensitiveContent discoveryEnv.unicode [] discoveryEvidence = .ok () :=
  walkMembers_split 5 (by decide +kernel)
    (walkMembers_split 5 (by decide +kernel)
      (walkMembers_split 4 (by decide +kernel) (by decide +kernel)))

set_option maxRecDepth 10000 in
theorem discoveryEvidence_valid : (match validateEvidence discoveryEnv discoveryEvidence with
    | .ok body => discoveryFacts body
    | .error _ => false) = true := by
  have hrest : ∃ rest, validateEvidence discoveryEnv discoveryEvidence = rest ∧
      holdsOf discoveryFacts rest = true := by
    unfold validateEvidence
    rw [discoveryEvidence_clean]
    exact ⟨_, rfl, by decide +kernel⟩
  obtain ⟨rest, hvalid, hfacts⟩ := hrest
  rw [hvalid]
  exact hfacts

theorem discovery_summary : summarizeEvents discoveryEnv [discoveryEvent]
    "00000000-0000-4000-8000-000000000001" none machineDigest = .ok discoverySummary := by
  have hsummarized := discovery_summarized
  split at hsummarized
  next summary hsummary =>
    rw [hsummary, decide_eq_true_eq.mp hsummarized]
  next => cases hsummarized

theorem discovery_accepted : ∃ body, validateEvidence discoveryEnv discoveryEvidence = .ok body ∧
    body.control = .c1 ∧ body.discovery.endpointDeltaSourceSha256 = some flowsDigest ∧
    body.network.flowRecordSetSha256 = some flowsDigest := by
  have hvalid := discoveryEvidence_valid
  split at hvalid
  next body hbody =>
    simp only [discoveryFacts, Bool.and_eq_true, decide_eq_true_eq] at hvalid
    exact ⟨body, hbody, hvalid.1.1, hvalid.1.2, hvalid.2⟩
  next => cases hvalid

theorem discoveryEnv_loads (bytes : Bytes) : discoveryEnv.loads bytes =
    if bytes = utf8Bytes (wholeText discoverySummary.json) then some discoverySummary.json
    else none := rfl

/-- The stored summary of the one event. -/
def discoveryFiles : ArtifactManifest
  | .networkSummary => some (utf8Bytes (wholeText discoverySummary.json))
  | _ => none

theorem discovery_stored : discoveryFiles .networkSummary =
      some (utf8Bytes (wholeText discoverySummary.json)) ∧
    utf8Bytes (wholeText discoverySummary.json) ≠ [] ∧
    discoveryEnv.loads (utf8Bytes (wholeText discoverySummary.json)) =
      some discoverySummary.json := by
  refine ⟨rfl, utf8Bytes_ne_nil (by decide +kernel), ?_⟩
  rw [discoveryEnv_loads, if_pos rfl]

theorem discovery_digests_iff : ∃ evidence,
    validateEvidence discoveryEnv discoveryEvidence = .ok evidence ∧
    ((∃ accepted, validateEvidence discoveryEnv (withDeltaDigest deltaDigest discoveryEvidence) =
          .ok accepted) ∧
        "digest_mismatch:network_summary" ∉
          (evaluateNetwork discoveryEnv evidence discoveryFiles).2 ↔
      Collide discoveryEnv deltaDigest flowsDigest ∧
        Collide discoveryEnv
          (contractDigest discoveryEnv "NETWORK_SUMMARY" 1 discoverySummary.json)
          flowsDigest) := by
  obtain ⟨evidence, hvalid, hcontrol, hsource, hcopied⟩ := discovery_accepted
  obtain ⟨hstored, hbytes, hloads⟩ := discovery_stored
  have hdelta : discoverySummary.discoveryDeltaSource = some ⟨deltaDigest, true⟩ := rfl
  have hflows : discoverySummary.flowRecordSetSha256 = flowsDigest := rfl
  have hsome : evidence.discovery.endpointDeltaSourceSha256.isSome = true := by simp [hsource]
  rw [← hflows] at hcopied ⊢
  have hiff := flow_digests_agree_iff discovery_summary hdelta hvalid hcontrol hsome hcopied hstored
    hbytes hloads
  simp only at hiff
  exact ⟨evidence, hvalid, hiff⟩

/-- The digest of a verified delta is refused in evidence that is valid but for it. -/
theorem discovery_delta_refused :
    summarizeEvents discoveryEnv [discoveryEvent] "00000000-0000-4000-8000-000000000001" none
        machineDigest = .ok discoverySummary ∧
      discoverySummary.discoveryDeltaSource = some ⟨deltaDigest, true⟩ ∧
      discoverySummary.flowRecordSetSha256 = flowsDigest ∧
      (∃ evidence, validateEvidence discoveryEnv discoveryEvidence = .ok evidence ∧
        evidence.control = .c1 ∧ evidence.network.flowRecordSetSha256 = some flowsDigest) ∧
      ¬ ∃ accepted, validateEvidence discoveryEnv
        (withDeltaDigest deltaDigest discoveryEvidence) = .ok accepted := by
  obtain ⟨evidence, hvalid, hcontrol, hsource, hcopied⟩ := discovery_accepted
  refine ⟨discovery_summary, rfl, rfl, ⟨evidence, hvalid, hcontrol, hcopied⟩, ?_⟩
  rw [withDeltaDigest_accepted_iff (by decide +kernel) hvalid hcontrol (by simp [hsource]),
    hcopied]
  decide +kernel

end ExactDiscovery

end TradeJournalWorker.Lab
