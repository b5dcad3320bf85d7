import TradeJournalWorker.VerifierRemovals

namespace TradeJournalWorker.Lab

/-- `verify_captured_run` returns PASS. -/
def Passes (env : LabEnv) (runDir : RunDirectory) (runId : String) (allowSynthetic : Bool) : Prop :=
  ∃ evaluation, verifyCapturedRun env runDir runId allowSynthetic = .ok evaluation ∧
    evaluation.outcome = .pass

/-- The smaller directory is the other one less some of its files. -/
def FilesRemoved (smaller larger : RunDirectory) : Prop :=
  ∀ name, smaller name = none ∨ smaller name = larger name

/-- The evidence file of the control is in the directory. -/
def EvidenceIn (runDir : RunDirectory) (runId : String) (control : Control) : Prop :=
  runDir ((ArtifactRole.evidence control).fileName runId) ≠ none

/-- No removal of files turns another outcome into PASS, and PASS needs all of C0, C1 and C2 where
one of them is present and all of C3, C4 and C5 where one of them is. -/
structure FailsClosed (env : LabEnv) (runDir : RunDirectory) (runId : String)
    (allowSynthetic : Bool) : Prop where
  removal : ¬ Passes env runDir runId allowSynthetic →
    ∀ smaller, FilesRemoved smaller runDir → ¬ Passes env smaller runId allowSynthetic
  together : Passes env runDir runId allowSynthetic → ∀ group ∈ [Control.c012, Control.direct],
    (∃ control ∈ group, EvidenceIn runDir runId control) →
      ∀ control ∈ group, EvidenceIn runDir runId control

section

variable {env : LabEnv} {runDir smaller : RunDirectory} {runId : String} {allowSynthetic : Bool}

theorem passes_iff : Passes env runDir runId allowSynthetic ↔ isCanonicalUuid runId = true ∧
    PassingRun env (buildRunArtifactManifest runDir runId) allowSynthetic := by
  unfold Passes verifyCapturedRun validateRunId
  rw [← verifyManifest_pass_iff]
  by_cases hrun : isCanonicalUuid runId = true
  · simp only [hrun, if_true, true_and]
    constructor
    · intro h
      obtain ⟨evaluation, hok, hpass⟩ := h
      cases hok
      exact hpass
    · intro h
      exact ⟨_, rfl, h⟩
  · constructor
    · intro h
      obtain ⟨evaluation, hok, _⟩ := h
      rw [if_neg hrun] at hok
      cases hok
    · intro h
      exact absurd h.1 hrun

theorem evidence_mem_all (control : Control) : ArtifactRole.evidence control ∈ ArtifactRole.all := by
  cases control <;> simp [ArtifactRole.all, Control.all]

theorem manifest_evidence (control : Control) :
    buildRunArtifactManifest runDir runId (.evidence control) =
      runDir ((ArtifactRole.evidence control).fileName runId) := by
  simp [buildRunArtifactManifest, evidence_mem_all control]

theorem evidenceIn_iff {control : Control} : EvidenceIn runDir runId control ↔
    buildRunArtifactManifest runDir runId (.evidence control) ≠ none := by
  rw [manifest_evidence]
  rfl

theorem keeps_of_removed (h : FilesRemoved smaller runDir) (role : ArtifactRole) :
    Keeps (buildRunArtifactManifest smaller runId) (buildRunArtifactManifest runDir runId) role := by
  intro bytes hbytes
  unfold buildRunArtifactManifest at hbytes ⊢
  split at hbytes
  next hrole =>
    rw [if_pos hrole]
    rcases h (role.fileName runId) with hgone | hsame
    · rw [hgone] at hbytes
      cases hbytes
    · rw [← hsame]
      exact hbytes
  next => cases hbytes

/-- The directory without the evidence files of the controls that are not kept. -/
def keepEvidence (keep : Control → Bool) (runId : String) (runDir : RunDirectory) : RunDirectory :=
  fun name =>
    if Control.all.any fun control =>
      !keep control && (ArtifactRole.evidence control).fileName runId = name then none
    else runDir name

theorem keepEvidence_removed (keep : Control → Bool) :
    FilesRemoved (keepEvidence keep runId runDir) runDir := by
  intro name
  unfold keepEvidence
  split
  next => exact Or.inl rfl
  next => exact Or.inr rfl

theorem suffix_injective : ∀ a ∈ ArtifactRole.all, ∀ b ∈ ArtifactRole.all,
    a.suffix = b.suffix → a = b := by
  decide +kernel

theorem fileName_injective {a b : ArtifactRole} (ha : a ∈ ArtifactRole.all)
    (hb : b ∈ ArtifactRole.all) (h : a.fileName runId = b.fileName runId) : a = b := by
  apply suffix_injective a ha b hb
  exact String.append_right_inj runId |>.mp h

theorem manifest_keepEvidence (keep : Control → Bool) :
    buildRunArtifactManifest (keepEvidence keep runId runDir) runId =
      keepControls keep (buildRunArtifactManifest runDir runId) := by
  funext role
  by_cases hrole : role ∈ ArtifactRole.all
  · have hkept : keepEvidence keep runId runDir (role.fileName runId) =
        keepControls keep (buildRunArtifactManifest runDir runId) role := by
      unfold keepEvidence
      split
      next hdropped =>
        obtain ⟨control, _, hcontrol⟩ := List.any_eq_true.mp hdropped
        simp only [Bool.and_eq_true, Bool.not_eq_true', decide_eq_true_eq] at hcontrol
        obtain ⟨hkeep, hname⟩ := hcontrol
        have hevidence := evidence_mem_all control
        rw [← fileName_injective hevidence hrole hname]
        simp [keepControls, hkeep]
      next hothers =>
        have hmanifest : runDir (role.fileName runId) =
            buildRunArtifactManifest runDir runId role := by
          simp [buildRunArtifactManifest, hrole]
        rw [hmanifest]
        cases role with
        | evidence control =>
          have hkeep : keep control = true := by
            by_contra hdrop
            apply hothers
            exact List.any_eq_true.mpr ⟨control, mem_controls control, by simpa using hdrop⟩
          simp [keepControls, hkeep]
        | etwEvidenceExport | wfpEvidenceExport | networkSummary | wprStartIntent | wprStopIntent
        | jobIdentityPreimage | rootProcessGenerationPreimage => rfl
    unfold buildRunArtifactManifest at hkept ⊢
    rw [if_pos hrole]
    exact hkept
  · have hnone : buildRunArtifactManifest runDir runId role = none := by
      simp [buildRunArtifactManifest, hrole]
    have hkept : keepControls keep (buildRunArtifactManifest runDir runId) role = none := by
      unfold keepControls
      split
      · split
        · exact hnone
        · rfl
      · exact hnone
    rw [hkept]
    simp [buildRunArtifactManifest, hrole]

/-- The directory with the files under the names of the run. -/
def directoryOf (files : ArtifactManifest) (runId : String) : RunDirectory := fun name =>
  (ArtifactRole.all.find? fun role => role.fileName runId = name).bind files

theorem manifest_directoryOf {files : ArtifactManifest}
    (hfiles : ∀ role, role ∉ ArtifactRole.all → files role = none) :
    buildRunArtifactManifest (directoryOf files runId) runId = files := by
  funext role
  unfold buildRunArtifactManifest
  by_cases hrole : role ∈ ArtifactRole.all
  · rw [if_pos hrole]
    unfold directoryOf
    cases hfind : ArtifactRole.all.find? fun other => other.fileName runId = role.fileName runId with
    | none =>
      have hnone := List.find?_eq_none.mp hfind role hrole
      simp at hnone
    | some other =>
      have hmem := List.mem_of_find?_eq_some hfind
      have hname := List.find?_some hfind
      have hsame : other = role := fileName_injective hmem hrole (by simpa using hname)
      rw [hsame]
      rfl
  · rw [if_neg hrole, hfiles role hrole]

/-- Some files of the directory are enough for a pass exactly when a part of the run is. -/
theorem exists_removal_iff (env : LabEnv) (runDir : RunDirectory) (runId : String)
    (allowSynthetic : Bool) : (∃ smaller, FilesRemoved smaller runDir ∧
      Passes env smaller runId allowSynthetic) ↔
    isCanonicalUuid runId = true ∧
      PartPasses env (buildRunArtifactManifest runDir runId) allowSynthetic := by
  constructor
  · intro h
    obtain ⟨smaller, hremoved, hpasses⟩ := h
    obtain ⟨hrun, hpass⟩ := passes_iff.mp hpasses
    exact ⟨hrun, hpass.partPasses.keep fun role => keeps_of_removed hremoved role⟩
  · intro h
    obtain ⟨hrun, hpart⟩ := h
    obtain ⟨keep, hpass⟩ := hpart.exists_keep
    refine ⟨keepEvidence keep runId runDir, keepEvidence_removed keep, ?_⟩
    rw [passes_iff, manifest_keepEvidence]
    exact ⟨hrun, hpass⟩

end

/-- The verifier fails closed on a directory exactly when the run id is not canonical, no part of
the run is enough for a pass, or the run is whole. -/
theorem verifier_fails_closed_iff (env : LabEnv) (runDir : RunDirectory) (runId : String)
    (allowSynthetic : Bool) :
    FailsClosed env runDir runId allowSynthetic ↔
      isCanonicalUuid runId = false ∨
      ¬ PartPasses env (buildRunArtifactManifest runDir runId) allowSynthetic ∨
      WholeRun env (buildRunArtifactManifest runDir runId) allowSynthetic := by
  have hremoval := exists_removal_iff env runDir runId allowSynthetic
  by_cases hpasses : Passes env runDir runId allowSynthetic
  · obtain ⟨hrun, hpass⟩ := passes_iff.mp hpasses
    have hpart := hpass.partPasses
    simp only [hrun, Bool.true_eq_false, hpart, not_true_eq_false, false_or, wholeRun_iff, hpass,
      true_and, ← evidenceIn_iff]
    constructor
    · intro h
      exact h.together hpasses
    · intro h
      exact ⟨fun hnot => absurd hpasses hnot, fun _ => h⟩
  · have hwhole : ¬ (isCanonicalUuid runId = true ∧
        WholeRun env (buildRunArtifactManifest runDir runId) allowSynthetic) := by
      intro h
      exact hpasses (passes_iff.mpr ⟨h.1, (wholeRun_iff.mp h.2).1⟩)
    constructor
    · intro h
      have hnone := h.removal hpasses
      by_cases hrun : isCanonicalUuid runId = true
      · right
        left
        intro hpart
        obtain ⟨smaller, hremoved, hsmaller⟩ := hremoval.mpr ⟨hrun, hpart⟩
        exact hnone smaller hremoved hsmaller
      · exact Or.inl (by simpa using hrun)
    · intro h
      have hpart : ¬ (isCanonicalUuid runId = true ∧
          PartPasses env (buildRunArtifactManifest runDir runId) allowSynthetic) := by
        rcases h with hrun | hnone | hall
        · simp [hrun]
        · exact fun hboth => hnone hboth.2
        · intro hboth
          exact hwhole ⟨hboth.1, hall⟩
      exact ⟨fun _ smaller hremoved hsmaller => hpart (hremoval.mp ⟨smaller, hremoved, hsmaller⟩),
        fun hyes => absurd hyes hpasses⟩

section CapturedBaseline

def machineDigest : String := "4000b6f65e0258fd1e056870c63291d12b692704d68e4dde24411d96a6fde309"
def jobDigest : String := "62ee83f9dc228d6bd34437c8d6ce9fcf9c1d2fa0018c2f410f5e85d87a97bd08"
def rootDigest : String := "5d804bcd6b7bc0838d40dc8f7a76a920c7cb25b2b0c40fc2f04ec2cef51390dd"
def etwDigest : String := "44136fa355b3678a1146ad16f7e8649e94fb4fc21fe77e8310c060f61caaff8a"
def summaryDigest : String := "4c665423014a10d8f6921394c019d300d945fe0308dbfa3a37f4f93b0b2b18ff"

/-- The evidence of a captured C0 without any traffic. -/
def capturedBaseline : JsonValue :=
  .obj [
    ("capture_integrity", .obj [
      ("buffers_lost", .int 0), ("etw_started", .bool true), ("etw_stopped", .bool true),
      ("events_lost", .int 0), ("required_markers_present", .bool true)]),
    ("control", .str "C0"), ("credential_bundle_investor_confirmed", .bool false),
    ("discovery", .obj [
      ("cache_influence_excluded", .bool false), ("credentials_supplied", .bool false),
      ("endpoint_delta_acquired", .bool false), ("endpoint_delta_source", .str "NONE"),
      ("endpoint_delta_source_sha256", .null), ("endpoint_delta_source_verified", .bool false),
      ("exact_label_match_verified", .bool false), ("exact_selection_completed", .bool false),
      ("expected_exact_result_count", .int 0), ("helper_secret_accessed", .bool false),
      ("negative_exact_query_completed", .bool false), ("negative_query_label_sha256", .null),
      ("negative_query_result_count", .null), ("negative_query_ui_binding_verified", .bool false),
      ("selected_server_label_sha256", .null), ("unsafe_endpoint_promoted", .bool false)]),
    ("environment_health", .obj [
      ("account_available", .bool false), ("baseline_stable", .bool true),
      ("build_unchanged", .bool true), ("clock_synchronized", .bool true),
      ("external_outage_excluded", .bool false), ("firewall_policy_verified", .bool false),
      ("ui_compatible", .bool false)]),
    ("identity", .null),
    ("initial_pre_state_binding", .obj [
      ("initial_c012_pre_state_sha256", .str machineDigest),
      ("portable_root_path_sha256", .str machineDigest), ("schema_version", .int 1),
      ("scope", .str "C012_INITIAL")]),
    ("lifecycle_binding", .obj [
      ("bootstrap_submitted_to_existing_session", .bool false),
      ("c012_session_id", .str "33333333-3333-4333-8333-333333333333"),
      ("job_id", .str "44444444-4444-4444-8444-444444444444"),
      ("job_identity_sha256", .str jobDigest), ("job_manifest_sha256", .str machineDigest),
      ("lifecycle_mode", .str "C012_SINGLE_PROCESS_SESSION"),
      ("root_process_generation_sha256", .str rootDigest), ("schema_version", .int 1),
      ("session_retained", .bool true), ("session_role", .str "LAUNCH_RETAIN"),
      ("teardown_completed", .bool false), ("terminal_alive_at_end", .bool true),
      ("terminal_alive_at_start", .bool false),
      ("transient_process_same_job_verified", .bool false),
      ("transient_process_set_sha256", .null)]),
    ("network", .obj [
      ("attribution_unambiguous", .bool false), ("candidate_attempt_observed", .bool false),
      ("candidate_block_observed", .bool false), ("candidate_connected", .bool false),
      ("candidate_endpoint_safe", .bool false), ("candidate_observed_phase", .str "NONE"),
      ("candidate_tcp_flows", .int 0), ("candidate_tuple_match", .bool false),
      ("dns_events", .int 0), ("flow_record_set_sha256", .str summaryDigest),
      ("flow_record_set_verified", .bool true), ("non_tcp_network_events", .int 0),
      ("other_tcp_flows", .int 0), ("process_scoped_tcp_flows", .int 0)]),
    ("phase_markers", .arr [.str "C0_BASELINE_START", .str "C0_BASELINE_END"]),
    ("pre_state", .obj [
      ("accounts_dat_absent", .bool true), ("appdata_absent", .bool true),
      ("bases_absent", .bool true), ("community_identity_absent", .bool true),
      ("credential_manager_empty", .bool true), ("disposable_clone_new", .bool true),
      ("no_shared_storage", .bool true), ("portable_root_new", .bool true),
      ("prior_processes_absent", .bool true), ("registry_clean", .bool true),
      ("sensitive_bootstrap_absent", .bool true), ("servers_dat_absent", .bool true),
      ("terminal_data_path_matches", .bool true), ("windows_user_new", .bool true)]),
    ("proof_binding", .obj [
      ("candidate_endpoint_sha256", .null), ("candidate_handoff_manifest_sha256", .null),
      ("candidate_tuple_bound", .bool false), ("control_plan_sha256", .null),
      ("credential_set_binding_sha256", .null), ("credential_set_binding_verified", .bool false),
      ("etw_evidence_sha256", .str etwDigest), ("etw_proof_capable", .bool true),
      ("experiment_manifest_sha256", .null), ("firewall_plan_bound", .bool false),
      ("firewall_plan_sha256", .null), ("firewall_portable_root_binding_sha256", .null),
      ("job_identity_sha256", .str jobDigest), ("job_manifest_sha256", .null),
      ("job_portable_root_binding_sha256", .null), ("job_process_binding_verified", .bool true),
      ("lifecycle_binding_sha256", .null), ("negative_query_binding_sha256", .null),
      ("phase_binding_verified", .bool true), ("phase_timeline_sha256", .null),
      ("pre_state_binding_sha256", .null), ("probe_path_binding_sha256", .null),
      ("provenance", .obj [
        ("artifact_set_id", .str "10000000-0000-4000-8000-000000000001"),
        ("origin", .str "CAPTURED_EXPORT"), ("producer", .str "LAB_CAPTURE_EXPORT"),
        ("synthetic_fixture", .bool false)]),
      ("requested_label_binding_sha256", .null), ("requested_label_binding_verified", .bool true),
      ("root_process_generation_sha256", .str rootDigest),
      ("run_id", .str "00000000-0000-4000-8000-000000000001"), ("schema_version", .int 5),
      ("state_transition_sha256", .null), ("wfp_evidence_sha256", .null),
      ("wfp_proof_capable", .bool false)]),
    ("run_context", .obj [
      ("candidate_endpoint", .null), ("clone_id_sha256", .str machineDigest),
      ("cohort", .str "C012"), ("completed_at_unix", .int 1600), ("credential_set_id", .null),
      ("expected_company", .null), ("expected_server", .null), ("expected_trade_mode", .null),
      ("experiment_id", .str "11111111-1111-4111-8111-111111111111"),
      ("portable_root_path_sha256", .str machineDigest),
      ("requested_server_label_sha256", .str machineDigest), ("started_at_unix", .int 1000),
      ("terminal_build", .int 5000), ("terminal_sha256", .str machineDigest),
      ("windows_user_sid_sha256", .str machineDigest)]),
    ("run_id", .str "00000000-0000-4000-8000-000000000001"), ("schema_version", .int 6),
    ("state_transition", .obj [
      ("account_cache_state", .str "ABSENT"), ("broker_cache_state", .str "ABSENT"),
      ("schema_version", .int 1), ("sensitive_material_exported", .bool false),
      ("stage", .str "C0_INITIAL"), ("transition_evidence_sha256", .null),
      ("transition_verified", .bool true)]),
    ("timeline", .obj [
      ("events", .arr [
        .obj [("code", .str "C0_BASELINE_START"), ("qpc", .int 1000000), ("sequence", .int 1),
          ("timestamp_unix_ms", .int 1000000)],
        .obj [("code", .str "C0_BASELINE_END"), ("qpc", .int 1600000), ("sequence", .int 2),
          ("timestamp_unix_ms", .int 1600000)]]),
      ("qpc_frequency_hz", .int 1000), ("schema_version", .int 1)]),
    ("timing", .obj [
      ("baseline_seconds", .int 600), ("blocked_observation_seconds", .int 0),
      ("connected_steady_seconds", .int 0), ("exact_discovery_seconds", .int 0),
      ("login_observation_seconds", .int 0), ("negative_discovery_seconds", .int 0),
      ("network_interruption_seconds", .int 0), ("reconnect_observation_seconds", .int 0),
      ("separation_from_c3_seconds", .int 0)])]

def emptySummary : JsonValue := .obj [("dns_events", .arr []), ("flows", .arr [])]

def emptyExport : String := "\x7b\x7d"

def wholeText (value : JsonValue) : String := canonicalJson (fun _ => "") value

theorem summaryDigest_hex : isLowerSha256 summaryDigest = true := by
  decide +kernel

/-- ASCII tables, no addresses, and the digests and the JSON texts of the captured C0. -/
def baselineEnv : LabEnv where
  unicode := ⟨fun _ => .letter, fun _ => false, fun _ => false, fun c => [c], id⟩
  addresses := ⟨fun _ => none, fun _ => "", fun _ => true, fun _ => false, fun _ => false⟩
  floatText := fun _ => ""
  loads := fun bytes =>
    if bytes = utf8Bytes (wholeText emptySummary) then some emptySummary
    else if bytes = utf8Bytes (wholeText capturedBaseline) then some capturedBaseline
    else none
  sha256 := fun bytes => if bytes = utf8Bytes emptyExport then etwDigest else summaryDigest
  sha256_hex := fun bytes => by
    split
    · decide +kernel
    · exact summaryDigest_hex

theorem baselineEnv_sha256 (bytes : Bytes) : baselineEnv.sha256 bytes =
    if bytes = utf8Bytes emptyExport then etwDigest else summaryDigest := rfl

theorem baselineEnv_loads (bytes : Bytes) : baselineEnv.loads bytes =
    if bytes = utf8Bytes (wholeText emptySummary) then some emptySummary
    else if bytes = utf8Bytes (wholeText capturedBaseline) then some capturedBaseline
    else none := rfl

/-- The evidence of C0 with its two exports and nothing of C1 and C2. -/
def baselineFiles : ArtifactManifest
  | .evidence .c0 => some (utf8Bytes (wholeText capturedBaseline))
  | .etwEvidenceExport => some (utf8Bytes emptyExport)
  | .networkSummary => some (utf8Bytes (wholeText emptySummary))
  | _ => none

/-- What the checks read of the body of the captured C0. -/
def baselineFacts (body : Evidence) : Bool :=
  body.control = .c0 && body.runId = "00000000-0000-4000-8000-000000000001" &&
    body.proofBinding.provenance.origin = .capturedExport &&
    body.proofBinding.provenance.syntheticFixture = false &&
    body.proofBinding.etwEvidenceSha256 = some etwDigest &&
    body.proofBinding.wfpEvidenceSha256 = none &&
    body.network.flowRecordSetSha256 = some summaryDigest &&
    body.network.candidateTcpFlows = 0 && body.network.otherTcpFlows = 0 &&
    body.network.processScopedTcpFlows = 0 && body.network.dnsEvents = 0 &&
    clockCoherent body.timeline

theorem wholeText_emptySummary :
    wholeText emptySummary = "\x7b\"dns_events\":[],\"flows\":[]\x7d" := by
  decide +kernel

theorem wholeText_ne : wholeText capturedBaseline ≠ wholeText emptySummary := by
  rw [wholeText_emptySummary]
  decide +kernel

theorem utf8Bytes_ne_nil {text : String} (h : text ≠ "") : utf8Bytes text ≠ [] := by
  intro hnil
  apply h
  apply utf8Bytes_injective
  exact hnil

theorem baseline_checked {body : Evidence} (h : baselineFacts body = true) :
    BodyChecked baselineEnv baselineFiles false .c0 body := by
  simp only [baselineFacts, Bool.and_eq_true, decide_eq_true_eq] at h
  obtain ⟨⟨⟨⟨⟨⟨⟨⟨⟨⟨⟨_, _⟩, horigin⟩, hsynthetic⟩, hetw⟩, hwfp⟩, hsummary⟩, hcandidate⟩, hother⟩,
    hprocess⟩, hdns⟩, hclocks⟩ := h
  have hexport : utf8Bytes emptyExport ≠ [] := utf8Bytes_ne_nil (by decide +kernel)
  have hempty : utf8Bytes (wholeText emptySummary) ≠ [] := utf8Bytes_ne_nil (by decide +kernel)
  have hdigest : baselineEnv.sha256 (utf8Bytes emptyExport) = etwDigest := by
    rw [baselineEnv_sha256, if_pos rfl]
  have hcontract : contractDigest baselineEnv "NETWORK_SUMMARY" 1 emptySummary = summaryDigest := by
    unfold contractDigest
    rw [baselineEnv_sha256, if_neg]
    intro hsame
    have htext := utf8Bytes_injective hsame
    revert htext
    decide +kernel
  have hloads : baselineEnv.loads (utf8Bytes (wholeText emptySummary)) = some emptySummary := by
    rw [baselineEnv_loads, if_pos rfl]
  exact {
    provenance := by simp [checkProvenance, horigin, hsynthetic]
    exports := fun _ => ⟨Or.inr ⟨_, rfl, hexport⟩, Or.inl hwfp, Or.inr ⟨_, rfl, hempty⟩⟩
    etw := ⟨_, rfl, hexport, baselineEnv.sha256_hex _, by rw [hetw, hdigest]⟩
    wfp := fun hdirect => by simp [Control.direct] at hdirect
    candidate := by omega
    attribution := by omega
    summary := by
      refine ⟨emptySummary, ⟨_, rfl, hempty, hloads, contractDigest_hex _ _ _ _, ?_⟩, ?_⟩
      · rw [hsummary, hcontract]
      · intro summary hobject
        cases hobject
        simp [crossCheckNetworkSummaryContent, JsonValue.get, List.lookup_cons, hprocess, hdns]
    clocks := hclocks }

open rejectSensitiveContent in
/-- A mapping may be searched part by part. -/
theorem walkMembers_split {tables : UnicodeTables} {path : List String} {members : Members} (n : Nat)
    (hfirst : walkMembers tables path (members.take n) = .ok ())
    (hrest : walkMembers tables path (members.drop n) = .ok ()) :
    walkMembers tables path members = .ok () := by
  induction members generalizing n with
  | nil => rfl
  | cons member rest ih =>
    obtain ⟨key, value⟩ := member
    cases n with
    | zero => exact hrest
    | succ n =>
      rw [List.take_succ_cons, walkMembers] at hfirst
      rw [walkMembers]
      split at hfirst
      next => cases hfirst
      next hkey =>
        rw [if_neg hkey]
        split at hfirst
        next => cases hfirst
        next => exact ih n hfirst hrest

/-- The document is accepted and its body satisfies the facts. -/
def holdsOf (facts : Evidence → Bool) : Except String Evidence → Bool
  | .ok body => facts body
  | .error _ => false

set_option maxRecDepth 10000 in
theorem capturedBaseline_clean :
    rejectSensitiveContent baselineEnv.unicode [] capturedBaseline = .ok () :=
  walkMembers_split 5 (by decide +kernel)
    (walkMembers_split 5 (by decide +kernel)
      (walkMembers_split 4 (by decide +kernel) (by decide +kernel)))

set_option maxRecDepth 10000 in
theorem capturedBaseline_valid : (match validateEvidence baselineEnv capturedBaseline with
    | .ok body => baselineFacts body
    | .error _ => false) = true := by
  have hrest : ∃ rest, validateEvidence baselineEnv capturedBaseline = rest ∧
      holdsOf baselineFacts rest = true := by
    -- the search has been evaluated in parts
    unfold validateEvidence
    rw [capturedBaseline_clean]
    exact ⟨_, rfl, by decide +kernel⟩
  obtain ⟨rest, hvalid, hfacts⟩ := hrest
  rw [hvalid]
  exact hfacts

theorem baseline_read : ∃ body, baselineFacts body = true ∧
    bodyOf baselineEnv baselineFiles .c0 = some body := by
  have hvalid := capturedBaseline_valid
  cases hread : validateEvidence baselineEnv capturedBaseline with
  | error error =>
    rw [hread] at hvalid
    cases hvalid
  | ok body =>
    rw [hread] at hvalid
    have hcontrol : body.control = .c0 := by
      simp only [baselineFacts, Bool.and_eq_true, decide_eq_true_eq] at hvalid
      exact hvalid.1.1.1.1.1.1.1.1.1.1.1
    have hother : utf8Bytes (wholeText capturedBaseline) ≠ utf8Bytes (wholeText emptySummary) :=
      fun h => wholeText_ne (utf8Bytes_injective h)
    have hloads : baselineEnv.loads (utf8Bytes (wholeText capturedBaseline)) =
        some capturedBaseline := by
      rw [baselineEnv_loads, if_neg hother, if_pos rfl]
    exact ⟨body, hvalid, bodyOf_of_valid rfl hloads hread hcontrol⟩

theorem baseline_manifest (runId : String) :
    buildRunArtifactManifest (directoryOf baselineFiles runId) runId = baselineFiles := by
  apply manifest_directoryOf
  intro role hrole
  unfold baselineFiles
  split
  next => simp [ArtifactRole.all, Control.all] at hrole
  next => simp [ArtifactRole.all] at hrole
  next => simp [ArtifactRole.all] at hrole
  next => rfl

/-- The C0 passes under every run id, without C1 and C2. -/
theorem baseline_passes {runId : String} (h : isCanonicalUuid runId = true) :
    Passes baselineEnv (directoryOf baselineFiles runId) runId false := by
  obtain ⟨body, hfacts, hbody⟩ := baseline_read
  have habsent : ∀ control, control ≠ .c0 →
      readEvidenceFile baselineEnv baselineFiles control = .absent := by
    intro control hne
    apply readEvidenceFile_absent
    cases control with
    | c0 => exact absurd rfl hne
    | c1 | c2 | c3 | c4 | c5 => rfl
  have honly : ∀ control found, bodyOf baselineEnv baselineFiles control = some found →
      control = .c0 ∧ found = body := by
    intro control found hfound
    by_cases hc : control = .c0
    · subst hc
      rw [hbody] at hfound
      cases hfound
      exact ⟨rfl, rfl⟩
    · rw [bodyOf_eq_some, habsent control hc] at hfound
      cases hfound
  rw [passes_iff, baseline_manifest]
  refine ⟨h, ?_⟩
  exact {
    some_body := ⟨.c0, body, hbody⟩
    none_refused := fun control reason hrefused => by
      by_cases hc : control = .c0
      · subst hc
        rw [bodyOf_eq_some.mp hbody] at hrefused
        cases hrefused
      · rw [habsent control hc] at hrefused
        cases hrefused
    bodies := fun control found hfound => by
      obtain ⟨rfl, rfl⟩ := honly control found hfound
      exact bodyPasses_iff.mpr (baseline_checked hfacts)
    continuity := fun hpresent => by
      obtain ⟨found, hfound⟩ := Option.isSome_iff_exists.mp (hpresent .c1 (by simp [Control.c012]))
      have hsame := (honly .c1 found hfound).1
      cases hsame
    sequence := fun hpresent => by
      obtain ⟨control, hdirect, hsome⟩ := hpresent
      obtain ⟨found, hfound⟩ := Option.isSome_iff_exists.mp hsome
      have hsame := (honly control found hfound).1
      subst hsame
      simp [Control.direct] at hdirect }

/-- A C0 without C1 and C2 passes. -/
theorem baseline_alone_not_closed : ¬ FailsClosed baselineEnv
    (directoryOf baselineFiles "00000000-0000-4000-8000-000000000001")
    "00000000-0000-4000-8000-000000000001" false := by
  intro h
  have htogether := h.together (baseline_passes (by decide +kernel)) Control.c012 (by simp)
  simp only [evidenceIn_iff, baseline_manifest] at htogether
  have hfile : baselineFiles (.evidence .c0) ≠ none := by simp [baselineFiles]
  exact htogether ⟨.c0, by simp [Control.c012], hfile⟩ .c1 (by simp [Control.c012]) rfl

end CapturedBaseline

end TradeJournalWorker.Lab
