import Mathlib.Data.List.Dedup
import TradeJournalWorker.VerdictSupport

namespace TradeJournalWorker.Lab

open StagedChecks

/-- `str` of a nullable text. -/
def shownText (text : Option String) : String := text.getD "None"

/-- The size of the set of some texts. -/
def distinct (texts : List String) : Nat := texts.dedup.length

/-- What `evaluate_campaign` is given beside the evidence, its documents validated. -/
structure CampaignInputs where
  manifest : Option ExperimentManifest
  plans : Control → Option ControlPlan
  handoff : Option CandidateHandoff
  /-- the digest of the direct campaign manifest -/
  directManifest : Option String
  allowSynthetic : Bool

def sharedControls : List Control := [.c0, .c1, .c2]

def loginControls : List Control := [.c2, .c3, .c4, .c5]

def directControls : List Control := [.c3, .c4, .c5]

def identityControls : List Control := [.c2, .c3, .c5]

/-- The evidence of each control. -/
def ofControls (e0 e1 e2 e3 e4 e5 : Evidence) : Control → Evidence
  | .c0 => e0
  | .c1 => e1
  | .c2 => e2
  | .c3 => e3
  | .c4 => e4
  | .c5 => e5

def evidenceOf (evidences : List Evidence) (control : Control) : Except Evaluation Evidence :=
  orUnproven (evidences.find? fun evidence => evidence.control = control)
    "campaign_controls_incomplete"

/-- `by_control` -/
def byControl (evidences : List Evidence) : Except Evaluation (Control → Evidence) := do
  settle (¬ (evidences.map Evidence.control).Nodup) (unproven "duplicate_control_evidence")
  let e0 ← evidenceOf evidences .c0
  let e1 ← evidenceOf evidences .c1
  let e2 ← evidenceOf evidences .c2
  let e3 ← evidenceOf evidences .c3
  let e4 ← evidenceOf evidences .c4
  let e5 ← evidenceOf evidences .c5
  return ofControls e0 e1 e2 e3 e4 e5

section Stages

variable (env : LabEnv) (campaign : Control → Evidence) (inputs : CampaignInputs)

/-- The texts of some controls differ. -/
def differ (controls : List Control) (text : Evidence → String) : Prop :=
  distinct (controls.map fun control => text (campaign control)) ≠ 1

instance (controls : List Control) (text : Evidence → String) :
    Decidable (differ campaign controls text) := by
  unfold differ
  infer_instance

/-- Two of some controls have the same text. -/
def coincide (controls : List Control) (text : Evidence → String) : Prop :=
  distinct (controls.map fun control => text (campaign control)) ≠ controls.length

instance (controls : List Control) (text : Evidence → String) :
    Decidable (coincide campaign controls text) := by
  unfold coincide
  infer_instance

/-- The falsifications that no missing document may hide. -/
def checkCampaignSecrets : List Control → Except Evaluation Unit
  | [] => .ok ()
  | control :: rest => do
    settle ((campaign control).discovery.helperSecretAccessed = true)
      (contradicted (control.text ++ "_helper_accessed_sensitive_material"))
    settle ((campaign control).discovery.unsafeEndpointPromoted = true)
      (contradicted (control.text ++ "_unsafe_endpoint_promoted"))
    checkCampaignSecrets rest

def initialDigest (evidence : Evidence) : String :=
  shownText evidence.initialPreStateBinding.initialC012PreStateSha256

/-- The commitment of C0 to the state that it met. -/
def expectedInitialDigest (evidence : Evidence) : String :=
  initialC012PreStateDigest env evidence.runContext.experimentId
    (shownText evidence.lifecycleBinding.c012SessionId)
    evidence.runContext.portableRootPathSha256 (evidence.preState.getD [])

/-- `allowed_broker_cache_transitions` -/
def allowedCacheTransitions : List (String × String) :=
  [("CREATED_RECORDED", "INHERITED_RECORDED"), ("ABSENT_RECORDED", "CREATED_RECORDED"),
    ("ABSENT_RECORDED", "ABSENT_RECORDED")]

/-- C0, C1 and C2 are one session of one Job with one process. -/
def checkSession : Except Evaluation Unit := do
  settle (differ campaign sharedControls fun e => shownText e.proofBinding.jobManifestSha256)
    (unproven "c012_job_manifest_mismatch")
  settle (differ campaign sharedControls fun e => e.proofBinding.jobIdentitySha256)
    (unproven "c012_job_identity_mismatch")
  settle (differ campaign sharedControls fun e => e.proofBinding.rootProcessGenerationSha256)
    (unproven "c012_process_generation_mismatch")
  settle (differ campaign sharedControls fun e => shownText e.lifecycleBinding.c012SessionId)
    (unproven "c012_lifecycle_session_mismatch")
  settle (differ campaign sharedControls fun e => e.lifecycleBinding.jobId)
    (unproven "c012_lifecycle_session_mismatch")
  settle (differ campaign sharedControls fun e => lifecycleTerm e.control "lifecycle_mode")
    (unproven "c012_lifecycle_session_mismatch")
  settle (differ campaign sharedControls initialDigest)
    (unproven "c012_initial_pre_state_commitment_mismatch")
  settle (initialDigest (campaign .c0) ≠ expectedInitialDigest env (campaign .c0))
    (contradicted "c012_initial_pre_state_digest_mismatch")
  let discovered := (campaign .c1).stateTransition
  let loggedIn := (campaign .c2).stateTransition
  settle (discovered.transitionVerified = true ∧ loggedIn.transitionVerified = true ∧
      (discovered.brokerCacheState, loggedIn.brokerCacheState) ∉ allowedCacheTransitions)
    (contradicted "c012_state_transition_incompatible")
  settle (differ campaign sharedControls fun e =>
      shownText e.runContext.requestedServerLabelSha256)
    (unproven "c012_requested_label_mismatch")

def checkCampaignConfig : Except Evaluation Unit := do
  settle (∃ known ∈ inputs.manifest, ∃ control ∈ Control.all,
      (campaign control).runContext.experimentId ≠ known.experimentId)
    (unproven "campaign_config_experiment_id_mismatch")
  settle (∃ known ∈ inputs.manifest, ∃ control ∈ sharedControls,
      (campaign control).runContext.requestedServerLabelSha256 ≠
        some (requestedLabelDigest env known))
    (unproven "c012_requested_label_mismatch")

/-- The identities that C2, C3 and C5 saw, when all three saw one. -/
def observedIdentities : Option (List Identity) :=
  identityControls.mapM fun control => (campaign control).identity

def checkCampaignIdentity : Except Evaluation Unit := do
  settle (differ campaign loginControls fun e => shownText e.runContext.expectedServer)
    (contradicted "canonical_identity_changed")
  settle (differ campaign loginControls fun e => shownText e.runContext.expectedCompany)
    (contradicted "canonical_identity_changed")
  settle (differ campaign loginControls fun e => shownText (expectedTradeMode e.runContext))
    (contradicted "canonical_identity_changed")
  settle (∃ identities ∈ observedIdentities campaign,
      distinct (identities.map Identity.server) ≠ 1 ∨
        distinct (identities.map Identity.company) ≠ 1 ∨
        distinct (identities.map Identity.tradeMode) ≠ 1)
    (contradicted "verified_identity_changed")
  settle (∃ known ∈ inputs.manifest, ∃ control ∈ loginControls,
      (campaign control).runContext.expectedServer ≠ some known.expectedIdentity.server ∨
        (campaign control).runContext.expectedCompany ≠ some known.expectedIdentity.company ∨
        expectedTradeMode (campaign control).runContext ≠ some known.expectedIdentity.tradeMode)
    (unproven "campaign_config_expected_identity_mismatch")

/-- C3, C4 and C5 follow each other, by their contexts and by their timelines. -/
def directOrderInvalid : Prop :=
  (campaign .c4).runContext.startedAtUnix < (campaign .c3).runContext.completedAtUnix ∨
    (campaign .c5).runContext.startedAtUnix < (campaign .c4).runContext.completedAtUnix ∨
    firstTimestamp (campaign .c4).timeline < lastTimestamp (campaign .c3).timeline ∨
    firstTimestamp (campaign .c5).timeline < lastTimestamp (campaign .c4).timeline ∨
    ∃ known ∈ inputs.manifest,
      (campaign .c5).runContext.startedAtUnix - (campaign .c3).runContext.completedAtUnix <
          known.durationsSeconds.c5SeparationMinimum ∨
        firstTimestamp (campaign .c5).timeline - lastTimestamp (campaign .c3).timeline <
          known.durationsSeconds.c5SeparationMinimum * 1000

instance : Decidable (directOrderInvalid campaign inputs) := by
  unfold directOrderInvalid
  infer_instance

def checkDirectOrder : Except Evaluation Unit := do
  let produced := (campaign .c2).runContext.completedAtUnix
  settle (directOrderInvalid campaign inputs) (unproven "direct_controls_temporal_order_invalid")
  settle ((campaign .c3).runContext.startedAtUnix < produced ∨
      (campaign .c5).runContext.startedAtUnix < produced)
    (unproven "cold_boot_started_before_candidate_produced")
  settle ((campaign .c4).runContext.startedAtUnix < produced)
    (unproven "negative_control_started_before_candidate_produced")

def identityTermsJson (identity : ExpectedIdentity) : JsonValue :=
  .obj [("server", .str identity.server), ("company", .str identity.company),
    ("trade_mode", .str identity.tradeMode)]

/-- What the probe saw in the terms of the handoff. -/
def identityTerms (identity : Identity) : ExpectedIdentity where
  server := identity.server
  company := identity.company
  tradeMode := identity.tradeMode

/-- The handoff was made from the evidence of C2. -/
def checkHandoffOrigin (handoff : CandidateHandoff) : Except Evaluation Unit := do
  let login := campaign .c2
  let plan ← orUnproven (inputs.plans .c2) "candidate_handoff_c2_plan_missing"
  settle (handoff.c2RunId ≠ login.runId ∨
      handoff.c2ControlPlanSha256 ≠ plan.controlPlanSha256 ∨
      handoff.c2EvidenceSha256 ≠ contractEvidenceDigest env login)
    (contradicted "candidate_handoff_c2_binding_mismatch")
  settle (handoff.lifecycleMode ≠ lifecycleTerm login.control "lifecycle_mode" ∨
      some handoff.c012SessionId ≠ login.lifecycleBinding.c012SessionId ∨
      some handoff.initialC012PreStateSha256 ≠
        login.initialPreStateBinding.initialC012PreStateSha256 ∨
      some handoff.c2LifecycleBindingSha256 ≠ login.proofBinding.lifecycleBindingSha256)
    (contradicted "candidate_handoff_c012_lifecycle_binding_mismatch")
  let identity ← orUnproven login.identity "candidate_handoff_c2_identity_missing"
  settle (canonicalJson env.floatText (identityTermsJson handoff.canonicalIdentity) ≠
      canonicalJson env.floatText (identityTermsJson (identityTerms identity)))
    (contradicted "candidate_handoff_identity_mismatch")
  settle (handoff.producedAtUnixMs ≠ lastTimestamp login.timeline)
    (contradicted "candidate_handoff_timestamp_mismatch")
  let direct ← orUnproven inputs.directManifest "direct_campaign_manifest_missing"
  settle (handoff.directCampaignManifestSha256 ≠ direct)
    (contradicted "candidate_handoff_direct_manifest_mismatch")

def checkCampaignHandoff : Except Evaluation Unit :=
  match inputs.handoff with
  | some handoff => checkHandoffOrigin env campaign inputs handoff
  | none => .ok ()

/-- What the verdict of one control is given. -/
def controlInputs (control : Control) : VerdictInputs where
  manifest := inputs.manifest
  plan := inputs.plans control
  handoff := if control.early then none else inputs.handoff
  campaignHandoffVerified :=
    inputs.handoff.isSome && inputs.directManifest.isSome && !control.early
  allowSynthetic := inputs.allowSynthetic
  c3CompletedAtUnixMs :=
    if control = .c5 then some (lastTimestamp (campaign .c3).timeline) else none

def outcomeOf (control : Control) : VerdictOutcome :=
  (evaluateValidatedEvidence env (campaign control)
    (controlInputs campaign inputs control)).outcome

/-- `expected_positive` -/
def expectedPositive : VerdictOutcome := if inputs.allowSynthetic then .syntheticPass else .pass

def checkOutcomes : Except Evaluation Unit := do
  let failed := Control.all.filter fun control => outcomeOf env campaign inputs control = .fail
  settle (failed ≠ [])
    { outcome := .fail, reasons := failed.map fun control => control.text ++ "_failed" }
  settle (inputs.manifest = none) (unproven "campaign_config_manifest_missing")
  let incomplete := Control.all.filter fun control =>
    outcomeOf env campaign inputs control ≠ expectedPositive inputs
  settle (incomplete ≠ [])
    { outcome := .inconclusive
      reasons := incomplete.map fun control => control.text ++ "_inconclusive" }

def firstQpc (timeline : Timeline) : Int := (timeline.events.map TimelineEvent.qpc).headD 0

def lastQpc (timeline : Timeline) : Int := (timeline.events.map TimelineEvent.qpc).getLastD 0

def checkTimelinePair (earlier later : Timeline) : Except Evaluation Unit := do
  settle (firstTimestamp later < lastTimestamp earlier)
    (unproven "c012_timeline_timestamp_order_invalid")
  settle (firstQpc later ≤ lastQpc earlier) (unproven "c012_timeline_qpc_order_invalid")

/-- `_validate_c012_timeline_order` -/
def validateC012TimelineOrder : Except Evaluation Unit := do
  let frequency := (campaign .c0).timeline.qpcFrequencyHz
  settle (¬ (frequency = (campaign .c1).timeline.qpcFrequencyHz ∧
      frequency = (campaign .c2).timeline.qpcFrequencyHz))
    (unproven "c012_timeline_frequency_mismatch")
  checkTimelinePair (campaign .c0).timeline (campaign .c1).timeline
  checkTimelinePair (campaign .c1).timeline (campaign .c2).timeline

/-- C3, C4 and C5 have a text each, and none of them that of C0. -/
def notIndependent (text : Evidence → String) : Prop :=
  coincide campaign directControls text ∨
    text (campaign .c0) ∈ directControls.map fun control => text (campaign control)

instance (text : Evidence → String) : Decidable (notIndependent campaign text) := by
  unfold notIndependent
  infer_instance

/-- The runs of the campaign are six, on one machine for C0, C1 and C2 and on others after. -/
def checkInstances : Except Evaluation Unit := do
  settle ((campaign .c1).identity.isSome = true) (contradicted "c1_identity_not_null")
  settle (coincide campaign Control.all fun e => e.runId) (unproven "run_ids_not_unique")
  settle (differ campaign Control.all fun e => e.runContext.experimentId)
    (unproven "experiment_id_mismatch")
  settle (differ campaign Control.all fun e => e.runContext.terminalSha256)
    (unproven "terminal_hash_changed")
  settle (differ campaign Control.all fun e => toString e.runContext.terminalBuild)
    (unproven "terminal_build_changed")
  settle (differ campaign sharedControls fun e => e.runContext.cloneIdSha256)
    (unproven "c012_not_same_logical_instance")
  settle (differ campaign sharedControls fun e => e.runContext.windowsUserSidSha256)
    (unproven "c012_not_same_logical_instance")
  settle (differ campaign sharedControls fun e => e.runContext.portableRootPathSha256)
    (unproven "c012_not_same_logical_instance")
  settle (differ campaign sharedControls fun e => e.proofBinding.jobIdentitySha256)
    (unproven "c012_job_identity_mismatch")
  settle (differ campaign sharedControls fun e => e.proofBinding.rootProcessGenerationSha256)
    (unproven "c012_process_generation_mismatch")
  settle ((campaign .c1).runContext.startedAtUnix < (campaign .c0).runContext.completedAtUnix ∨
      (campaign .c2).runContext.startedAtUnix < (campaign .c1).runContext.completedAtUnix)
    (unproven "c012_phase_order_mismatch")
  settle (notIndependent campaign fun e => e.runContext.cloneIdSha256)
    (unproven "cold_boot_instances_not_independent")
  settle (notIndependent campaign fun e => e.runContext.windowsUserSidSha256)
    (unproven "cold_boot_instances_not_independent")
  settle (notIndependent campaign fun e => e.runContext.portableRootPathSha256)
    (unproven "cold_boot_instances_not_independent")
  settle (notIndependent campaign fun e => e.proofBinding.jobIdentitySha256)
    (unproven "cold_clone_job_identity_reused")
  settle (notIndependent campaign fun e => e.proofBinding.rootProcessGenerationSha256)
    (unproven "cold_clone_process_generation_reused")

/-- One candidate and one set of credentials, and no artifact used for two runs. -/
def checkArtifacts : Except Evaluation Unit := do
  settle (∃ control ∈ loginControls, (campaign control).runContext.candidateEndpoint = none)
    (unproven "campaign_candidate_not_bound")
  settle (differ campaign loginControls fun e =>
      canonicalJson env.floatText (candidateJson e.runContext.candidateEndpoint))
    (unproven "candidate_changed_across_controls")
  settle (differ campaign loginControls fun e =>
      shownText e.proofBinding.candidateEndpointSha256)
    (unproven "candidate_proof_binding_changed")
  settle (differ campaign loginControls fun e => shownText e.runContext.credentialSetId)
    (unproven "campaign_credential_set_mismatch")
  settle (coincide campaign Control.all fun e => e.proofBinding.provenance.artifactSetId)
    (unproven "proof_binding_reused_across_runs")
  settle (coincide campaign Control.all fun e => shownText e.proofBinding.phaseTimelineSha256)
    (unproven "phase_timeline_reused_across_runs")
  settle (coincide campaign Control.all fun e => shownText e.proofBinding.etwEvidenceSha256)
    (unproven "etw_evidence_reused_across_runs")
  settle (coincide campaign directControls fun e => shownText e.proofBinding.jobManifestSha256)
    (unproven "cold_clone_job_manifest_reused")
  settle (coincide campaign directControls fun e => shownText e.proofBinding.wfpEvidenceSha256)
    (unproven "cold_clone_wfp_evidence_reused")
  settle (coincide campaign directControls fun e => shownText e.proofBinding.firewallPlanSha256)
    (unproven "cold_clone_firewall_plan_reused")

def probeOutput (evidence : Evidence) : String :=
  shownText (evidence.identity.bind Identity.identityProbeOutputSha256)

/-- The checks on separation, identities and provenance at the end of the campaign. -/
def checkClosing : Except Evaluation Unit := do
  let separation := firstTimestamp (campaign .c5).timeline - lastTimestamp (campaign .c3).timeline
  settle (separation < 0) (unproven "c5_started_before_c3_completed")
  settle (∃ known ∈ inputs.manifest, separation < known.durationsSeconds.c5SeparationMinimum * 1000)
    (unproven "c3_c5_separation_not_proven")
  settle (∃ identities ∈ observedIdentities campaign,
      distinct (identities.map Identity.server) ≠ 1 ∨
        distinct (identities.map Identity.company) ≠ 1 ∨
        distinct (identities.map Identity.tradeMode) ≠ 1)
    (contradicted "verified_identity_changed")
  settle (differ campaign loginControls fun e => shownText e.runContext.expectedServer)
    (contradicted "canonical_identity_changed")
  settle (differ campaign loginControls fun e => shownText e.runContext.expectedCompany)
    (contradicted "canonical_identity_changed")
  settle (differ campaign loginControls fun e => shownText (expectedTradeMode e.runContext))
    (contradicted "canonical_identity_changed")
  settle (∃ control ∈ identityControls, (campaign control).identity = none)
    (unproven "identity_probe_output_missing")
  settle ("None" ∈ (identityControls.map fun control => probeOutput (campaign control)) ∨
      coincide campaign identityControls probeOutput)
    (unproven "identity_probe_output_reused_across_runs")
  settle (∃ control ∈ Control.all,
      (campaign control).proofBinding.provenance.origin ≠ .syntheticFixture)
    (unproven "campaign_provenance_not_verified")

def checkCampaign : Except Evaluation Unit := do
  checkCampaignSecrets campaign Control.all
  checkSession env campaign
  checkCampaignConfig env campaign inputs
  checkCampaignIdentity campaign inputs
  checkDirectOrder campaign inputs
  checkCampaignHandoff env campaign inputs
  checkOutcomes env campaign inputs
  validateC012TimelineOrder campaign
  checkInstances campaign
  checkArtifacts env campaign
  checkClosing campaign inputs

end Stages

section Campaign

variable (env : LabEnv) (inputs : CampaignInputs)

/-- `evaluate_campaign` once every document is validated. -/
def evaluateValidatedCampaign (evidences : List Evidence) : Evaluation :=
  match (do checkCampaign env (← byControl evidences) inputs) with
  | .error verdict => verdict
  | .ok () =>
    { outcome := .syntheticPass
      reasons := ["c0_c5_campaign_supports_direct_candidate_reuse"] }

/-- `evaluate_campaign` from the documents of the evidence. -/
def evaluateCampaign (payloads : List JsonValue) : Except String Evaluation := do
  let evidences ← payloads.mapM (validateEvidence env)
  return evaluateValidatedCampaign env inputs evidences

end Campaign

end TradeJournalWorker.Lab
