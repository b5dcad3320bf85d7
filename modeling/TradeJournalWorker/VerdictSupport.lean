import TradeJournalWorker.VerdictPrecedence

namespace TradeJournalWorker.Lab

open StagedChecks

theorem checkDigest_eq_none {digest : Option String} {expected gap mismatch : String}
    (h : checkDigest digest expected gap mismatch = .ok none) : digest = some expected := by
  unfold checkDigest at h
  split at h
  next => cases h
  next digest =>
    split at h
    next hsame => rw [hsame]
    next => cases h

theorem leaveNoGap_eq_ok {gap : Option String} (h : leaveNoGap gap = .ok ()) : gap = none := by
  cases gap with
  | none => rfl
  | some reason => cases h

theorem of_leaveNoGap_bind {β : Type} {gap : Option String} {next : Unit → Except Evaluation β}
    {value : β} (h : (leaveNoGap gap >>= next) = .ok value) :
    gap = none ∧ next () = .ok value := by
  obtain ⟨_, hgap, hrest⟩ := except_bind_eq_ok h
  exact ⟨leaveNoGap_eq_ok hgap, hrest⟩

section Bindings

variable (env : LabEnv) (evidence : Evidence) (manifest : ExperimentManifest)

/-- The evidence belongs to the experiment that the manifest commits to. -/
structure ManifestBound : Prop where
  digest : evidence.proofBinding.experimentManifestSha256 = some manifest.experimentManifestSha256
  experiment : evidence.runContext.experimentId = manifest.experimentId
  terminal : evidence.runContext.terminalSha256 = manifest.terminalSha256
  port : ∀ candidate ∈ evidence.runContext.candidateEndpoint,
    candidate.port ∈ manifest.allowedRemotePorts
  identity : evidence.control ≠ .c0 → evidence.control ≠ .c1 →
    evidence.runContext.expectedServer = some manifest.expectedIdentity.server ∧
      evidence.runContext.expectedCompany = some manifest.expectedIdentity.company ∧
      expectedTradeMode evidence.runContext = some manifest.expectedIdentity.tradeMode
  label : evidence.control.early = true →
    evidence.runContext.requestedServerLabelSha256 = some (requestedLabelDigest env manifest) ∧
      evidence.proofBinding.requestedLabelBindingSha256 =
        some (labelBindingDigest env evidence manifest)

/-- The evidence belongs to the run that the plan commits to, with its Job, its root and its
states. -/
structure PlanBound (plan : ControlPlan) : Prop where
  run : plan.runId = evidence.runId ∧ plan.control = evidence.control ∧
    plan.experimentId = evidence.runContext.experimentId
  digest : evidence.proofBinding.controlPlanSha256 = some plan.controlPlanSha256
  manifest : plan.experimentManifestSha256 = manifest.experimentManifestSha256
  root : evidence.runContext.portableRootPathSha256 = plan.terminalDataPathSha256
  session : evidence.lifecycleBinding.c012SessionId = plan.c012SessionId
  job : evidence.proofBinding.jobManifestSha256 =
      some evidence.lifecycleBinding.jobManifestSha256 ∧
    evidence.proofBinding.jobIdentitySha256 = evidence.lifecycleBinding.jobIdentitySha256 ∧
    evidence.proofBinding.rootProcessGenerationSha256 =
      evidence.lifecycleBinding.rootProcessGenerationSha256
  lifecycle : evidence.proofBinding.lifecycleBindingSha256 =
    some (lifecycleBindingDigest env evidence.runId evidence.control plan.controlPlanSha256
      evidence.lifecycleBinding)
  portableRoot : evidence.proofBinding.jobPortableRootBindingSha256 =
    some (jobPortableRootBindingDigest env evidence.runId
      evidence.lifecycleBinding.jobManifestSha256 evidence.lifecycleBinding.jobIdentitySha256
      evidence.lifecycleBinding.rootProcessGenerationSha256
      evidence.runContext.portableRootPathSha256)
  preState : evidence.proofBinding.preStateBindingSha256 =
    some (preStateBindingDigest env evidence)
  transition : evidence.proofBinding.stateTransitionSha256 =
    some (stateTransitionDigest env evidence) ∧ evidence.stateTransition.transitionVerified = true
  firewallRoot : evidence.control.early = false → ∃ firewallPlan candidate,
    evidence.proofBinding.firewallPlanSha256 = some firewallPlan ∧
      evidence.proofBinding.candidateEndpointSha256 = some candidate ∧
      evidence.proofBinding.firewallPortableRootBindingSha256 =
        some (firewallPortableRootBindingDigest env evidence.runId plan.controlPlanSha256
          firewallPlan evidence.runContext.portableRootPathSha256 candidate)

/-- A direct control uses the candidate of the handoff, and only once it was there. -/
structure HandoffBound (handoff : CandidateHandoff) : Prop where
  digest : evidence.proofBinding.candidateHandoffManifestSha256 =
    some handoff.candidateHandoffManifestSha256
  context : evidence.runContext.experimentId = handoff.experimentId ∧
    evidence.runContext.terminalSha256 = handoff.terminalSha256 ∧
    evidence.runContext.terminalBuild = handoff.terminalBuild
  candidate : canonicalJson env.floatText (candidateJson evidence.runContext.candidateEndpoint) =
    canonicalJson env.floatText (candidateJson (some handoff.candidateEndpoint))
  time : handoff.producedAtUnixMs ≤ firstTimestamp evidence.timeline

/-- The candidate of the context is the one whose digest the proofs carry. -/
def CandidateBound : Prop :=
  evidence.proofBinding.candidateTupleBound = true ∧
    ∃ candidate, evidence.runContext.candidateEndpoint = some candidate ∧
      evidence.proofBinding.candidateEndpointSha256 =
        some (evidenceDigest env (candidateJson (some candidate)))

/-- The probe met the expected demo account through a read-only investor login. -/
structure IdentityShown (plan : ControlPlan) (identity : Identity) : Prop where
  run : identity.probeRunId = evidence.runId
  account : flag identity.flags "account_match" = true
  broker : evidence.runContext.expectedServer = some identity.server ∧
    evidence.runContext.expectedCompany = some identity.company
  demo : identity.tradeMode = "DEMO"
  build : identity.terminalBuild = evidence.runContext.terminalBuild
  window : ∃ window, authenticatedWindow evidence (some plan) = some window ∧
    window.1 ≤ identity.probeGeneratedAtUnix * 1000 ∧
    identity.probeGeneratedAtUnix * 1000 ≤
      window.2 + manifest.durationsSeconds.probeTimestampToleranceSeconds * 1000
  paths : identity.terminalPathSha256 = some plan.terminalPathSha256 ∧
    identity.terminalDataPathSha256 = some plan.terminalDataPathSha256
  binding : ∃ expected, expectedPathBinding env evidence (some plan) identity = some expected ∧
    evidence.proofBinding.probePathBindingSha256 = some expected
  readOnly : flag identity.flags "investor_provenance_confirmed" = true ∧
    flag identity.flags "account_trade_allowed" = false ∧
    flag identity.flags "account_trade_expert" = false ∧
    flag identity.flags "terminal_trade_allowed" = false
  connected : flag identity.flags "terminal_connected" = true

end Bindings

section Shown

variable (env : LabEnv) (evidence : Evidence) (manifest : ExperimentManifest) (plan : ControlPlan)
  (c3CompletedAtUnixMs : Option Int)

def BaselineShown : Prop :=
  evidence.identity = none ∧ cleanState evidence = true ∧
    manifest.durationsSeconds.baseline ≤ evidence.timing.baselineSeconds ∧
    evidence.timing.baselineSeconds ≤ elapsedSeconds evidence

/-- Without credentials one label was found and the query of the manifest found nothing. -/
def DiscoveryShown : Prop :=
  evidence.identity = none ∧ evidence.discovery.credentialsSupplied = false ∧
    evidence.discovery.expectedExactResultCount = 1 ∧
    evidence.discovery.selectedServerLabelSha256 =
      evidence.runContext.requestedServerLabelSha256 ∧
    evidence.discovery.negativeQueryResultCount = some 0 ∧
    evidence.discovery.negativeQueryLabelSha256 = some manifest.negativeQuery.labelSha256 ∧
    evidence.proofBinding.negativeQueryBindingSha256 =
      some (negativeQueryBindingDigest env evidence plan manifest.negativeQuery.labelSha256 0)

def LoginShown : Prop :=
  CandidateBound env evidence ∧ evidence.network.candidateEndpointSafe = true ∧
    candidateFlowProven evidence .login ∧
    ∃ identity, evidence.identity = some identity ∧
      IdentityShown env evidence manifest plan identity

/-- From a clean state the candidate alone led to the account. -/
def DirectShown : Prop :=
  cleanState evidence = true ∧ CandidateBound env evidence ∧
    evidence.network.candidateEndpointSafe = true ∧
    candidateFlowProven evidence (if evidence.control = .c3 then .directOnly else .directRepeat) ∧
    candidateAlone evidence ∧
    (∃ identity, evidence.identity = some identity ∧
      IdentityShown env evidence manifest plan identity) ∧
    (evidence.control = .c5 → ∃ completed, c3CompletedAtUnixMs = some completed ∧
      completed ≤ firstTimestamp evidence.timeline ∧
      manifest.durationsSeconds.c5SeparationMinimum * 1000 ≤
        firstTimestamp evidence.timeline - completed)

/-- With the candidate blocked nothing else led to the account. -/
def BlockedShown : Prop :=
  cleanState evidence = true ∧ CandidateBound env evidence ∧
    evidence.network.candidateConnected = false ∧
    evidence.network.candidateBlockObserved = true ∧ candidateAlone evidence ∧
    evidence.identity = none

def ControlShown : Prop :=
  match evidence.control with
  | .c0 => BaselineShown evidence manifest
  | .c1 => DiscoveryShown env evidence manifest plan
  | .c2 => LoginShown env evidence manifest plan
  | .c4 => BlockedShown env evidence
  | _ => DirectShown env evidence manifest plan c3CompletedAtUnixMs

end Shown

/-- What stands behind a pass of one evidence. -/
structure Supported (env : LabEnv) (evidence : Evidence) (inputs : VerdictInputs)
    (manifest : ExperimentManifest) (plan : ControlPlan) : Prop where
  synthetic : inputs.allowSynthetic = true ∧
    evidence.proofBinding.provenance.origin = .syntheticFixture
  run : evidence.proofBinding.runId = evidence.runId
  secrets : evidence.discovery.helperSecretAccessed = false ∧
    evidence.discovery.unsafeEndpointPromoted = false
  known : inputs.manifest = some manifest ∧ inputs.plan = some plan
  manifestBound : ManifestBound env evidence manifest
  planBound : PlanBound env evidence manifest plan
  handoffBound : evidence.control.early = false → inputs.campaignHandoffVerified = true ∧
    ∃ handoff, inputs.handoff = some handoff ∧ HandoffBound env evidence handoff
  capture : evidence.captureIntegrity.eventsLost = 0 ∧ evidence.captureIntegrity.buffersLost = 0 ∧
    evidence.proofBinding.etwEvidenceSha256.isSome = true ∧
    evidence.proofBinding.phaseTimelineSha256.isSome = true
  credentials : evidence.control ≠ .c0 → evidence.control ≠ .c1 →
    evidence.credentialBundleInvestorConfirmed = true ∧
      ∀ id ∈ evidence.runContext.credentialSetId,
        evidence.proofBinding.credentialSetBindingSha256 =
          some (credentialSetDigest env evidence id)
  shown : ControlShown env evidence manifest plan inputs.c3CompletedAtUnixMs

section Passed

variable {env : LabEnv} {evidence : Evidence} {manifest : Option ExperimentManifest}
  {plan : Option ControlPlan}

theorem checkOpening_passed (h : checkOpening env evidence = .ok ()) :
    evidence.proofBinding.runId = evidence.runId ∧ credentialDigestDiffers env evidence = false ∧
      evidence.discovery.helperSecretAccessed = false ∧
      evidence.discovery.unsafeEndpointPromoted = false := by
  unfold checkOpening at h
  obtain ⟨hrun, h⟩ := of_settle_bind h
  obtain ⟨_, h⟩ := of_settle_bind h
  obtain ⟨hcredential, h⟩ := of_settle_bind h
  obtain ⟨hsecret, h⟩ := of_settle_bind h
  have hunsafe := settle_eq_ok.mp h
  simp only [Bool.not_eq_true] at hcredential hsecret hunsafe
  exact ⟨not_not.mp hrun, hcredential, hsecret, hunsafe⟩

theorem checkManifest_passed (h : checkManifest evidence manifest = .ok none) :
    ∃ known, manifest = some known ∧
      evidence.proofBinding.experimentManifestSha256 = some known.experimentManifestSha256 ∧
      evidence.runContext.terminalSha256 = known.terminalSha256 ∧
      ∀ candidate ∈ evidence.runContext.candidateEndpoint,
        candidate.port ∈ known.allowedRemotePorts := by
  unfold checkManifest at h
  split at h
  next => cases h
  next known =>
    obtain ⟨gap, hdigest, h⟩ := except_bind_eq_ok h
    obtain ⟨hterminal, h⟩ := of_settle_bind h
    obtain ⟨hport, h⟩ := of_settle_bind h
    cases h
    refine ⟨known, rfl, checkDigest_eq_none hdigest, not_not.mp hterminal, ?_⟩
    intro candidate hcandidate
    by_contra hforbidden
    exact hport ⟨candidate, hcandidate, hforbidden⟩

theorem checkPortableRoot_passed (h : checkPortableRoot env evidence = .ok none) :
    ∃ jobManifest, evidence.proofBinding.jobManifestSha256 = some jobManifest ∧
      evidence.proofBinding.jobPortableRootBindingSha256 =
        some (jobPortableRootBindingDigest env evidence.runId jobManifest
          evidence.proofBinding.jobIdentitySha256
          evidence.proofBinding.rootProcessGenerationSha256
          evidence.runContext.portableRootPathSha256) := by
  unfold checkPortableRoot at h
  dsimp only at h
  split at h
  next => cases h
  next jobManifest hmanifest => exact ⟨jobManifest, hmanifest, checkDigest_eq_none h⟩

theorem checkFirewallRoot_passed {plan : ControlPlan}
    (h : checkFirewallRoot env evidence plan = .ok none) (hdirect : evidence.control.early = false) :
    ∃ firewallPlan candidate,
      evidence.proofBinding.firewallPlanSha256 = some firewallPlan ∧
        evidence.proofBinding.candidateEndpointSha256 = some candidate ∧
        evidence.proofBinding.firewallPortableRootBindingSha256 =
          some (firewallPortableRootBindingDigest env evidence.runId plan.controlPlanSha256
            firewallPlan evidence.runContext.portableRootPathSha256 candidate) := by
  unfold checkFirewallRoot at h
  rw [if_neg (by simp [hdirect])] at h
  split at h
  next firewallPlan candidate hfirewall hcandidate =>
    exact ⟨firewallPlan, candidate, hfirewall, hcandidate, checkDigest_eq_none h⟩
  next => cases h

theorem checkPlanTerms_passed {known : ExperimentManifest} {plan : ControlPlan}
    (h : checkPlanTerms env evidence (some known) plan = .ok none) :
    (plan.runId = evidence.runId ∧ plan.control = evidence.control ∧
        plan.experimentId = evidence.runContext.experimentId) ∧
      evidence.proofBinding.controlPlanSha256 = some plan.controlPlanSha256 ∧
      plan.experimentManifestSha256 = known.experimentManifestSha256 ∧
      evidence.runContext.portableRootPathSha256 = plan.terminalDataPathSha256 ∧
      evidence.lifecycleBinding.c012SessionId = plan.c012SessionId ∧
      evidence.proofBinding.jobManifestSha256 =
        some evidence.lifecycleBinding.jobManifestSha256 ∧
      evidence.proofBinding.jobIdentitySha256 = evidence.lifecycleBinding.jobIdentitySha256 ∧
      evidence.proofBinding.rootProcessGenerationSha256 =
        evidence.lifecycleBinding.rootProcessGenerationSha256 := by
  unfold checkPlanTerms at h
  obtain ⟨hrun, h⟩ := of_settle_bind h
  obtain ⟨gap, hdigest, h⟩ := except_bind_eq_ok h
  obtain ⟨hmanifest, h⟩ := of_settle_bind h
  obtain ⟨hroot, h⟩ := of_settle_bind h
  obtain ⟨_, h⟩ := of_settle_bind h
  obtain ⟨hlifecycle, h⟩ := of_settle_bind h
  obtain ⟨hjob, h⟩ := of_settle_bind h
  cases h
  simp only [not_or, not_not, ne_eq] at hrun hroot hlifecycle hjob
  have hsame : plan.experimentManifestSha256 = known.experimentManifestSha256 := by
    by_contra hdiffers
    exact hmanifest ⟨known, rfl, hdiffers⟩
  exact ⟨hrun, checkDigest_eq_none hdigest, hsame, hroot, hlifecycle.2.1, hjob.1.symm,
    hjob.2.1.symm, hjob.2.2.symm⟩

/-- A plan without gaps is there and is bound. -/
theorem checkPlan_passed {known : ExperimentManifest} {gaps : PlanGaps}
    (h : checkPlan env evidence (some known) plan = .ok gaps)
    (hgaps : gaps = {}) (hverified : evidence.stateTransition.transitionVerified = true) :
    ∃ terms, plan = some terms ∧ PlanBound env evidence known terms := by
  cases hgaps
  unfold checkPlan at h
  split at h
  next => cases h
  next terms =>
    obtain ⟨planGap, hterms, h⟩ := except_bind_eq_ok h
    obtain ⟨lifecycleGap, hlifecycle, h⟩ := except_bind_eq_ok h
    obtain ⟨rootGap, hroot, h⟩ := except_bind_eq_ok h
    obtain ⟨preStateGap, hpreState, h⟩ := except_bind_eq_ok h
    obtain ⟨transitionGap, htransition, h⟩ := except_bind_eq_ok h
    obtain ⟨firewallGap, hfirewall, h⟩ := except_bind_eq_ok h
    cases h
    obtain ⟨hrun, hdigest, hmanifest, hpath, hsession, hjobManifest, hjobIdentity, hgeneration⟩ :=
      checkPlanTerms_passed hterms
    obtain ⟨jobManifest, hproof, hbinding⟩ := checkPortableRoot_passed hroot
    have hsame : jobManifest = evidence.lifecycleBinding.jobManifestSha256 := by
      rw [hjobManifest] at hproof
      exact (Option.some.inj hproof).symm
    rw [hsame, hjobIdentity, hgeneration] at hbinding
    exact ⟨terms, rfl, {
      run := hrun
      digest := hdigest
      manifest := hmanifest
      root := hpath
      session := hsession
      job := ⟨hjobManifest, hjobIdentity, hgeneration⟩
      lifecycle := checkDigest_eq_none hlifecycle
      portableRoot := hbinding
      preState := checkDigest_eq_none hpreState
      transition := ⟨checkDigest_eq_none htransition, hverified⟩
      firewallRoot := checkFirewallRoot_passed hfirewall }⟩

theorem checkHandoff_passed {handoff : Option CandidateHandoff} {verified : Bool}
    {findings : HandoffFindings}
    (h : checkHandoff env evidence plan handoff verified = .ok findings)
    (hgap : findings.gap = none) (hdirect : evidence.control.early = false) :
    findings.c2ContextMissing = !verified ∧
      ∃ known, handoff = some known ∧ HandoffBound env evidence known := by
  unfold checkHandoff at h
  rw [if_neg (by simp [hdirect])] at h
  split at h
  next =>
    cases h
    cases hgap
  next known =>
    obtain ⟨gap, hdigest, h⟩ := except_bind_eq_ok h
    obtain ⟨hcontext, h⟩ := of_settle_bind h
    obtain ⟨htime, h⟩ := of_settle_bind h
    obtain ⟨_, h⟩ := of_settle_bind h
    cases h
    cases hgap
    simp only [not_or, not_not, ne_eq] at hcontext
    exact ⟨rfl, known, rfl, {
      digest := checkDigest_eq_none hdigest
      context := ⟨hcontext.1, hcontext.2.1, hcontext.2.2.1⟩
      candidate := hcontext.2.2.2
      time := not_lt.mp htime }⟩

theorem checkLabels_passed {known : ExperimentManifest} {findings : LabelFindings}
    (h : checkLabels env evidence (some known) = .ok findings)
    (hgap : findings.manifestGap = none) (hmissing : findings.bindingMissing = false)
    (hearly : evidence.control.early = true) :
    evidence.runContext.requestedServerLabelSha256 = some (requestedLabelDigest env known) ∧
      evidence.proofBinding.requestedLabelBindingSha256 =
        some (labelBindingDigest env evidence known) ∧
      labelBindingMissing evidence = false ∧ selectedLabelDiffers evidence = false := by
  unfold checkLabels at h
  rw [if_pos hearly] at h
  obtain ⟨hselected, h⟩ := of_settle_bind h
  obtain ⟨hbinding, h⟩ := of_settle_bind h
  cases h
  dsimp only at hgap hmissing
  have hlabel : evidence.runContext.requestedServerLabelSha256 =
      some (requestedLabelDigest env known) := by
    unfold labelManifestGap at hgap
    split at hgap
    next hnone => cases hnone
    next other hother =>
      cases hother
      split at hgap
      next => cases hgap
      next =>
        split at hgap
        next => cases hgap
        next hsame => exact not_not.mp hsame
  refine ⟨hlabel, ?_, hmissing, by simpa using hselected⟩
  by_contra hdiffers
  exact hbinding ⟨hgap, hmissing, known, rfl, hdiffers⟩

theorem checkNegativeQuery_passed {known : ExperimentManifest} {terms : ControlPlan}
    (h : checkNegativeQuery env evidence (some known) (some terms) = .ok none)
    (hcontrol : evidence.control = .c1) :
    evidence.discovery.negativeQueryResultCount = some 0 ∧
      evidence.discovery.negativeQueryLabelSha256 = some known.negativeQuery.labelSha256 ∧
      evidence.proofBinding.negativeQueryBindingSha256 =
        some (negativeQueryBindingDigest env evidence terms known.negativeQuery.labelSha256 0) := by
  unfold checkNegativeQuery at h
  rw [if_pos hcontrol] at h
  dsimp only at h
  obtain ⟨_, h⟩ := of_settle_bind h
  obtain ⟨_, h⟩ := of_settle_bind h
  obtain ⟨hcount, h⟩ := of_settle_bind h
  unfold checkNegativeBinding at h
  dsimp only at h
  split at h
  next label count digest hlabel hfound _ hdigest =>
    obtain ⟨hsame, h⟩ := of_settle_bind h
    obtain ⟨hbinding, _⟩ := of_settle_bind h
    have hzero : count = 0 := by
      by_contra hpositive
      exact hcount ⟨count, hfound, hpositive⟩
    rw [not_not.mp hsame] at hlabel hbinding
    rw [hzero] at hfound hbinding
    rw [not_not.mp hbinding] at hdigest
    exact ⟨hfound, hlabel, hdigest⟩
  next => cases h

end Passed

section Identities

variable {env : LabEnv} {evidence : Evidence} {known : ExperimentManifest} {terms : ControlPlan}
  {identity : Identity}

theorem checkIdentityTerms_passed (h : checkIdentityTerms evidence identity = .ok ()) :
    flag identity.flags "account_match" = true ∧
      evidence.runContext.expectedServer = some identity.server ∧
      evidence.runContext.expectedCompany = some identity.company ∧
      identity.tradeMode = "DEMO" ∧ identity.terminalBuild = evidence.runContext.terminalBuild := by
  unfold checkIdentityTerms at h
  obtain ⟨haccount, h⟩ := of_settle_bind h
  obtain ⟨hbroker, h⟩ := of_settle_bind h
  obtain ⟨hmode, h⟩ := of_settle_bind h
  have hbuild := settle_eq_ok.mp h
  simp only [not_or, not_not, ne_eq, Bool.not_eq_false] at haccount hbroker hmode hbuild
  exact ⟨haccount, hbroker.2.2.1.symm, hbroker.2.2.2.symm, hmode.2, hbuild⟩

theorem checkProbeWindow_passed
    (h : checkProbeWindow evidence (some known) (some terms) identity = .ok ()) :
    ∃ window, authenticatedWindow evidence (some terms) = some window ∧
      window.1 ≤ identity.probeGeneratedAtUnix * 1000 ∧
      identity.probeGeneratedAtUnix * 1000 ≤
        window.2 + known.durationsSeconds.probeTimestampToleranceSeconds * 1000 := by
  unfold checkProbeWindow at h
  obtain ⟨_, h⟩ := of_settle_bind h
  obtain ⟨window, hwindow, h⟩ := except_bind_eq_ok h
  have hinside := settle_eq_ok.mp h
  simp only [probeToleranceMs, not_or, not_lt] at hinside
  refine ⟨window, ?_, hinside.1, hinside.2⟩
  unfold orUnproven at hwindow
  split at hwindow
  next found hfound =>
    cases hwindow
    exact hfound
  next => cases hwindow

theorem checkProbePaths_passed (h : checkProbePaths env evidence (some terms) identity = .ok ()) :
    identity.terminalPathSha256 = some terms.terminalPathSha256 ∧
      identity.terminalDataPathSha256 = some terms.terminalDataPathSha256 ∧
      ∃ expected, expectedPathBinding env evidence (some terms) identity = some expected ∧
        evidence.proofBinding.probePathBindingSha256 = some expected := by
  unfold checkProbePaths at h
  obtain ⟨hpaths, h⟩ := of_settle_bind h
  obtain ⟨hbinding, h⟩ := of_settle_bind h
  have hthere := settle_eq_ok.mp h
  simp only [not_or, Bool.not_eq_false] at hthere
  obtain ⟨hterminal, hdata, houtput, _, hasserted, _, hjob⟩ := hthere
  obtain ⟨terminal, hterminal⟩ := Option.ne_none_iff_exists'.mp hterminal
  obtain ⟨data, hdata⟩ := Option.ne_none_iff_exists'.mp hdata
  obtain ⟨output, houtput⟩ := Option.ne_none_iff_exists'.mp houtput
  obtain ⟨asserted, hasserted⟩ := Option.ne_none_iff_exists'.mp hasserted
  obtain ⟨job, hjob⟩ := Option.ne_none_iff_exists'.mp hjob
  have hexpected : ∃ expected,
      expectedPathBinding env evidence (some terms) identity = some expected := by
    refine ⟨probePathBindingDigest env identity.probeRunId job
      evidence.runContext.portableRootPathSha256 terms.controlPlanSha256 terminal data output
      identity.probeGeneratedAtUnix, ?_⟩
    simp [expectedPathBinding, hjob, hterminal, hdata, houtput]
  obtain ⟨expected, hexpected⟩ := hexpected
  refine ⟨?_, ?_, expected, hexpected, ?_⟩
  · rw [hterminal]
    by_contra hdiffers
    exact hpaths ⟨terms, rfl, Or.inl ⟨terminal, hterminal, fun hsame => hdiffers (by rw [hsame])⟩⟩
  · rw [hdata]
    by_contra hdiffers
    exact hpaths ⟨terms, rfl, Or.inr ⟨data, hdata, fun hsame => hdiffers (by rw [hsame])⟩⟩
  · rw [hasserted]
    by_contra hdiffers
    exact hbinding ⟨expected, hexpected, asserted, hasserted,
      fun hsame => hdiffers (by rw [hsame])⟩

theorem checkPermissions_passed (h : checkPermissions identity = .ok ()) :
    (flag identity.flags "investor_provenance_confirmed" = true ∧
        flag identity.flags "account_trade_allowed" = false ∧
        flag identity.flags "account_trade_expert" = false ∧
        flag identity.flags "terminal_trade_allowed" = false) ∧
      flag identity.flags "terminal_connected" = true := by
  unfold checkPermissions at h
  obtain ⟨hinvestor, h⟩ := of_settle_bind h
  obtain ⟨haccount, h⟩ := of_settle_bind h
  obtain ⟨hterminal, h⟩ := of_settle_bind h
  obtain ⟨_, h⟩ := of_settle_bind h
  have hconnected := settle_eq_ok.mp h
  simp only [not_or, Bool.not_eq_true, Bool.not_eq_false] at hinvestor haccount hterminal hconnected
  exact ⟨⟨hinvestor, haccount.1, haccount.2, hterminal⟩, hconnected⟩

/-- The two readings of the identity together show it. -/
theorem identity_shown
    (hcontrol : evidence.control = .c2 ∨ evidence.control = .c3 ∨ evidence.control = .c5)
    (hcheck : checkIdentity env evidence (some known) (some terms) = .ok ())
    (h : evaluateIdentity env evidence (some known) (some terms) = .ok ()) :
    ∃ identity, evidence.identity = some identity ∧
      IdentityShown env evidence known terms identity := by
  unfold evaluateIdentity at h
  split at h
  next => cases h
  next identity hidentity =>
    obtain ⟨_, hterms, h⟩ := except_bind_eq_ok h
    obtain ⟨_, hwindow, h⟩ := except_bind_eq_ok h
    obtain ⟨_, hpaths, hpermissions⟩ := except_bind_eq_ok h
    obtain ⟨haccount, hserver, hcompany, hmode, hbuild⟩ := checkIdentityTerms_passed hterms
    obtain ⟨hterminal, hdata, hbinding⟩ := checkProbePaths_passed hpaths
    obtain ⟨hreadOnly, hconnected⟩ := checkPermissions_passed hpermissions
    unfold checkIdentity at hcheck
    rw [if_pos hcontrol] at hcheck
    obtain ⟨hrun, _⟩ := of_settle_bind hcheck
    refine ⟨identity, hidentity, {
      run := ?_
      account := haccount
      broker := ⟨hserver, hcompany⟩
      demo := hmode
      build := hbuild
      window := checkProbeWindow_passed hwindow
      paths := ⟨hterminal, hdata⟩
      binding := hbinding
      readOnly := hreadOnly
      connected := hconnected }⟩
    by_contra hdiffers
    exact hrun ⟨identity, hidentity, hdiffers⟩

end Identities

section Completed

variable {env : LabEnv} {evidence : Evidence} {known : ExperimentManifest} {terms : ControlPlan}
  {reason : String}

theorem candidate_bound (htuple : tupleMismatch env evidence = false)
    (hcandidate : evidence.runContext.candidateEndpoint ≠ none)
    (hbound : evidence.proofBinding.candidateTupleBound = true)
    (hdigest : evidence.proofBinding.candidateEndpointSha256 ≠ none) :
    CandidateBound env evidence := by
  obtain ⟨candidate, hcandidate⟩ := Option.ne_none_iff_exists'.mp hcandidate
  obtain ⟨digest, hdigest⟩ := Option.ne_none_iff_exists'.mp hdigest
  have hsame : digest = evidenceDigest env (candidateJson (some candidate)) := by
    have hmismatch : digestMismatch env evidence = false := by
      unfold tupleMismatch at htuple
      exact (Bool.or_eq_false_iff.mp htuple).1
    simpa [digestMismatch, hcandidate, hdigest] using hmismatch
  exact ⟨hbound, candidate, hcandidate, by rw [hdigest, hsame]⟩

theorem baseline_shown (hcontrol : evidence.control = .c0)
    (hcheck : checkControl env evidence = .ok ())
    (h : completeBaseline evidence known.durationsSeconds = .ok reason) :
    BaselineShown evidence known := by
  unfold checkControl at hcheck
  rw [hcontrol] at hcheck
  obtain ⟨hidentity, hcheck⟩ := of_settle_bind hcheck
  have hclean := settle_eq_ok.mp hcheck
  unfold completeBaseline at h
  obtain ⟨_, h⟩ := of_settle_bind h
  obtain ⟨hwindow, _⟩ := of_settle_bind h
  simp only [not_or, not_lt] at hwindow
  exact ⟨by simpa using hidentity, by simpa using hclean, hwindow.1, hwindow.2⟩

theorem discovery_shown (hcontrol : evidence.control = .c1)
    (hcheck : checkControl env evidence = .ok ()) (hmissing : labelBindingMissing evidence = false)
    (hselected : selectedLabelDiffers evidence = false)
    (hquery : checkNegativeQuery env evidence (some known) (some terms) = .ok none) :
    DiscoveryShown env evidence known terms := by
  unfold checkControl at hcheck
  rw [hcontrol] at hcheck
  obtain ⟨hidentity, hcheck⟩ := of_settle_bind hcheck
  obtain ⟨hcredentials, hcheck⟩ := of_settle_bind hcheck
  have hcount := settle_eq_ok.mp hcheck
  obtain ⟨hzero, hlabel, hbinding⟩ := checkNegativeQuery_passed hquery hcontrol
  have hsame : evidence.discovery.selectedServerLabelSha256 =
      evidence.runContext.requestedServerLabelSha256 := by
    simp only [labelBindingMissing, hcontrol, Bool.or_eq_false_iff, decide_eq_false_iff_not,
      decide_true, Bool.true_and] at hmissing
    obtain ⟨⟨⟨hrequested, _⟩, _⟩, hchosen, _⟩ := hmissing
    obtain ⟨requested, hrequested⟩ := Option.ne_none_iff_exists'.mp hrequested
    obtain ⟨selected, hchosen⟩ := Option.ne_none_iff_exists'.mp hchosen
    have hagree : selected = requested := by
      simpa [selectedLabelDiffers, hrequested, hchosen, hcontrol] using hselected
    rw [hrequested, hchosen, hagree]
  exact ⟨by simpa using hidentity, by simpa using hcredentials, not_not.mp hcount, hsame, hzero,
    hlabel, hbinding⟩

theorem login_shown (hcontrol : evidence.control = .c2)
    (hcheck : checkControl env evidence = .ok ())
    (hidentity : checkIdentity env evidence (some known) (some terms) = .ok ())
    (h : completeLogin env evidence (some known) (some terms) known.durationsSeconds =
      .ok reason) : LoginShown env evidence known terms := by
  unfold checkControl at hcheck
  rw [hcontrol] at hcheck
  obtain ⟨hsafe, hcheck⟩ := of_settle_bind hcheck
  have htuple := settle_eq_ok.mp hcheck
  unfold completeLogin at h
  obtain ⟨hcandidate, h⟩ := of_settle_bind h
  obtain ⟨hflow, h⟩ := of_settle_bind h
  obtain ⟨_, h⟩ := of_settle_bind h
  obtain ⟨_, h⟩ := of_settle_bind h
  obtain ⟨_, hevaluated, _⟩ := except_bind_eq_ok h
  simp only [not_or, not_not, Bool.not_eq_true, Bool.not_eq_false] at hflow hsafe htuple
  obtain ⟨hbound, hdigest, _, hproven⟩ := hflow
  exact ⟨candidate_bound htuple hcandidate hbound hdigest, hsafe, hproven,
    identity_shown (Or.inl hcontrol) hidentity hevaluated⟩

theorem checkDirectPolicy_passed {firewall health wfp policy : String}
    (h : checkDirectPolicy evidence firewall health wfp policy = .ok ()) :
    evidence.proofBinding.candidateTupleBound = true ∧
      evidence.proofBinding.candidateEndpointSha256 ≠ none := by
  unfold checkDirectPolicy at h
  obtain ⟨_, h⟩ := of_settle_bind h
  obtain ⟨_, h⟩ := of_settle_bind h
  obtain ⟨_, h⟩ := of_settle_bind h
  have hpolicy := settle_eq_ok.mp h
  simp only [not_or, Bool.not_eq_false] at hpolicy
  exact ⟨hpolicy.2.2.1, hpolicy.2.2.2⟩

theorem checkSeparation_passed {durations : Durations} {c3CompletedAtUnixMs : Option Int}
    (h : checkSeparation evidence durations c3CompletedAtUnixMs = .ok ())
    (hcontrol : evidence.control = .c5) :
    ∃ completed, c3CompletedAtUnixMs = some completed ∧
      completed ≤ firstTimestamp evidence.timeline ∧
      durations.c5SeparationMinimum * 1000 ≤ firstTimestamp evidence.timeline - completed := by
  unfold checkSeparation at h
  rw [if_pos hcontrol] at h
  split at h
  next => cases h
  next completed =>
    obtain ⟨hafter, h⟩ := of_settle_bind h
    have hseparated := settle_eq_ok.mp h
    exact ⟨completed, rfl, by omega, not_lt.mp hseparated⟩

theorem checkDirect_passed (hcontrol : evidence.control = .c3 ∨ evidence.control = .c5)
    (h : checkControl env evidence = .ok ()) :
    cleanState evidence = true ∧ evidence.network.candidateEndpointSafe = true ∧
      tupleMismatch env evidence = false := by
  have hparts : ¬ cleanState evidence = false ∧ ¬ evidence.network.candidateEndpointSafe = false ∧
      ¬ tupleMismatch env evidence = true := by
    unfold checkControl at h
    rcases hcontrol with hcontrol | hcontrol
    all_goals
      rw [hcontrol] at h
      obtain ⟨hclean, h⟩ := of_settle_bind h
      obtain ⟨_, h⟩ := of_settle_bind h
      obtain ⟨_, h⟩ := of_settle_bind h
      obtain ⟨hsafe, h⟩ := of_settle_bind h
      exact ⟨hclean, hsafe, settle_eq_ok.mp h⟩
  obtain ⟨hclean, hsafe, htuple⟩ := hparts
  exact ⟨by simpa using hclean, by simpa using hsafe, by simpa using htuple⟩

theorem direct_shown {c3CompletedAtUnixMs : Option Int} {missing : Bool}
    (hcontrol : evidence.control = .c3 ∨ evidence.control = .c5)
    (hcheck : checkControl env evidence = .ok ())
    (hidentity : checkIdentity env evidence (some known) (some terms) = .ok ())
    (h : completeDirect env evidence (some known) (some terms) known.durationsSeconds
      c3CompletedAtUnixMs missing = .ok reason) :
    DirectShown env evidence known terms c3CompletedAtUnixMs ∧ missing = false := by
  obtain ⟨hclean, hsafe, htuple⟩ := checkDirect_passed hcontrol hcheck
  unfold completeDirect at h
  obtain ⟨hcandidate, h⟩ := of_settle_bind h
  obtain ⟨_, h⟩ := of_settle_bind h
  obtain ⟨_, hpolicy, h⟩ := except_bind_eq_ok h
  obtain ⟨_, h⟩ := of_settle_bind h
  obtain ⟨hflow, h⟩ := of_settle_bind h
  obtain ⟨_, hevaluated, h⟩ := except_bind_eq_ok h
  obtain ⟨_, hseparation, h⟩ := except_bind_eq_ok h
  obtain ⟨hcontext, _⟩ := of_settle_bind h
  obtain ⟨hbound, hdigest⟩ := checkDirectPolicy_passed hpolicy
  obtain ⟨hproven, halone⟩ := not_not.mp hflow
  exact ⟨⟨hclean, candidate_bound htuple hcandidate hbound hdigest, hsafe, hproven, halone,
    identity_shown (Or.inr hcontrol) hidentity hevaluated, checkSeparation_passed hseparation⟩,
    by simpa using hcontext⟩

theorem blocked_shown {missing : Bool} (hcontrol : evidence.control = .c4)
    (hcheck : checkControl env evidence = .ok ())
    (h : completeBlocked evidence known.durationsSeconds missing = .ok reason) :
    BlockedShown env evidence ∧ missing = false := by
  unfold checkControl at hcheck
  rw [hcontrol] at hcheck
  obtain ⟨hclean, hcheck⟩ := of_settle_bind hcheck
  obtain ⟨_, hcheck⟩ := of_settle_bind hcheck
  obtain ⟨hbypass, hcheck⟩ := of_settle_bind hcheck
  obtain ⟨_, hcheck⟩ := of_settle_bind hcheck
  obtain ⟨hidentity, hcheck⟩ := of_settle_bind hcheck
  have htuple := settle_eq_ok.mp hcheck
  unfold completeBlocked at h
  obtain ⟨hcandidate, h⟩ := of_settle_bind h
  obtain ⟨_, h⟩ := of_settle_bind h
  obtain ⟨_, hpolicy, h⟩ := except_bind_eq_ok h
  obtain ⟨hblock, h⟩ := of_settle_bind h
  obtain ⟨hcontext, _⟩ := of_settle_bind h
  obtain ⟨hbound, hdigest⟩ := checkDirectPolicy_passed hpolicy
  obtain ⟨_, hobserved, _, _, _, halone, _⟩ := not_not.mp hblock
  simp only [not_or, Bool.not_eq_true] at hbypass htuple hcontext
  exact ⟨⟨by simpa using hclean, candidate_bound htuple hcandidate hbound hdigest, hbypass.1,
    hobserved, halone, by simpa using hidentity⟩, hcontext⟩

end Completed

section Open

variable {env : LabEnv} {evidence : Evidence} {manifest : Option ExperimentManifest}
  {plan : Option ControlPlan} {durations : Durations}

theorem leaveNoGap_open (gap : Option String) : EndsOnly IsOpen (leaveNoGap gap) := by
  cases gap with
  | none => exact EndsOnly.ok ()
  | some reason => exact EndsOnly.error (unproven_isOpen reason)

theorem orUnproven_open {α : Type} (value : Option α) (reason : String) :
    EndsOnly IsOpen (orUnproven value reason) := by
  cases value with
  | none => exact EndsOnly.error (unproven_isOpen reason)
  | some a => exact EndsOnly.ok a

theorem evaluateIdentity_open : EndsOnly IsOpen (evaluateIdentity env evidence manifest plan) := by
  unfold evaluateIdentity
  split
  next => exact EndsOnly.error (unproven_isOpen _)
  next identity =>
    refine EndsOnly.bind ?_ fun _ => EndsOnly.bind ?_ fun _ => EndsOnly.bind ?_ fun _ => ?_
    · unfold checkIdentityTerms
      iterate 3 refine EndsOnly.settle_bind (contradicted_isFail _).isOpen ?_
      exact EndsOnly.settle (contradicted_isFail _).isOpen
    · unfold checkProbeWindow
      refine EndsOnly.settle_bind (unproven_isOpen _) ?_
      refine EndsOnly.bind (orUnproven_open _ _) fun _ => ?_
      exact EndsOnly.settle (contradicted_isFail _).isOpen
    · unfold checkProbePaths
      iterate 2 refine EndsOnly.settle_bind (contradicted_isFail _).isOpen ?_
      exact EndsOnly.settle (unproven_isOpen _)
    · unfold checkPermissions
      refine EndsOnly.settle_bind (unproven_isOpen _) ?_
      iterate 2 refine EndsOnly.settle_bind (contradicted_isFail _).isOpen ?_
      refine EndsOnly.settle_bind (unproven_isOpen _) ?_
      exact EndsOnly.settle (unproven_isOpen _)

theorem checkGaps_open (gaps : Gaps) : EndsOnly IsOpen (checkGaps evidence manifest gaps) := by
  unfold checkGaps
  iterate 2 refine EndsOnly.settle_bind (unproven_isOpen _) ?_
  refine EndsOnly.bind (leaveNoGap_open _) fun _ => ?_
  refine EndsOnly.settle_bind (unproven_isOpen _) ?_
  iterate 3 refine EndsOnly.bind (leaveNoGap_open _) fun _ => ?_
  refine EndsOnly.settle_bind (unproven_isOpen _) ?_
  iterate 5 refine EndsOnly.bind (leaveNoGap_open _) fun _ => ?_
  exact leaveNoGap_open _

theorem checkSufficiency_open : EndsOnly IsOpen (checkSufficiency evidence) := by
  unfold checkSufficiency
  iterate 5 refine EndsOnly.settle_bind (unproven_isOpen _) ?_
  exact EndsOnly.settle (unproven_isOpen _)

theorem checkDirectPolicy_open (firewall health wfp policy : String) :
    EndsOnly IsOpen (checkDirectPolicy evidence firewall health wfp policy) := by
  unfold checkDirectPolicy
  iterate 3 refine EndsOnly.settle_bind (unproven_isOpen _) ?_
  exact EndsOnly.settle (unproven_isOpen _)

theorem checkSeparation_open (completed : Option Int) :
    EndsOnly IsOpen (checkSeparation evidence durations completed) := by
  unfold checkSeparation
  split
  next =>
    split
    next => exact EndsOnly.error (unproven_isOpen _)
    next =>
      refine EndsOnly.settle_bind (unproven_isOpen _) ?_
      exact EndsOnly.settle (unproven_isOpen _)
  next => exact EndsOnly.ok ()

theorem completeDirect_open (completed : Option Int) (missing : Bool) :
    EndsOnly IsOpen (completeDirect env evidence manifest plan durations completed missing) := by
  unfold completeDirect
  iterate 2 refine EndsOnly.settle_bind (unproven_isOpen _) ?_
  refine EndsOnly.bind (checkDirectPolicy_open _ _ _ _) fun _ => ?_
  iterate 2 refine EndsOnly.settle_bind (unproven_isOpen _) ?_
  refine EndsOnly.bind evaluateIdentity_open fun _ => ?_
  refine EndsOnly.bind (checkSeparation_open completed) fun _ => ?_
  refine EndsOnly.settle_bind (unproven_isOpen _) ?_
  exact EndsOnly.ok _

theorem completeControl_open (completed : Option Int) (missing : Bool) :
    EndsOnly IsOpen (completeControl env evidence manifest plan durations completed missing) := by
  unfold completeControl
  split
  case h_1 =>
    unfold completeBaseline
    iterate 2 refine EndsOnly.settle_bind (unproven_isOpen _) ?_
    exact EndsOnly.ok _
  case h_2 =>
    unfold completeDiscovery
    iterate 6 refine EndsOnly.settle_bind (unproven_isOpen _) ?_
    exact EndsOnly.ok _
  case h_3 =>
    unfold completeLogin
    iterate 4 refine EndsOnly.settle_bind (unproven_isOpen _) ?_
    refine EndsOnly.bind evaluateIdentity_open fun _ => ?_
    exact EndsOnly.ok _
  case h_4 =>
    unfold completeBlocked
    iterate 2 refine EndsOnly.settle_bind (unproven_isOpen _) ?_
    refine EndsOnly.bind (checkDirectPolicy_open _ _ _ _) fun _ => ?_
    iterate 2 refine EndsOnly.settle_bind (unproven_isOpen _) ?_
    exact EndsOnly.ok _
  case h_5 => exact completeDirect_open completed missing

theorem findContradictions_open (inputs : VerdictInputs) :
    EndsOnly IsOpen (findContradictions env evidence inputs) := by
  unfold findContradictions
  refine EndsOnly.bind (checkOpening_fails.weaken fun _ => IsFail.isOpen) fun _ => ?_
  refine EndsOnly.bind (checkManifest_fails.weaken fun _ => IsFail.isOpen) fun _ => ?_
  refine EndsOnly.bind (checkPlan_fails.weaken fun _ => IsFail.isOpen) fun _ => ?_
  refine EndsOnly.bind (checkHandoff_open _) fun _ => ?_
  refine EndsOnly.bind (checkLabels_fails.weaken fun _ => IsFail.isOpen) fun _ => ?_
  refine EndsOnly.bind (checkNegativeQuery_fails.weaken fun _ => IsFail.isOpen) fun _ => ?_
  refine EndsOnly.bind (checkControl_fails.weaken fun _ => IsFail.isOpen) fun _ => ?_
  refine EndsOnly.bind (checkIdentity_fails.weaken fun _ => IsFail.isOpen) fun _ => ?_
  exact EndsOnly.ok _

/-- No step before the last one gives a pass. -/
theorem reachResult_open (inputs : VerdictInputs) :
    EndsOnly IsOpen (reachResult env evidence inputs) := by
  unfold reachResult
  refine EndsOnly.bind (findContradictions_open inputs) fun gaps => ?_
  refine EndsOnly.bind ?_ fun _ => EndsOnly.ok _
  unfold findProof
  refine EndsOnly.bind (checkGaps_open gaps) fun _ => ?_
  refine EndsOnly.bind checkSufficiency_open fun _ => ?_
  refine EndsOnly.bind (orUnproven_open _ _) fun _ => ?_
  exact completeControl_open _ _

end Open

section Soundness

variable {env : LabEnv} {evidence : Evidence} {inputs : VerdictInputs}

theorem positiveResult_passed {reason : String} {allowSynthetic : Bool}
    (h : ¬ IsOpen (positiveResult evidence reason allowSynthetic)) :
    allowSynthetic = true ∧ evidence.proofBinding.provenance.origin = .syntheticFixture := by
  unfold positiveResult at h
  split at h
  next => exact absurd (unproven_isOpen _) h
  next horigin =>
    split at h
    next hallowed =>
      refine ⟨hallowed, ?_⟩
      cases hcase : evidence.proofBinding.provenance.origin with
      | syntheticFixture => rfl
      | capturedExport => exact absurd hcase horigin
    next => exact absurd (unproven_isOpen _) h

theorem positiveResult_outcome (evidence : Evidence) (reason : String) (allowSynthetic : Bool) :
    (positiveResult evidence reason allowSynthetic).outcome ≠ .pass := by
  unfold positiveResult
  split
  next => exact (unproven_isOpen _).1
  next =>
    split
    next => simp
    next => exact (unproven_isOpen _).1

theorem gaps_closed {gaps : Gaps} (h : checkGaps evidence inputs.manifest gaps = .ok ()) :
    experimentIdMismatch evidence inputs.manifest = false ∧
      expectedIdentityMismatch evidence inputs.manifest = false ∧
      gaps.labels.manifestGap = none ∧ gaps.labels.bindingMissing = false ∧
      gaps.negativeQuery = none ∧ gaps.manifestGap = none ∧ gaps.planGaps = {} ∧
      evidence.stateTransition.transitionVerified = true ∧ gaps.handoff.gap = none := by
  unfold checkGaps at h
  obtain ⟨hexperiment, h⟩ := of_settle_bind h
  obtain ⟨hidentity, h⟩ := of_settle_bind h
  obtain ⟨hlabel, h⟩ := of_leaveNoGap_bind h
  obtain ⟨hmissing, h⟩ := of_settle_bind h
  obtain ⟨hquery, h⟩ := of_leaveNoGap_bind h
  obtain ⟨hmanifest, h⟩ := of_leaveNoGap_bind h
  obtain ⟨hplan, h⟩ := of_leaveNoGap_bind h
  obtain ⟨hverified, h⟩ := of_settle_bind h
  obtain ⟨hlifecycle, h⟩ := of_leaveNoGap_bind h
  obtain ⟨hroot, h⟩ := of_leaveNoGap_bind h
  obtain ⟨hpreState, h⟩ := of_leaveNoGap_bind h
  obtain ⟨htransition, h⟩ := of_leaveNoGap_bind h
  obtain ⟨hfirewall, h⟩ := of_leaveNoGap_bind h
  have hhandoff := leaveNoGap_eq_ok h
  have hall : gaps.planGaps = {} := by
    cases hgaps : gaps.planGaps
    rw [hgaps] at hplan hlifecycle hroot hpreState htransition hfirewall
    dsimp only at hplan hlifecycle hroot hpreState htransition hfirewall
    rw [hplan, hlifecycle, hroot, hpreState, htransition, hfirewall]
  exact ⟨by simpa using hexperiment, by simpa using hidentity, hlabel, by simpa using hmissing,
    hquery, hmanifest, hall, by simpa using hverified, hhandoff⟩

theorem manifest_bound {known : ExperimentManifest} {findings : LabelFindings}
    (hmanifest : inputs.manifest = some known)
    (hcheck : checkManifest evidence inputs.manifest = .ok none)
    (hlabels : checkLabels env evidence inputs.manifest = .ok findings)
    (hexperiment : experimentIdMismatch evidence inputs.manifest = false)
    (hidentity : expectedIdentityMismatch evidence inputs.manifest = false)
    (hgap : findings.manifestGap = none) (hmissing : findings.bindingMissing = false) :
    ManifestBound env evidence known := by
  rw [hmanifest] at hcheck hlabels hexperiment hidentity
  obtain ⟨other, hother, hdigest, hterminal, hport⟩ := checkManifest_passed hcheck
  cases hother
  refine {
    digest := hdigest
    experiment := by simpa [experimentIdMismatch] using hexperiment
    terminal := hterminal
    port := hport
    identity := ?_
    label := ?_ }
  · intro hc0 hc1
    simpa [expectedIdentityMismatch, hc0, hc1] using hidentity
  · intro hearly
    obtain ⟨hlabel, hbinding, _⟩ := checkLabels_passed hlabels hgap hmissing hearly
    exact ⟨hlabel, hbinding⟩

theorem sufficiency_shown (h : checkSufficiency evidence = .ok ()) :
    (evidence.control ≠ .c0 → evidence.control ≠ .c1 →
        evidence.proofBinding.credentialSetBindingSha256 ≠ none ∧
          evidence.credentialBundleInvestorConfirmed = true) ∧
      evidence.captureIntegrity.eventsLost = 0 ∧ evidence.captureIntegrity.buffersLost = 0 ∧
      evidence.proofBinding.etwEvidenceSha256.isSome = true ∧
      evidence.proofBinding.phaseTimelineSha256.isSome = true := by
  unfold checkSufficiency at h
  obtain ⟨hbinding, h⟩ := of_settle_bind h
  obtain ⟨hinvestor, h⟩ := of_settle_bind h
  obtain ⟨hcapture, h⟩ := of_settle_bind h
  obtain ⟨hetw, h⟩ := of_settle_bind h
  obtain ⟨_, h⟩ := of_settle_bind h
  have hphase := settle_eq_ok.mp h
  obtain ⟨_, _, _, hevents, hbuffers⟩ := not_not.mp hcapture
  simp only [not_or] at hetw hphase
  refine ⟨fun hc0 hc1 => ⟨?_, ?_⟩, hevents, hbuffers, Option.isSome_iff_ne_none.mpr hetw.2,
    Option.isSome_iff_ne_none.mpr hphase.2⟩
  · intro hnone
    exact hbinding ⟨hc0, hc1, Or.inr hnone⟩
  · by_contra hnot
    exact hinvestor ⟨hc0, hc1, by simpa using hnot⟩

theorem credentials_shown (hdiffers : credentialDigestDiffers env evidence = false)
    (hdigest : evidence.proofBinding.credentialSetBindingSha256 ≠ none) :
    ∀ id ∈ evidence.runContext.credentialSetId,
      evidence.proofBinding.credentialSetBindingSha256 =
        some (credentialSetDigest env evidence id) := by
  intro id hid
  obtain ⟨digest, hdigest⟩ := Option.ne_none_iff_exists'.mp hdigest
  have hsame : digest = credentialSetDigest env evidence id := by
    simpa [credentialDigestDiffers, Option.mem_def.mp hid, hdigest] using hdiffers
  rw [hdigest, hsame]

/-- The pass of each control shows what the control is about. -/
theorem control_shown {known : ExperimentManifest} {terms : ControlPlan} {reason : String}
    {missing : Bool} (hcheck : checkControl env evidence = .ok ())
    (hidentity : checkIdentity env evidence (some known) (some terms) = .ok ())
    (hquery : checkNegativeQuery env evidence (some known) (some terms) = .ok none)
    (hlabels : evidence.control = .c1 →
      labelBindingMissing evidence = false ∧ selectedLabelDiffers evidence = false)
    (h : completeControl env evidence (some known) (some terms) known.durationsSeconds
      inputs.c3CompletedAtUnixMs missing = .ok reason) :
    ControlShown env evidence known terms inputs.c3CompletedAtUnixMs ∧
      (evidence.control.early = false → missing = false) := by
  unfold completeControl at h
  unfold ControlShown
  cases hcontrol : evidence.control with
  | c0 =>
    rw [hcontrol] at h
    refine ⟨baseline_shown hcontrol hcheck h, fun hdirect => ?_⟩
    cases hdirect
  | c1 =>
    obtain ⟨hmissing, hselected⟩ := hlabels hcontrol
    refine ⟨discovery_shown hcontrol hcheck hmissing hselected hquery, fun hdirect => ?_⟩
    cases hdirect
  | c2 =>
    rw [hcontrol] at h
    refine ⟨login_shown hcontrol hcheck hidentity h, fun hdirect => ?_⟩
    cases hdirect
  | c3 =>
    rw [hcontrol] at h
    obtain ⟨hshown, hcontext⟩ := direct_shown (Or.inl hcontrol) hcheck hidentity h
    exact ⟨hshown, fun _ => hcontext⟩
  | c4 =>
    rw [hcontrol] at h
    obtain ⟨hshown, hcontext⟩ := blocked_shown hcontrol hcheck h
    exact ⟨hshown, fun _ => hcontext⟩
  | c5 =>
    rw [hcontrol] at h
    obtain ⟨hshown, hcontext⟩ := direct_shown (Or.inr hcontrol) hcheck hidentity h
    exact ⟨hshown, fun _ => hcontext⟩

theorem supported_of_result {verdict : Evaluation}
    (h : reachResult env evidence inputs = .ok verdict) (hpass : ¬ IsOpen verdict) :
    ∃ manifest plan, Supported env evidence inputs manifest plan := by
  unfold reachResult at h
  obtain ⟨gaps, hfound, h⟩ := except_bind_eq_ok h
  obtain ⟨reason, hproof, h⟩ := except_bind_eq_ok h
  cases h
  obtain ⟨hallowed, horigin⟩ := positiveResult_passed hpass
  unfold findContradictions at hfound
  obtain ⟨_, hopening, hfound⟩ := except_bind_eq_ok hfound
  obtain ⟨manifestGap, hmanifest, hfound⟩ := except_bind_eq_ok hfound
  obtain ⟨planGaps, hplan, hfound⟩ := except_bind_eq_ok hfound
  obtain ⟨handoff, hhandoff, hfound⟩ := except_bind_eq_ok hfound
  obtain ⟨labels, hlabels, hfound⟩ := except_bind_eq_ok hfound
  obtain ⟨query, hquery, hfound⟩ := except_bind_eq_ok hfound
  obtain ⟨_, hcontrol, hfound⟩ := except_bind_eq_ok hfound
  obtain ⟨_, hidentity, hfound⟩ := except_bind_eq_ok hfound
  cases hfound
  unfold findProof at hproof
  obtain ⟨_, hgaps, hproof⟩ := except_bind_eq_ok hproof
  obtain ⟨_, hsufficient, hproof⟩ := except_bind_eq_ok hproof
  obtain ⟨manifest, hsome, hcomplete⟩ := except_bind_eq_ok hproof
  obtain ⟨hexperiment, hexpected, hlabelGap, hmissing, hqueryGap, hmanifestGap, hplanGaps,
    hverified, hhandoffGap⟩ := gaps_closed hgaps
  dsimp only at hlabelGap hmissing hqueryGap hmanifestGap hplanGaps hhandoffGap hcomplete
  subst hqueryGap hmanifestGap
  have hknown : inputs.manifest = some manifest := by
    unfold orUnproven at hsome
    split at hsome
    next found hfound =>
      cases hsome
      exact hfound
    next => cases hsome
  have hbound := manifest_bound hknown hmanifest hlabels hexperiment hexpected hlabelGap hmissing
  rw [hknown] at hplan hlabels hquery hidentity hcomplete
  obtain ⟨plan, hterms, hplanBound⟩ := checkPlan_passed hplan hplanGaps hverified
  rw [hterms] at hquery hidentity hcomplete hhandoff
  obtain ⟨hrun, hcredential, hsecret, hunsafe⟩ := checkOpening_passed hopening
  obtain ⟨hcredentials, hcapture⟩ := sufficiency_shown hsufficient
  have hearlyLabels : evidence.control = .c1 →
      labelBindingMissing evidence = false ∧ selectedLabelDiffers evidence = false := by
    intro hc1
    exact (checkLabels_passed hlabels hlabelGap hmissing (by rw [hc1]; rfl)).2.2
  obtain ⟨hshown, hcontext⟩ := control_shown hcontrol hidentity hquery hearlyLabels hcomplete
  refine ⟨manifest, plan, {
    synthetic := ⟨hallowed, horigin⟩
    run := hrun
    secrets := ⟨hsecret, hunsafe⟩
    known := ⟨hknown, hterms⟩
    manifestBound := hbound
    planBound := hplanBound
    handoffBound := ?_
    capture := hcapture
    credentials := ?_
    shown := hshown }⟩
  · intro hdirect
    obtain ⟨hc2, hboundHandoff⟩ := checkHandoff_passed hhandoff hhandoffGap hdirect
    rw [hcontext hdirect] at hc2
    exact ⟨by simpa using hc2.symm, hboundHandoff⟩
  · intro hc0 hc1
    obtain ⟨hdigest, hinvestor⟩ := hcredentials hc0 hc1
    exact ⟨hinvestor, credentials_shown hcredential hdigest⟩

/-- Evidence that only asserts itself never gives a real pass. -/
theorem evaluate_ne_pass (env : LabEnv) (evidence : Evidence) (inputs : VerdictInputs) :
    (evaluateValidatedEvidence env evidence inputs).outcome ≠ .pass := by
  unfold evaluateValidatedEvidence
  cases hresult : reachResult env evidence inputs with
  | error verdict => exact (reachResult_open inputs verdict hresult).1
  | ok verdict =>
    unfold reachResult at hresult
    obtain ⟨gaps, _, hresult⟩ := except_bind_eq_ok hresult
    obtain ⟨reason, _, hresult⟩ := except_bind_eq_ok hresult
    cases hresult
    exact positiveResult_outcome evidence reason inputs.allowSynthetic

theorem supported_of_evaluate {env : LabEnv} {evidence : Evidence} {inputs : VerdictInputs}
    (h : (evaluateValidatedEvidence env evidence inputs).outcome = .syntheticPass) :
    ∃ manifest plan, Supported env evidence inputs manifest plan := by
  unfold evaluateValidatedEvidence at h
  cases hresult : reachResult env evidence inputs with
  | error verdict =>
    rw [hresult] at h
    exact absurd h (reachResult_open inputs verdict hresult).2
  | ok verdict =>
    rw [hresult] at h
    exact supported_of_result hresult fun hopen => hopen.2 h

end Soundness

end TradeJournalWorker.Lab
