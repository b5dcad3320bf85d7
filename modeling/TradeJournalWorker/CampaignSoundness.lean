import TradeJournalWorker.CampaignVerdict
import TradeJournalWorker.CanonicalJson

namespace TradeJournalWorker.Lab

open StagedChecks JsonValue

section Sets

theorem same_of_distinct {texts : List String} (h : distinct texts = 1) {a b : String}
    (ha : a ∈ texts) (hb : b ∈ texts) : a = b := by
  obtain ⟨text, htext⟩ := List.length_eq_one_iff.mp h
  have honly : ∀ c ∈ texts, c = text := by
    intro c hc
    have hmem := List.mem_dedup.mpr hc
    rw [htext] at hmem
    exact List.mem_singleton.mp hmem
  rw [honly a ha, honly b hb]

theorem nodup_of_distinct {texts : List String} (h : distinct texts = texts.length) :
    texts.Nodup := by
  have hsame := (List.dedup_sublist texts).eq_of_length h
  exact List.dedup_eq_self.mp hsame

variable {campaign : Control → Evidence} {controls : List Control} {text : Evidence → String}

theorem same_of_not_differ (h : ¬ differ campaign controls text) {a b : Control}
    (ha : a ∈ controls) (hb : b ∈ controls) : text (campaign a) = text (campaign b) :=
  same_of_distinct (not_not.mp h) (List.mem_map.mpr ⟨a, ha, rfl⟩) (List.mem_map.mpr ⟨b, hb, rfl⟩)

theorem nodup_of_not_coincide (h : ¬ coincide campaign controls text) :
    (controls.map fun control => text (campaign control)).Nodup := by
  refine nodup_of_distinct ?_
  rw [List.length_map]
  exact not_not.mp h

/-- C3, C4 and C5 differ from each other and from C0. -/
theorem independent_of_not (h : ¬ notIndependent campaign text) :
    ((.c0 :: directControls).map fun control => text (campaign control)).Nodup := by
  obtain ⟨hdirect, hshared⟩ := not_or.mp h
  rw [List.map_cons]
  exact List.nodup_cons.mpr ⟨hshared, nodup_of_not_coincide hdirect⟩

theorem control_mem_all (control : Control) : control ∈ Control.all := by
  cases control with
  | c0 => simp [Control.all]
  | c1 => simp [Control.all]
  | c2 => simp [Control.all]
  | c3 => simp [Control.all]
  | c4 => simp [Control.all]
  | c5 => simp [Control.all]

theorem all_nodup : Control.all.Nodup := by decide

end Sets

section Candidates

variable {floatText : Rat → String}

theorem floatless_candidate (candidate : Candidate) :
    Floatless (candidateJson (some candidate)) := by
  simp [candidateJson, Floatless, Floatless.floatlessMembers]

theorem unique_candidate (candidate : Candidate) :
    UniqueKeys (candidateJson (some candidate)) := by
  simp [candidateJson, UniqueKeys, UniqueKeys.uniqueMembers]

theorem candidate_ne_null (candidate : Candidate) :
    canonicalJson floatText (candidateJson (some candidate)) ≠
      canonicalJson floatText (candidateJson none) := by
  intro h
  have hnull : Floatless (candidateJson none) ∧ UniqueKeys (candidateJson none) :=
    ⟨trivial, trivial⟩
  have hsorted := canonicalJson_injective floatText (floatless_candidate candidate) hnull.1
    (unique_candidate candidate) hnull.2 h
  unfold candidateJson at hsorted
  rw [sortKeys_obj] at hsorted
  cases hsorted

/-- The canonical text of a candidate tells its address and its port. -/
theorem candidate_of_text {a b : Option Candidate}
    (h : canonicalJson floatText (candidateJson a) = canonicalJson floatText (candidateJson b)) :
    a = b := by
  cases a with
  | none =>
    cases b with
    | none => rfl
    | some other => exact absurd h.symm (candidate_ne_null other)
  | some candidate =>
    cases b with
    | none => exact absurd h (candidate_ne_null candidate)
    | some other =>
      have hlookup := lookup_of_canonicalJson floatText (floatless_candidate candidate)
        (floatless_candidate other) (unique_candidate candidate) (unique_candidate other) h
      have hip : candidate.ip = other.ip := by simpa [sortKeys] using hlookup "ip"
      have hport : candidate.port = other.port := by
        simpa [List.lookup_cons, sortKeys] using hlookup "port"
      cases candidate
      cases other
      dsimp only at hip hport
      rw [hip, hport]

theorem floatless_terms (identity : ExpectedIdentity) :
    Floatless (identityTermsJson identity) := by
  simp [identityTermsJson, Floatless, Floatless.floatlessMembers]

theorem unique_terms (identity : ExpectedIdentity) :
    UniqueKeys (identityTermsJson identity) := by
  simp [identityTermsJson, UniqueKeys, UniqueKeys.uniqueMembers]

theorem terms_of_text {a b : ExpectedIdentity}
    (h : canonicalJson floatText (identityTermsJson a) =
      canonicalJson floatText (identityTermsJson b)) : a = b := by
  have hlookup := lookup_of_canonicalJson floatText (floatless_terms a) (floatless_terms b)
    (unique_terms a) (unique_terms b) h
  have hserver : a.server = b.server := by simpa [sortKeys] using hlookup "server"
  have hcompany : a.company = b.company := by
    simpa [List.lookup_cons, sortKeys] using hlookup "company"
  have hmode : a.tradeMode = b.tradeMode := by
    simpa [List.lookup_cons, sortKeys] using hlookup "trade_mode"
  cases a
  cases b
  dsimp only at hserver hcompany hmode
  rw [hserver, hcompany, hmode]

end Candidates

/-- The handoff was made from the evidence of C2, and the direct manifest with it. -/
structure HandoffMade (env : LabEnv) (login : Evidence) (plan : ControlPlan)
    (direct : Option String) (handoff : CandidateHandoff) : Prop where
  run : handoff.c2RunId = login.runId
  plan : handoff.c2ControlPlanSha256 = plan.controlPlanSha256
  evidence : handoff.c2EvidenceSha256 = contractEvidenceDigest env login
  session : login.lifecycleBinding.c012SessionId = some handoff.c012SessionId
  initialState : login.initialPreStateBinding.initialC012PreStateSha256 =
    some handoff.initialC012PreStateSha256
  lifecycle : login.proofBinding.lifecycleBindingSha256 = some handoff.c2LifecycleBindingSha256
  identity : ∃ identity, login.identity = some identity ∧
    handoff.canonicalIdentity = identityTerms identity
  produced : handoff.producedAtUnixMs = lastTimestamp login.timeline
  direct : direct = some handoff.directCampaignManifestSha256

section Campaign

variable (campaign : Control → Evidence) (manifest : ExperimentManifest)

/-- C0, C1 and C2 are one session, one Job and one process, one after the other. -/
structure SharedSession : Prop where
  session : ∀ a ∈ sharedControls, ∀ b ∈ sharedControls,
    shownText (campaign a).lifecycleBinding.c012SessionId =
        shownText (campaign b).lifecycleBinding.c012SessionId ∧
      (campaign a).lifecycleBinding.jobId = (campaign b).lifecycleBinding.jobId ∧
      (campaign a).proofBinding.jobIdentitySha256 = (campaign b).proofBinding.jobIdentitySha256 ∧
      (campaign a).proofBinding.rootProcessGenerationSha256 =
        (campaign b).proofBinding.rootProcessGenerationSha256 ∧
      initialDigest (campaign a) = initialDigest (campaign b)
  machine : ∀ a ∈ sharedControls, ∀ b ∈ sharedControls,
    (campaign a).runContext.cloneIdSha256 = (campaign b).runContext.cloneIdSha256 ∧
      (campaign a).runContext.windowsUserSidSha256 =
        (campaign b).runContext.windowsUserSidSha256 ∧
      (campaign a).runContext.portableRootPathSha256 =
        (campaign b).runContext.portableRootPathSha256
  clock : (campaign .c0).timeline.qpcFrequencyHz = (campaign .c1).timeline.qpcFrequencyHz ∧
    (campaign .c0).timeline.qpcFrequencyHz = (campaign .c2).timeline.qpcFrequencyHz
  order : lastQpc (campaign .c0).timeline < firstQpc (campaign .c1).timeline ∧
    lastQpc (campaign .c1).timeline < firstQpc (campaign .c2).timeline ∧
    lastTimestamp (campaign .c0).timeline ≤ firstTimestamp (campaign .c1).timeline ∧
    lastTimestamp (campaign .c1).timeline ≤ firstTimestamp (campaign .c2).timeline

/-- C3, C4 and C5 run on machines of their own, one after the other and after C2. -/
structure DirectRuns : Prop where
  clones : ((.c0 :: directControls).map fun c => (campaign c).runContext.cloneIdSha256).Nodup
  users : ((.c0 :: directControls).map fun c =>
    (campaign c).runContext.windowsUserSidSha256).Nodup
  roots : ((.c0 :: directControls).map fun c =>
    (campaign c).runContext.portableRootPathSha256).Nodup
  jobs : ((.c0 :: directControls).map fun c => (campaign c).proofBinding.jobIdentitySha256).Nodup
  processes : ((.c0 :: directControls).map fun c =>
    (campaign c).proofBinding.rootProcessGenerationSha256).Nodup
  afterLogin : ∀ c ∈ directControls,
    (campaign .c2).runContext.completedAtUnix ≤ (campaign c).runContext.startedAtUnix
  order : lastTimestamp (campaign .c3).timeline ≤ firstTimestamp (campaign .c4).timeline ∧
    lastTimestamp (campaign .c4).timeline ≤ firstTimestamp (campaign .c5).timeline
  separation : manifest.durationsSeconds.c5SeparationMinimum * 1000 ≤
    firstTimestamp (campaign .c5).timeline - lastTimestamp (campaign .c3).timeline

end Campaign

/-- What stands behind a pass of a campaign. -/
structure CampaignSupported (env : LabEnv) (evidences : List Evidence) (inputs : CampaignInputs)
    (campaign : Control → Evidence) (manifest : ExperimentManifest) : Prop where
  complete : evidences.Perm (Control.all.map campaign)
  controls : ∀ control, (campaign control).control = control
  known : inputs.manifest = some manifest
  supported : ∀ control, ∃ plan, inputs.plans control = some plan ∧
    Supported env (campaign control) (controlInputs campaign inputs control) manifest plan
  runs : (Control.all.map fun control => (campaign control).runId).Nodup
  artifacts : (Control.all.map fun control =>
    (campaign control).proofBinding.provenance.artifactSetId).Nodup
  shared : SharedSession campaign
  initialState : initialDigest (campaign .c0) = expectedInitialDigest env (campaign .c0)
  direct : DirectRuns campaign manifest
  handoff : ∃ handoff plan, inputs.handoff = some handoff ∧ inputs.plans .c2 = some plan ∧
    HandoffMade env (campaign .c2) plan inputs.directManifest handoff ∧
    ∀ control ∈ loginControls,
      (campaign control).runContext.candidateEndpoint = some handoff.candidateEndpoint
  identity : ∃ identities, observedIdentities campaign = some identities ∧
    ∀ a ∈ identities, ∀ b ∈ identities, identityTerms a = identityTerms b
  credentials : ∀ a ∈ loginControls, ∀ b ∈ loginControls,
    shownText (campaign a).runContext.credentialSetId =
      shownText (campaign b).runContext.credentialSetId

section Open

variable {env : LabEnv} {campaign : Control → Evidence} {inputs : CampaignInputs}

theorem checkCampaignSecrets_open (controls : List Control) :
    EndsOnly IsOpen (checkCampaignSecrets campaign controls) := by
  induction controls with
  | nil => exact EndsOnly.ok ()
  | cons control rest ih =>
    unfold checkCampaignSecrets
    iterate 2 refine EndsOnly.settle_bind (contradicted_isFail _).isOpen ?_
    exact ih

theorem checkSession_open : EndsOnly IsOpen (checkSession env campaign) := by
  unfold checkSession
  iterate 7 refine EndsOnly.settle_bind (unproven_isOpen _) ?_
  iterate 2 refine EndsOnly.settle_bind (contradicted_isFail _).isOpen ?_
  exact EndsOnly.settle (unproven_isOpen _)

theorem checkCampaignIdentity_open : EndsOnly IsOpen (checkCampaignIdentity campaign inputs) := by
  unfold checkCampaignIdentity
  iterate 4 refine EndsOnly.settle_bind (contradicted_isFail _).isOpen ?_
  exact EndsOnly.settle (unproven_isOpen _)

theorem checkHandoffOrigin_open (handoff : CandidateHandoff) :
    EndsOnly IsOpen (checkHandoffOrigin env campaign inputs handoff) := by
  unfold checkHandoffOrigin
  refine EndsOnly.bind (orUnproven_open _ _) fun _ => ?_
  iterate 2 refine EndsOnly.settle_bind (contradicted_isFail _).isOpen ?_
  refine EndsOnly.bind (orUnproven_open _ _) fun _ => ?_
  iterate 2 refine EndsOnly.settle_bind (contradicted_isFail _).isOpen ?_
  refine EndsOnly.bind (orUnproven_open _ _) fun _ => ?_
  exact EndsOnly.settle (contradicted_isFail _).isOpen

theorem checkOutcomes_open : EndsOnly IsOpen (checkOutcomes env campaign inputs) := by
  unfold checkOutcomes
  refine EndsOnly.settle_bind (by simp [IsOpen]) ?_
  refine EndsOnly.settle_bind (unproven_isOpen _) ?_
  exact EndsOnly.settle (by simp [IsOpen])

theorem checkTimelinePair_open (earlier later : Timeline) :
    EndsOnly IsOpen (checkTimelinePair earlier later) := by
  unfold checkTimelinePair
  refine EndsOnly.settle_bind (unproven_isOpen _) ?_
  exact EndsOnly.settle (unproven_isOpen _)

theorem checkInstances_open : EndsOnly IsOpen (checkInstances campaign) := by
  unfold checkInstances
  refine EndsOnly.settle_bind (contradicted_isFail _).isOpen ?_
  iterate 14 refine EndsOnly.settle_bind (unproven_isOpen _) ?_
  exact EndsOnly.settle (unproven_isOpen _)

theorem checkClosing_open : EndsOnly IsOpen (checkClosing campaign inputs) := by
  unfold checkClosing
  iterate 2 refine EndsOnly.settle_bind (unproven_isOpen _) ?_
  iterate 4 refine EndsOnly.settle_bind (contradicted_isFail _).isOpen ?_
  iterate 2 refine EndsOnly.settle_bind (unproven_isOpen _) ?_
  exact EndsOnly.settle (unproven_isOpen _)

/-- No check of the campaign gives a pass. -/
theorem checkCampaign_open : EndsOnly IsOpen (checkCampaign env campaign inputs) := by
  unfold checkCampaign
  refine EndsOnly.bind (checkCampaignSecrets_open _) fun _ => ?_
  refine EndsOnly.bind checkSession_open fun _ => ?_
  refine EndsOnly.bind ?_ fun _ => ?_
  · unfold checkCampaignConfig
    refine EndsOnly.settle_bind (unproven_isOpen _) ?_
    exact EndsOnly.settle (unproven_isOpen _)
  refine EndsOnly.bind checkCampaignIdentity_open fun _ => ?_
  refine EndsOnly.bind ?_ fun _ => ?_
  · unfold checkDirectOrder
    iterate 2 refine EndsOnly.settle_bind (unproven_isOpen _) ?_
    exact EndsOnly.settle (unproven_isOpen _)
  refine EndsOnly.bind ?_ fun _ => ?_
  · unfold checkCampaignHandoff
    split
    next handoff _ => exact checkHandoffOrigin_open handoff
    next => exact EndsOnly.ok ()
  refine EndsOnly.bind checkOutcomes_open fun _ => ?_
  refine EndsOnly.bind ?_ fun _ => ?_
  · unfold validateC012TimelineOrder
    refine EndsOnly.settle_bind (unproven_isOpen _) ?_
    refine EndsOnly.bind (checkTimelinePair_open _ _) fun _ => ?_
    exact checkTimelinePair_open _ _
  refine EndsOnly.bind checkInstances_open fun _ => ?_
  refine EndsOnly.bind ?_ fun _ => checkClosing_open
  unfold checkArtifacts
  iterate 9 refine EndsOnly.settle_bind (unproven_isOpen _) ?_
  exact EndsOnly.settle (unproven_isOpen _)

theorem byControl_open (evidences : List Evidence) : EndsOnly IsOpen (byControl evidences) := by
  unfold byControl
  refine EndsOnly.settle_bind (unproven_isOpen _) ?_
  iterate 6 refine EndsOnly.bind (orUnproven_open _ _) fun _ => ?_
  exact EndsOnly.ok _

end Open

section Parts

variable {env : LabEnv} {campaign : Control → Evidence} {inputs : CampaignInputs}

theorem of_orUnproven {α : Type} {value : Option α} {reason : String} {a : α}
    (h : orUnproven value reason = .ok a) : value = some a := by
  cases value with
  | none => cases h
  | some b =>
    cases h
    rfl

theorem of_evidenceOf {evidences : List Evidence} {control : Control} {evidence : Evidence}
    (h : evidenceOf evidences control = .ok evidence) :
    evidence ∈ evidences ∧ evidence.control = control := by
  have hfind := of_orUnproven h
  exact ⟨List.mem_of_find?_eq_some hfind, by simpa using List.find?_some hfind⟩

/-- Six evidences, one of each control. -/
theorem byControl_complete {evidences : List Evidence} (h : byControl evidences = .ok campaign) :
    evidences.Perm (Control.all.map campaign) ∧
      ∀ control, (campaign control).control = control := by
  unfold byControl at h
  obtain ⟨hnodup, h⟩ := of_settle_bind h
  obtain ⟨e0, h0, h⟩ := except_bind_eq_ok h
  obtain ⟨e1, h1, h⟩ := except_bind_eq_ok h
  obtain ⟨e2, h2, h⟩ := except_bind_eq_ok h
  obtain ⟨e3, h3, h⟩ := except_bind_eq_ok h
  obtain ⟨e4, h4, h⟩ := except_bind_eq_ok h
  obtain ⟨e5, h5, h⟩ := except_bind_eq_ok h
  cases h
  have hfound : ∀ control, ofControls e0 e1 e2 e3 e4 e5 control ∈ evidences ∧
      (ofControls e0 e1 e2 e3 e4 e5 control).control = control := by
    intro control
    cases control with
    | c0 => exact of_evidenceOf h0
    | c1 => exact of_evidenceOf h1
    | c2 => exact of_evidenceOf h2
    | c3 => exact of_evidenceOf h3
    | c4 => exact of_evidenceOf h4
    | c5 => exact of_evidenceOf h5
  have hnodup := not_not.mp hnodup
  have hlist := List.Nodup.of_map _ hnodup
  have hcampaign : (Control.all.map (ofControls e0 e1 e2 e3 e4 e5)).Nodup := by
    refine all_nodup.map ?_
    intro a b hsame
    rw [← (hfound a).2, hsame, (hfound b).2]
  refine ⟨(List.perm_ext_iff_of_nodup hlist hcampaign).mpr fun evidence => ?_,
    fun control => (hfound control).2⟩
  constructor
  · intro hmem
    have hsame := List.inj_on_of_nodup_map hnodup hmem (hfound evidence.control).1
      (hfound evidence.control).2.symm
    exact List.mem_map.mpr ⟨evidence.control, control_mem_all _, hsame.symm⟩
  · intro hmem
    obtain ⟨control, _, rfl⟩ := List.mem_map.mp hmem
    exact (hfound control).1

theorem checkSession_passed (h : checkSession env campaign = .ok ()) :
    (∀ a ∈ sharedControls, ∀ b ∈ sharedControls,
      shownText (campaign a).lifecycleBinding.c012SessionId =
          shownText (campaign b).lifecycleBinding.c012SessionId ∧
        (campaign a).lifecycleBinding.jobId = (campaign b).lifecycleBinding.jobId ∧
        (campaign a).proofBinding.jobIdentitySha256 =
          (campaign b).proofBinding.jobIdentitySha256 ∧
        (campaign a).proofBinding.rootProcessGenerationSha256 =
          (campaign b).proofBinding.rootProcessGenerationSha256 ∧
        initialDigest (campaign a) = initialDigest (campaign b)) ∧
      initialDigest (campaign .c0) = expectedInitialDigest env (campaign .c0) := by
  unfold checkSession at h
  obtain ⟨_, h⟩ := of_settle_bind h
  obtain ⟨hidentity, h⟩ := of_settle_bind h
  obtain ⟨hgeneration, h⟩ := of_settle_bind h
  obtain ⟨hsession, h⟩ := of_settle_bind h
  obtain ⟨hjob, h⟩ := of_settle_bind h
  obtain ⟨_, h⟩ := of_settle_bind h
  obtain ⟨hinitial, h⟩ := of_settle_bind h
  obtain ⟨hexpected, _⟩ := of_settle_bind h
  refine ⟨fun a ha b hb => ?_, not_not.mp hexpected⟩
  exact ⟨same_of_not_differ hsession ha hb, same_of_not_differ hjob ha hb,
    same_of_not_differ hidentity ha hb, same_of_not_differ hgeneration ha hb,
    same_of_not_differ hinitial ha hb⟩

theorem checkCampaignIdentity_passed (h : checkCampaignIdentity campaign inputs = .ok ())
    {identities : List Identity} (hidentities : observedIdentities campaign = some identities) :
    ∀ a ∈ identities, ∀ b ∈ identities, identityTerms a = identityTerms b := by
  unfold checkCampaignIdentity at h
  obtain ⟨_, h⟩ := of_settle_bind h
  obtain ⟨_, h⟩ := of_settle_bind h
  obtain ⟨_, h⟩ := of_settle_bind h
  obtain ⟨hobserved, _⟩ := of_settle_bind h
  have hnone := fun hdiffers => hobserved ⟨identities, hidentities, hdiffers⟩
  simp only [not_or, not_not, ne_eq, imp_false] at hnone
  obtain ⟨hserver, hcompany, hmode⟩ := hnone
  intro a ha b hb
  unfold identityTerms
  rw [same_of_distinct hserver (List.mem_map.mpr ⟨a, ha, rfl⟩) (List.mem_map.mpr ⟨b, hb, rfl⟩),
    same_of_distinct hcompany (List.mem_map.mpr ⟨a, ha, rfl⟩) (List.mem_map.mpr ⟨b, hb, rfl⟩),
    same_of_distinct hmode (List.mem_map.mpr ⟨a, ha, rfl⟩) (List.mem_map.mpr ⟨b, hb, rfl⟩)]

theorem checkDirectOrder_passed {known : ExperimentManifest}
    (hmanifest : inputs.manifest = some known) (h : checkDirectOrder campaign inputs = .ok ()) :
    (lastTimestamp (campaign .c3).timeline ≤ firstTimestamp (campaign .c4).timeline ∧
        lastTimestamp (campaign .c4).timeline ≤ firstTimestamp (campaign .c5).timeline) ∧
      known.durationsSeconds.c5SeparationMinimum * 1000 ≤
        firstTimestamp (campaign .c5).timeline - lastTimestamp (campaign .c3).timeline ∧
      ∀ c ∈ directControls,
        (campaign .c2).runContext.completedAtUnix ≤ (campaign c).runContext.startedAtUnix := by
  unfold checkDirectOrder at h
  obtain ⟨horder, h⟩ := of_settle_bind h
  obtain ⟨hcold, h⟩ := of_settle_bind h
  have hblocked := settle_eq_ok.mp h
  unfold directOrderInvalid at horder
  simp only [not_or, not_lt] at horder hcold hblocked
  obtain ⟨_, _, hfirst, hsecond, hseparation⟩ := horder
  have hseparated : known.durationsSeconds.c5SeparationMinimum * 1000 ≤
      firstTimestamp (campaign .c5).timeline - lastTimestamp (campaign .c3).timeline := by
    by_contra hshort
    exact hseparation ⟨known, hmanifest, Or.inr (not_le.mp hshort)⟩
  refine ⟨⟨hfirst, hsecond⟩, hseparated, ?_⟩
  intro c hc
  simp only [directControls, List.mem_cons, List.not_mem_nil, or_false] at hc
  rcases hc with rfl | rfl | rfl
  · exact hcold.1
  · exact hblocked
  · exact hcold.2

theorem checkHandoffOrigin_passed {handoff : CandidateHandoff}
    (h : checkHandoffOrigin env campaign inputs handoff = .ok ()) :
    ∃ plan, inputs.plans .c2 = some plan ∧
      HandoffMade env (campaign .c2) plan inputs.directManifest handoff := by
  unfold checkHandoffOrigin at h
  obtain ⟨plan, hplan, h⟩ := except_bind_eq_ok h
  obtain ⟨hbinding, h⟩ := of_settle_bind h
  obtain ⟨hlifecycle, h⟩ := of_settle_bind h
  obtain ⟨identity, hidentity, h⟩ := except_bind_eq_ok h
  obtain ⟨hterms, h⟩ := of_settle_bind h
  obtain ⟨hproduced, h⟩ := of_settle_bind h
  obtain ⟨direct, hdirect, h⟩ := except_bind_eq_ok h
  have hsame := not_not.mp (settle_eq_ok.mp h)
  simp only [not_or, not_not, ne_eq] at hbinding hlifecycle hproduced
  refine ⟨plan, of_orUnproven hplan, {
    run := hbinding.1
    plan := hbinding.2.1
    evidence := hbinding.2.2
    session := hlifecycle.2.1.symm
    initialState := hlifecycle.2.2.1.symm
    lifecycle := hlifecycle.2.2.2.symm
    identity := ⟨identity, of_orUnproven hidentity, terms_of_text (not_not.mp hterms)⟩
    produced := hproduced
    direct := by rw [of_orUnproven hdirect, hsame] }⟩

theorem checkOutcomes_passed (h : checkOutcomes env campaign inputs = .ok ()) :
    ∃ known, inputs.manifest = some known ∧
      ∀ control, outcomeOf env campaign inputs control = expectedPositive inputs := by
  unfold checkOutcomes at h
  obtain ⟨_, h⟩ := of_settle_bind h
  obtain ⟨hmanifest, h⟩ := of_settle_bind h
  have hcomplete := not_not.mp (settle_eq_ok.mp h)
  obtain ⟨known, hknown⟩ := Option.ne_none_iff_exists'.mp hmanifest
  refine ⟨known, hknown, fun control => ?_⟩
  have hfiltered := List.filter_eq_nil_iff.mp hcomplete control (control_mem_all control)
  simpa using hfiltered

theorem validateC012TimelineOrder_passed (h : validateC012TimelineOrder campaign = .ok ()) :
    ((campaign .c0).timeline.qpcFrequencyHz = (campaign .c1).timeline.qpcFrequencyHz ∧
        (campaign .c0).timeline.qpcFrequencyHz = (campaign .c2).timeline.qpcFrequencyHz) ∧
      lastQpc (campaign .c0).timeline < firstQpc (campaign .c1).timeline ∧
      lastQpc (campaign .c1).timeline < firstQpc (campaign .c2).timeline ∧
      lastTimestamp (campaign .c0).timeline ≤ firstTimestamp (campaign .c1).timeline ∧
      lastTimestamp (campaign .c1).timeline ≤ firstTimestamp (campaign .c2).timeline := by
  unfold validateC012TimelineOrder at h
  obtain ⟨hclock, h⟩ := of_settle_bind h
  obtain ⟨_, hfirst, hsecond⟩ := except_bind_eq_ok h
  unfold checkTimelinePair at hfirst hsecond
  obtain ⟨hstamps, hfirst⟩ := of_settle_bind hfirst
  obtain ⟨hstamps', hsecond⟩ := of_settle_bind hsecond
  have hqpc := settle_eq_ok.mp hfirst
  have hqpc' := settle_eq_ok.mp hsecond
  exact ⟨not_not.mp hclock, by omega, by omega, by omega, by omega⟩

theorem checkInstances_passed (h : checkInstances campaign = .ok ()) :
    (Control.all.map fun control => (campaign control).runId).Nodup ∧
      (∀ a ∈ sharedControls, ∀ b ∈ sharedControls,
        (campaign a).runContext.cloneIdSha256 = (campaign b).runContext.cloneIdSha256 ∧
          (campaign a).runContext.windowsUserSidSha256 =
            (campaign b).runContext.windowsUserSidSha256 ∧
          (campaign a).runContext.portableRootPathSha256 =
            (campaign b).runContext.portableRootPathSha256) ∧
      ¬ notIndependent campaign (fun e => e.runContext.cloneIdSha256) ∧
      ¬ notIndependent campaign (fun e => e.runContext.windowsUserSidSha256) ∧
      ¬ notIndependent campaign (fun e => e.runContext.portableRootPathSha256) ∧
      ¬ notIndependent campaign (fun e => e.proofBinding.jobIdentitySha256) ∧
      ¬ notIndependent campaign (fun e => e.proofBinding.rootProcessGenerationSha256) := by
  unfold checkInstances at h
  obtain ⟨_, h⟩ := of_settle_bind h
  obtain ⟨hruns, h⟩ := of_settle_bind h
  iterate 3 obtain ⟨_, h⟩ := of_settle_bind h
  obtain ⟨hclone, h⟩ := of_settle_bind h
  obtain ⟨huser, h⟩ := of_settle_bind h
  obtain ⟨hroot, h⟩ := of_settle_bind h
  iterate 3 obtain ⟨_, h⟩ := of_settle_bind h
  obtain ⟨hclones, h⟩ := of_settle_bind h
  obtain ⟨husers, h⟩ := of_settle_bind h
  obtain ⟨hroots, h⟩ := of_settle_bind h
  obtain ⟨hjobs, h⟩ := of_settle_bind h
  have hprocesses := settle_eq_ok.mp h
  refine ⟨nodup_of_not_coincide hruns, fun a ha b hb => ?_, hclones, husers, hroots, hjobs,
    hprocesses⟩
  exact ⟨same_of_not_differ hclone ha hb, same_of_not_differ huser ha hb,
    same_of_not_differ hroot ha hb⟩

theorem checkArtifacts_passed (h : checkArtifacts env campaign = .ok ()) :
    (∀ a ∈ loginControls, ∀ b ∈ loginControls,
      (campaign a).runContext.candidateEndpoint = (campaign b).runContext.candidateEndpoint ∧
        shownText (campaign a).runContext.credentialSetId =
          shownText (campaign b).runContext.credentialSetId) ∧
      (Control.all.map fun control =>
        (campaign control).proofBinding.provenance.artifactSetId).Nodup := by
  unfold checkArtifacts at h
  obtain ⟨_, h⟩ := of_settle_bind h
  obtain ⟨hcandidate, h⟩ := of_settle_bind h
  obtain ⟨_, h⟩ := of_settle_bind h
  obtain ⟨hcredentials, h⟩ := of_settle_bind h
  obtain ⟨hartifacts, _⟩ := of_settle_bind h
  refine ⟨fun a ha b hb => ?_, nodup_of_not_coincide hartifacts⟩
  exact ⟨candidate_of_text (same_of_not_differ hcandidate ha hb),
    same_of_not_differ hcredentials ha hb⟩

end Parts

section Soundness

variable {env : LabEnv} {campaign : Control → Evidence} {inputs : CampaignInputs}

theorem synthetic_of_positive {evidence : Evidence} {given : VerdictInputs}
    (h : (evaluateValidatedEvidence env evidence given).outcome = expectedPositive inputs) :
    (evaluateValidatedEvidence env evidence given).outcome = .syntheticPass := by
  have hpass := evaluate_ne_pass env evidence given
  unfold expectedPositive at h
  split at h
  next => exact h
  next => exact absurd h hpass

theorem identity_of_supported {control : Control} {given : VerdictInputs}
    {manifest : ExperimentManifest} {plan : ControlPlan} {evidence : Evidence}
    (hevidence : evidence.control = control) (hcontrol : control ∈ identityControls)
    (h : Supported env evidence given manifest plan) :
    ∃ identity, evidence.identity = some identity := by
  have hshown := h.shown
  unfold ControlShown at hshown
  simp only [identityControls, List.mem_cons, List.not_mem_nil, or_false] at hcontrol
  rcases hcontrol with rfl | rfl | rfl
  · rw [hevidence] at hshown
    obtain ⟨identity, hidentity, _⟩ := hshown.2.2.2
    exact ⟨identity, hidentity⟩
  · rw [hevidence] at hshown
    obtain ⟨identity, hidentity, _⟩ := hshown.2.2.2.2.2.1
    exact ⟨identity, hidentity⟩
  · rw [hevidence] at hshown
    obtain ⟨identity, hidentity, _⟩ := hshown.2.2.2.2.2.1
    exact ⟨identity, hidentity⟩

theorem identities_observed
    (h : ∀ control ∈ identityControls, ∃ identity, (campaign control).identity = some identity) :
    ∃ identities, observedIdentities campaign = some identities := by
  obtain ⟨i2, h2⟩ := h .c2 (by simp [identityControls])
  obtain ⟨i3, h3⟩ := h .c3 (by simp [identityControls])
  obtain ⟨i5, h5⟩ := h .c5 (by simp [identityControls])
  refine ⟨[i2, i3, i5], ?_⟩
  simp [observedIdentities, identityControls, h2, h3, h5]

theorem campaign_supported {evidences : List Evidence} (hcontrol : byControl evidences = .ok campaign)
    (h : checkCampaign env campaign inputs = .ok ()) :
    ∃ manifest, CampaignSupported env evidences inputs campaign manifest := by
  obtain ⟨hcomplete, hcontrols⟩ := byControl_complete hcontrol
  unfold checkCampaign at h
  obtain ⟨_, _, h⟩ := except_bind_eq_ok h
  obtain ⟨_, hsession, h⟩ := except_bind_eq_ok h
  obtain ⟨_, _, h⟩ := except_bind_eq_ok h
  obtain ⟨_, hidentity, h⟩ := except_bind_eq_ok h
  obtain ⟨_, horder, h⟩ := except_bind_eq_ok h
  obtain ⟨_, hhandoff, h⟩ := except_bind_eq_ok h
  obtain ⟨_, houtcomes, h⟩ := except_bind_eq_ok h
  obtain ⟨_, htimeline, h⟩ := except_bind_eq_ok h
  obtain ⟨_, hinstances, h⟩ := except_bind_eq_ok h
  obtain ⟨_, hartifacts, _⟩ := except_bind_eq_ok h
  obtain ⟨manifest, hknown, hpositive⟩ := checkOutcomes_passed houtcomes
  have hsupported : ∀ control, ∃ plan, inputs.plans control = some plan ∧
      Supported env (campaign control) (controlInputs campaign inputs control) manifest plan := by
    intro control
    have hsynthetic := synthetic_of_positive (hpositive control)
    obtain ⟨other, plan, hothers⟩ := supported_of_evaluate hsynthetic
    have hsame : other = manifest := by
      have hother : inputs.manifest = some other := hothers.known.1
      rw [hknown] at hother
      exact (Option.some.inj hother).symm
    exact ⟨plan, hothers.known.2, hsame ▸ hothers⟩
  obtain ⟨hshared, hinitial⟩ := checkSession_passed hsession
  obtain ⟨hclock, hqpc⟩ := validateC012TimelineOrder_passed htimeline
  obtain ⟨hruns, hmachine, hclones, husers, hroots, hjobs, hprocesses⟩ :=
    checkInstances_passed hinstances
  obtain ⟨hsameLogin, hsets⟩ := checkArtifacts_passed hartifacts
  obtain ⟨hdirectOrder, hseparation, hafter⟩ := checkDirectOrder_passed hknown horder
  obtain ⟨identities, hobserved⟩ := identities_observed fun control hmem => by
    obtain ⟨plan, _, hsupport⟩ := hsupported control
    exact identity_of_supported (hcontrols control) hmem hsupport
  refine ⟨manifest, {
    complete := hcomplete
    controls := hcontrols
    known := hknown
    supported := hsupported
    runs := hruns
    artifacts := hsets
    shared := ⟨hshared, hmachine, hclock, hqpc⟩
    initialState := hinitial
    direct := {
      clones := independent_of_not hclones
      users := independent_of_not husers
      roots := independent_of_not hroots
      jobs := independent_of_not hjobs
      processes := independent_of_not hprocesses
      afterLogin := hafter
      order := hdirectOrder
      separation := hseparation }
    handoff := ?_
    identity := ⟨identities, hobserved, checkCampaignIdentity_passed hidentity hobserved⟩
    credentials := fun a ha b hb => (hsameLogin a ha b hb).2 }⟩
  obtain ⟨plan, _, hsupport⟩ := hsupported .c3
  obtain ⟨_, handoff, hgiven, hbound⟩ := hsupport.handoffBound (by rw [hcontrols]; rfl)
  have hthere : inputs.handoff = some handoff := hgiven
  unfold checkCampaignHandoff at hhandoff
  rw [hthere] at hhandoff
  obtain ⟨c2Plan, hc2Plan, hmade⟩ := checkHandoffOrigin_passed hhandoff
  refine ⟨handoff, c2Plan, hthere, hc2Plan, hmade, fun control hlogin => ?_⟩
  rw [(hsameLogin control hlogin .c3 (by simp [loginControls])).1]
  exact candidate_of_text hbound.candidate

theorem evaluateCampaign_ne_pass (env : LabEnv) (inputs : CampaignInputs)
    (evidences : List Evidence) :
    (evaluateValidatedCampaign env inputs evidences).outcome ≠ .pass := by
  unfold evaluateValidatedCampaign
  cases hcontrol : byControl evidences with
  | error verdict => exact (byControl_open evidences verdict hcontrol).1
  | ok campaign =>
    rw [except_ok_bind]
    cases hcheck : checkCampaign env campaign inputs with
    | error verdict => exact (checkCampaign_open verdict hcheck).1
    | ok _ => simp

theorem supported_of_campaign {evidences : List Evidence}
    (h : (evaluateValidatedCampaign env inputs evidences).outcome = .syntheticPass) :
    ∃ campaign manifest, CampaignSupported env evidences inputs campaign manifest := by
  unfold evaluateValidatedCampaign at h
  cases hcontrol : byControl evidences with
  | error verdict =>
    rw [hcontrol] at h
    exact absurd h (byControl_open evidences verdict hcontrol).2
  | ok campaign =>
    rw [hcontrol, except_ok_bind] at h
    cases hcheck : checkCampaign env campaign inputs with
    | error verdict =>
      rw [hcheck] at h
      exact absurd h (checkCampaign_open verdict hcheck).2
    | ok _ => exact ⟨campaign, campaign_supported hcontrol hcheck⟩

/-- The verdict on a campaign is never a real pass, and the synthetic one needs all six
controls, each supported and bound to the others. -/
theorem campaign_is_supported (env : LabEnv) (inputs : CampaignInputs)
    (evidences : List Evidence) :
    (evaluateValidatedCampaign env inputs evidences).outcome ≠ .pass ∧
      ((evaluateValidatedCampaign env inputs evidences).outcome = .syntheticPass →
        ∃ campaign manifest, CampaignSupported env evidences inputs campaign manifest) :=
  ⟨evaluateCampaign_ne_pass env inputs evidences, supported_of_campaign⟩

/-- The same from the documents of the evidence. -/
theorem evaluateCampaign_supported {payloads : List JsonValue} {verdict : Evaluation}
    (h : evaluateCampaign env inputs payloads = .ok verdict)
    (hpass : verdict.outcome = .syntheticPass) :
    ∃ evidences campaign manifest,
      List.Forall₂ (fun payload evidence => validateEvidence env payload = .ok evidence)
        payloads evidences ∧ CampaignSupported env evidences inputs campaign manifest := by
  unfold evaluateCampaign at h
  obtain ⟨evidences, hvalid, h⟩ := except_bind_eq_ok h
  cases h
  obtain ⟨campaign, manifest, hsupported⟩ := supported_of_campaign hpass
  exact ⟨evidences, campaign, manifest, forall₂_of_mapM hvalid, hsupported⟩

end Soundness

section Sample

def sampleHandoff : CandidateHandoff where
  experimentId := "experiment"
  c2RunId := "C2"
  c2ControlPlanSha256 := "C2"
  c2EvidenceSha256 := zeroDigest
  lifecycleMode := "C012_SINGLE_PROCESS_SESSION"
  c012SessionId := "session"
  initialC012PreStateSha256 := zeroDigest
  c2LifecycleBindingSha256 := zeroDigest
  candidateEndpoint := sampleCandidate
  canonicalIdentity := { server := "Server", company := "Company", tradeMode := "DEMO" }
  terminalSha256 := "terminal"
  terminalBuild := 1
  producedAtUnixMs := 70000
  directCampaignManifestSha256 := "campaign"
  candidateHandoffManifestSha256 := "handoff"

def sampleCampaign : CampaignInputs where
  manifest := some sampleManifest
  plans := fun control => some (samplePlan control)
  handoff := some sampleHandoff
  directManifest := some "campaign"
  allowSynthetic := true

set_option maxRecDepth 20000 in
/-- The six controls of the sample pass. -/
theorem sample_is_supported : ∃ campaign manifest, CampaignSupported zeroEnv
    (Control.all.map sampleEvidence) sampleCampaign campaign manifest :=
  (campaign_is_supported zeroEnv sampleCampaign (Control.all.map sampleEvidence)).2
    (by decide +kernel)

end Sample

end TradeJournalWorker.Lab
