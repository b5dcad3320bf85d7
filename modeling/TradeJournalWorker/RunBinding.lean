import TradeJournalWorker.VerifierGuarantee

namespace TradeJournalWorker.Lab

section Preimages

variable {env : LabEnv} {manifest : ArtifactManifest} {claimedJob claimedRoot : String}

/-- The digest is recomputed from the job identity preimage of the control. -/
def JobVerified (env : LabEnv) (manifest : ArtifactManifest) (control : Control)
    (claimed : String) : Prop :=
  ∃ payload, StructuredVerified env manifest (.jobIdentityPreimage control) (some claimed)
    "JOB_IDENTITY" payload

def RootVerified (env : LabEnv) (manifest : ArtifactManifest) (control : Control)
    (claimed : String) : Prop :=
  ∃ payload, StructuredVerified env manifest (.rootProcessGenerationPreimage control)
    (some claimed) "ROOT_PROCESS_GENERATION" payload

theorem checkPreimage_verified {role : ArtifactRole} {claimed artifactType shapeError : String}
    {keys reasons : List String} {members : Members}
    (h : checkPreimage env manifest role claimed artifactType keys shapeError =
      .payload members reasons) :
    ∃ payload, StructuredVerified env manifest role (some claimed) artifactType payload := by
  unfold checkPreimage at h
  generalize hresult : verifyStructuredDigest env manifest role (some claimed) artifactType 1 =
    result at h
  obtain ⟨status, found, others⟩ := result
  cases status with
  | mismatch => cases h
  | missing => cases h
  | verified =>
    obtain ⟨payload, _, hverified⟩ := verifyStructuredDigest_verified hresult
    exact ⟨payload, hverified⟩

/-- When all preimages are verified the digests are those of the files of every control. -/
theorem collectPreimages_verified {controls : List Control} {found result : Preimages}
    (h : collectPreimages env manifest claimedJob claimedRoot found controls = .ok result)
    (hall : result.allVerified = true) :
    found.allVerified = true ∧ ∀ control ∈ controls,
      JobVerified env manifest control claimedJob ∧
        RootVerified env manifest control claimedRoot := by
  induction controls generalizing found with
  | nil =>
    cases h
    exact ⟨hall, fun control hcontrol => absurd hcontrol List.not_mem_nil⟩
  | cons control rest ih =>
    unfold collectPreimages at h
    simp only at h
    split at h
    next => cases h
    next afterJob hjob =>
      split at hjob
      next => cases hjob
      next reasons hcheck =>
        cases hjob
        split at h
        next => cases h
        next => exact absurd (ih h).1 (by simp)
        next => exact absurd (ih h).1 (by simp)
      next members reasons hcheck =>
        cases hjob
        have hjobVerified : JobVerified env manifest control claimedJob :=
          checkPreimage_verified hcheck
        split at h
        next => cases h
        next => exact absurd (ih h).1 (by simp)
        next rootMembers rootReasons hroot =>
          obtain ⟨hfound, hrest⟩ := ih h
          refine ⟨hfound, fun other hother => ?_⟩
          rcases List.mem_cons.mp hother with rfl | hother
          · exact ⟨hjobVerified, checkPreimage_verified hroot⟩
          · exact hrest other hother

/-- Continuity passes only when the digests of all three bodies are those of all preimages. -/
theorem continuity_verified
    (hpresent : ∀ control ∈ Control.c012, (bodyOf env manifest control).isSome = true)
    (h : (evaluateJobRootContinuity env manifest (bodiesOf env manifest)).1 = .pass)
    {control : Control} {body : Evidence} (hcontrol : control ∈ Control.c012)
    (hbody : bodyOf env manifest control = some body) :
    JobVerified env manifest control body.lifecycleBinding.jobIdentitySha256 ∧
      RootVerified env manifest control body.lifecycleBinding.rootProcessGenerationSha256 := by
  obtain ⟨c0, h0⟩ := Option.isSome_iff_exists.mp (hpresent .c0 (by simp [Control.c012]))
  obtain ⟨c1, h1⟩ := Option.isSome_iff_exists.mp (hpresent .c1 (by simp [Control.c012]))
  obtain ⟨c2, h2⟩ := Option.isSome_iff_exists.mp (hpresent .c2 (by simp [Control.c012]))
  unfold evaluateJobRootContinuity at h
  simp only [lookup_bodiesOf, Control.c012, List.filter_cons, List.filter_nil, h0, h1, h2,
    Option.isNone_some, Bool.false_eq_true, if_false, ne_eq, not_true_eq_false,
    List.filterMap_cons, List.filterMap_nil, Option.map_some] at h
  split at h
  next => cases h
  next hsame =>
    split at h
    next => cases h
    next found hcollect =>
      split at h
      next => cases h
      next hverified =>
        have hall := (collectPreimages_verified hcollect (by simpa using hverified)).2
        simp only [List.any_cons, List.any_nil, Bool.or_false, Bool.or_eq_true,
          decide_eq_true_eq, not_or, not_not] at hsame
        obtain ⟨⟨hjob1, hroot1⟩, hjob2, hroot2⟩ := hsame
        have hown := hall control hcontrol
        simp only [Control.c012, List.mem_cons, List.not_mem_nil, or_false] at hcontrol
        rcases hcontrol with rfl | rfl | rfl
        · rw [h0] at hbody
          cases hbody
          exact hown
        · rw [h1] at hbody
          cases hbody
          rw [hjob1, hroot1]
          exact hown
        · rw [h2] at hbody
          cases hbody
          rw [hjob2, hroot2]
          exact hown

end Preimages

section Binding

variable (env : LabEnv) (manifest : ArtifactManifest) (runId : String)

/-- The preimage names the session and the job of the body. -/
def NamesSession (payload : JsonValue) (binding : LifecycleBinding) : Prop :=
  ∃ members session, payload = .obj members ∧ binding.c012SessionId = some session ∧
    JsonValue.get members "c012_session_id" = .str session ∧
    JsonValue.get members "job_id" = .str binding.jobId

/-- Every job identity preimage that has the digest of its control's body names the session and
the job of every body of C0, C1 and C2. -/
def SessionNamed : Prop :=
  ∀ source ∈ Control.c012, ∀ origin, bodyOf env manifest source = some origin →
    ∀ payload, StructuredVerified env manifest (.jobIdentityPreimage source)
      (some origin.lifecycleBinding.jobIdentitySha256) "JOB_IDENTITY" payload →
    ∀ control ∈ Control.c012, ∀ body, bodyOf env manifest control = some body →
      NamesSession payload body.lifecycleBinding

/-- The evidence that is read is bound to its run and its artifacts; preimages exist for C0, C1
and C2 only. -/
structure RunBound : Prop where
  run_ids : ∀ control body, bodyOf env manifest control = some body →
    body.runId = runId ∧ body.proofBinding.runId = runId
  etw : ∀ control body, bodyOf env manifest control = some body →
    ∀ digest, body.proofBinding.etwEvidenceSha256 = some digest →
      RawVerified env manifest .etwEvidenceExport (some digest)
  wfp : ∀ control body, bodyOf env manifest control = some body →
    ∀ digest, body.proofBinding.wfpEvidenceSha256 = some digest →
      RawVerified env manifest .wfpEvidenceExport (some digest)
  summary : ∀ control body, bodyOf env manifest control = some body →
    ∀ digest, body.network.flowRecordSetSha256 = some digest →
      ∃ payload, StructuredVerified env manifest .networkSummary (some digest)
        "NETWORK_SUMMARY" payload
  jobs : ∀ control ∈ Control.c012, ∀ body, bodyOf env manifest control = some body →
    JobVerified env manifest control body.lifecycleBinding.jobIdentitySha256 ∧
      JobVerified env manifest control body.proofBinding.jobIdentitySha256
  roots : ∀ control ∈ Control.c012, ∀ body, bodyOf env manifest control = some body →
    RootVerified env manifest control body.lifecycleBinding.rootProcessGenerationSha256 ∧
      RootVerified env manifest control body.proofBinding.rootProcessGenerationSha256
  session : SessionNamed env manifest

/-- What the verifier never compares: the run ids, the digests of job and root in the proofs of
C0, C1 and C2, the preimages where one of the three is missing, and what the preimages name. -/
structure Uncompared : Prop where
  run_ids : ∀ control body, bodyOf env manifest control = some body →
    body.runId = runId ∧ body.proofBinding.runId = runId
  proofs : ∀ control ∈ Control.c012, ∀ body, bodyOf env manifest control = some body →
    body.proofBinding.jobIdentitySha256 = body.lifecycleBinding.jobIdentitySha256 ∧
      body.proofBinding.rootProcessGenerationSha256 =
        body.lifecycleBinding.rootProcessGenerationSha256
  partly : (∃ control ∈ Control.c012, bodyOf env manifest control = none) →
    ∀ control ∈ Control.c012, ∀ body, bodyOf env manifest control = some body →
      JobVerified env manifest control body.lifecycleBinding.jobIdentitySha256 ∧
        RootVerified env manifest control body.lifecycleBinding.rootProcessGenerationSha256
  session : SessionNamed env manifest

end Binding

section

variable {env : LabEnv} {runDir : RunDirectory} {runId : String} {allowSynthetic : Bool}
  {manifest : ArtifactManifest}

/-- A file has one recomputed digest. -/
theorem StructuredVerified.unique {role : ArtifactRole} {artifactType : String}
    {first second : String} {payload other : JsonValue}
    (h : StructuredVerified env manifest role (some first) artifactType payload)
    (hother : StructuredVerified env manifest role (some second) artifactType other) :
    first = second := by
  obtain ⟨bytes, hbytes, _, hloads, _, hdigest⟩ := h
  obtain ⟨otherBytes, hotherBytes, _, hotherLoads, _, hotherDigest⟩ := hother
  rw [hbytes] at hotherBytes
  cases hotherBytes
  rw [hloads] at hotherLoads
  cases hotherLoads
  exact (Option.some.inj hdigest).trans (Option.some.inj hotherDigest).symm

theorem wfp_none_of_early {control : Control} {body : Evidence} (hcontrol : control ∈ Control.c012)
    (hbody : bodyOf env manifest control = some body) :
    body.proofBinding.wfpEvidenceSha256 = none := by
  obtain ⟨payload, hvalid, hown⟩ := valid_of_body hbody
  apply wfp_of_early hvalid
  rw [hown]
  simp only [Control.c012, List.mem_cons, List.not_mem_nil, or_false] at hcontrol
  rcases hcontrol with rfl | rfl | rfl <;> rfl

theorem runBound_of_passing (hpass : PassingRun env manifest allowSynthetic)
    (h : Uncompared env manifest runId) : RunBound env manifest runId := by
  have hchecked : ∀ control body, bodyOf env manifest control = some body →
      BodyChecked env manifest allowSynthetic control body := by
    intro control body hbody
    exact bodyPasses_iff.mp (hpass.bodies control body hbody)
  have hlifecycle : ∀ control ∈ Control.c012, ∀ body,
      bodyOf env manifest control = some body →
      JobVerified env manifest control body.lifecycleBinding.jobIdentitySha256 ∧
        RootVerified env manifest control body.lifecycleBinding.rootProcessGenerationSha256 := by
    by_cases hall : ∀ control ∈ Control.c012, (bodyOf env manifest control).isSome = true
    · intro control hcontrol body hbody
      exact continuity_verified hall (hpass.continuity hall) hcontrol hbody
    · apply h.partly
      by_contra hnone
      apply hall
      intro control hcontrol
      rw [Option.isSome_iff_ne_none]
      exact fun hmissing => hnone ⟨control, hcontrol, hmissing⟩
  exact {
    run_ids := h.run_ids
    etw := fun control body hbody digest hdigest => hdigest ▸ (hchecked control body hbody).etw
    wfp := fun control body hbody digest hdigest => by
      by_cases hearly : control ∈ Control.c012
      · rw [wfp_none_of_early hearly hbody] at hdigest
        cases hdigest
      · have hdirect : control ∈ Control.direct := by
          cases control <;> simp [Control.c012, Control.direct] at hearly ⊢
        exact hdigest ▸ (hchecked control body hbody).wfp hdirect
    summary := fun control body hbody digest hdigest => by
      obtain ⟨payload, hverified, _⟩ := (hchecked control body hbody).summary
      exact ⟨payload, hdigest ▸ hverified⟩
    jobs := fun control hcontrol body hbody => by
      have hjob := (hlifecycle control hcontrol body hbody).1
      rw [(h.proofs control hcontrol body hbody).1]
      exact ⟨hjob, hjob⟩
    roots := fun control hcontrol body hbody => by
      have hroot := (hlifecycle control hcontrol body hbody).2
      rw [(h.proofs control hcontrol body hbody).2]
      exact ⟨hroot, hroot⟩
    session := h.session }

theorem uncompared_of_runBound (h : RunBound env manifest runId) :
    Uncompared env manifest runId := by
  exact {
    run_ids := h.run_ids
    proofs := fun control hcontrol body hbody => by
      obtain ⟨⟨_, hjob⟩, _, hproofJob⟩ := h.jobs control hcontrol body hbody
      obtain ⟨⟨_, hroot⟩, _, hproofRoot⟩ := h.roots control hcontrol body hbody
      exact ⟨hproofJob.unique hjob, hproofRoot.unique hroot⟩
    partly := fun _ control hcontrol body hbody =>
      ⟨(h.jobs control hcontrol body hbody).1, (h.roots control hcontrol body hbody).1⟩
    session := h.session }

end

/-- A run that passes is bound to its run id and artifacts exactly when what the verifier never
compares agrees. -/
theorem passing_run_bound_iff {env : LabEnv} {runDir : RunDirectory} {runId : String}
    {allowSynthetic : Bool} (h : Passes env runDir runId allowSynthetic) :
    RunBound env (buildRunArtifactManifest runDir runId) runId ↔
      Uncompared env (buildRunArtifactManifest runDir runId) runId := by
  constructor
  · intro hbound
    exact uncompared_of_runBound hbound
  · intro hagree
    exact runBound_of_passing (passes_iff.mp h).2 hagree

theorem baseline_bound_iff :
    Passes baselineEnv (directoryOf baselineFiles "00000000-0000-4000-8000-000000000001")
      "00000000-0000-4000-8000-000000000001" false ∧
    (RunBound baselineEnv (buildRunArtifactManifest
        (directoryOf baselineFiles "00000000-0000-4000-8000-000000000001")
        "00000000-0000-4000-8000-000000000001") "00000000-0000-4000-8000-000000000001" ↔
      Uncompared baselineEnv (buildRunArtifactManifest
        (directoryOf baselineFiles "00000000-0000-4000-8000-000000000001")
        "00000000-0000-4000-8000-000000000001") "00000000-0000-4000-8000-000000000001") :=
  ⟨baseline_passes (by decide +kernel), passing_run_bound_iff (baseline_passes (by decide +kernel))⟩

/-- The evidence of one run passes in the directory of another one. -/
theorem baseline_passes_unbound :
    ¬ (Passes baselineEnv (directoryOf baselineFiles "00000000-0000-4000-8000-000000000002")
        "00000000-0000-4000-8000-000000000002" false →
      RunBound baselineEnv (buildRunArtifactManifest
        (directoryOf baselineFiles "00000000-0000-4000-8000-000000000002")
        "00000000-0000-4000-8000-000000000002") "00000000-0000-4000-8000-000000000002") := by
  intro h
  have hbound := h (baseline_passes (by decide +kernel))
  rw [baseline_manifest] at hbound
  obtain ⟨body, hfacts, hbody⟩ := baseline_read
  have hrun := (hbound.run_ids .c0 body hbody).1
  simp only [baselineFacts, Bool.and_eq_true, decide_eq_true_eq] at hfacts
  rw [hfacts.1.1.1.1.1.1.1.1.1.1.2] at hrun
  revert hrun
  decide +kernel

end TradeJournalWorker.Lab
