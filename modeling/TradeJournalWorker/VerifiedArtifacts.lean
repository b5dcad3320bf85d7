import TradeJournalWorker.VerifierVerdicts

namespace TradeJournalWorker.Lab

section Verified

variable (env : LabEnv) (manifest : ArtifactManifest)

/-- The digest is the one recomputed from the bytes of the role's file. -/
def RawVerified (role : ArtifactRole) (claimed : Option String) : Prop :=
  ∃ bytes, manifest role = some bytes ∧ bytes ≠ [] ∧ isLowerSha256 (env.sha256 bytes) = true ∧
    claimed = some (env.sha256 bytes)

/-- The digest is the one recomputed from the payload of the role's file. -/
def StructuredVerified (role : ArtifactRole) (claimed : Option String) (artifactType : String)
    (payload : JsonValue) : Prop :=
  ∃ bytes, manifest role = some bytes ∧ bytes ≠ [] ∧ env.loads bytes = some payload ∧
    isLowerSha256 (contractDigest env artifactType 1 payload) = true ∧
    claimed = some (contractDigest env artifactType 1 payload)

/-- An export that is claimed is a file with something in it. -/
def ExportPresent (role : ArtifactRole) (claimed : Option String) : Prop :=
  claimed = none ∨ ∃ bytes, manifest role = some bytes ∧ bytes ≠ []

variable {env manifest} {role : ArtifactRole} {claimed : Option String} {artifactType : String}
  {payload : JsonValue}

theorem requireManifestFile_eq_some {bytes : Bytes} :
    (requireManifestFile manifest role).1 = some bytes ↔
      manifest role = some bytes ∧ bytes ≠ [] := by
  unfold requireManifestFile
  cases manifest role with
  | none => simp
  | some found =>
    by_cases hempty : found = []
    · subst hempty
      simp only [if_true, reduceCtorEq, Option.some.injEq, false_iff, not_and, not_not]
      intro h
      exact h.symm
    · simp only [hempty, if_false, Option.some.injEq, iff_self_and]
      intro h hnil
      exact hempty (h.trans hnil)

theorem verifyRawFileDigest_verified :
    (verifyRawFileDigest env manifest role claimed).1 = .verified ↔
      RawVerified env manifest role claimed := by
  unfold verifyRawFileDigest RawVerified
  cases claimed with
  | none => simp
  | some digest =>
    have hfile : ∀ bytes, (requireManifestFile manifest role).1 = some bytes ↔
        manifest role = some bytes ∧ bytes ≠ [] := fun bytes => requireManifestFile_eq_some
    simp only
    split
    next hmalformed =>
      simp only [reduceCtorEq, false_iff, not_exists, not_and]
      intro bytes _ _ hlower heq
      cases heq
      rw [hlower] at hmalformed
      cases hmalformed
    next hformed =>
      have hlower : isLowerSha256 digest = true := by simpa using hformed
      generalize requireManifestFile manifest role = file at hfile
      obtain ⟨found, reasons⟩ := file
      cases found with
      | none =>
        simp only [reduceCtorEq, false_iff, not_exists, not_and]
        intro bytes hbytes hne
        have := (hfile bytes).mpr ⟨hbytes, hne⟩
        cases this
      | some bytes =>
        obtain ⟨hbytes, hne⟩ := (hfile bytes).mp rfl
        simp only
        split
        next hdiffer =>
          simp only [reduceCtorEq, false_iff, not_exists, not_and]
          intro other hother _ _ heq
          rw [hbytes] at hother
          cases hother
          exact hdiffer (Option.some.inj heq).symm
        next hsame =>
          have hdigest : env.sha256 bytes = digest := by simpa using hsame
          simp only [true_iff]
          exact ⟨bytes, hbytes, hne, hdigest ▸ hlower, by rw [hdigest]⟩

theorem verifyStructuredDigest_verified {found : Option JsonValue} {reasons : List String} :
    verifyStructuredDigest env manifest role claimed artifactType 1 =
        (.verified, found, reasons) →
      ∃ payload, found = some payload ∧
        StructuredVerified env manifest role claimed artifactType payload := by
  unfold verifyStructuredDigest StructuredVerified
  intro h
  cases claimed with
  | none => cases h
  | some digest =>
    simp only at h
    split at h
    · cases h
    next hformed =>
      have hlower : isLowerSha256 digest = true := by simpa using hformed
      split at h
      · cases h
      next bytes _ hfile =>
        have hbytes : (requireManifestFile manifest role).1 = some bytes := by rw [hfile]
        obtain ⟨hbytes, hne⟩ := requireManifestFile_eq_some.mp hbytes
        split at h
        · cases h
        next payload hloads =>
          split at h
          · cases h
          next hsame =>
            have hdigest : contractDigest env artifactType 1 payload = digest := by
              simpa using hsame
            cases h
            exact ⟨payload, rfl, bytes, hbytes, hne, hloads, hdigest ▸ hlower, by rw [hdigest]⟩

theorem verifyStructuredDigest_of_verified
    (h : StructuredVerified env manifest role claimed artifactType payload) :
    ∃ reasons, verifyStructuredDigest env manifest role claimed artifactType 1 =
      (.verified, some payload, reasons) := by
  obtain ⟨bytes, hbytes, hne, hloads, hlower, rfl⟩ := h
  have hfile : (requireManifestFile manifest role).1 = some bytes :=
    requireManifestFile_eq_some.mpr ⟨hbytes, hne⟩
  unfold verifyStructuredDigest
  generalize requireManifestFile manifest role = file at hfile
  obtain ⟨found, reasons⟩ := file
  cases hfile
  refine ⟨reasons, ?_⟩
  simp [hlower, hloads]

theorem checkCapturedArtifact_present :
    (checkCapturedArtifact manifest claimed role).1 = true ↔ ExportPresent manifest role claimed := by
  unfold checkCapturedArtifact ExportPresent
  cases claimed with
  | none => simp
  | some digest =>
    have hfile : ∀ bytes, (requireManifestFile manifest role).1 = some bytes ↔
        manifest role = some bytes ∧ bytes ≠ [] := fun bytes => requireManifestFile_eq_some
    generalize requireManifestFile manifest role = file at hfile
    obtain ⟨found, reasons⟩ := file
    simp only [← hfile]
    cases found with
    | none => simp
    | some bytes => simp

theorem exportVerdict_pass {status : DigestStatus} :
    exportVerdict status claimed = .pass ↔ status = .verified := by
  cases status with
  | verified => simp [exportVerdict]
  | mismatch => simp [exportVerdict]
  | missing => cases claimed <;> simp [exportVerdict]

end Verified

section Bodies

variable (env : LabEnv) (manifest : ArtifactManifest)

/-- The summary's file has the digest of the body and, where it is a mapping, its counts. -/
def SummaryChecked (network : Network) : Prop :=
  ∃ payload, StructuredVerified env manifest .networkSummary network.flowRecordSetSha256
      "NETWORK_SUMMARY" payload ∧
    ∀ summary, payload = .obj summary →
      (crossCheckNetworkSummaryContent network summary).1 = .pass

/-- What a body must be like for its own checks to pass. -/
structure BodyChecked (allowSynthetic : Bool) (control : Control) (body : Evidence) : Prop where
  provenance : (checkProvenance body.proofBinding.provenance allowSynthetic).1 = .pass
  exports : body.proofBinding.provenance.origin = .capturedExport →
    ExportPresent manifest .etwEvidenceExport body.proofBinding.etwEvidenceSha256 ∧
    ExportPresent manifest .wfpEvidenceExport body.proofBinding.wfpEvidenceSha256 ∧
    ExportPresent manifest .networkSummary body.network.flowRecordSetSha256
  etw : RawVerified env manifest .etwEvidenceExport body.proofBinding.etwEvidenceSha256
  wfp : control ∈ Control.direct →
    RawVerified env manifest .wfpEvidenceExport body.proofBinding.wfpEvidenceSha256
  candidate : ¬ (0 < body.network.candidateTcpFlows ∧ body.runContext.candidateEndpoint = none)
  attribution : ¬ (0 < body.network.otherTcpFlows ∧ body.network.attributionUnambiguous = false)
  summary : SummaryChecked env manifest body.network
  clocks : clockCoherent body.timeline = true

variable {env manifest} {allowSynthetic : Bool} {control : Control} {body : Evidence}

theorem summaryVerdict_pass {network : Network} :
    (summaryVerdict network (verifyStructuredDigest env manifest .networkSummary
      network.flowRecordSetSha256 "NETWORK_SUMMARY" 1)).1 = .pass ↔
    SummaryChecked env manifest network := by
  constructor
  · intro h
    generalize hresult : verifyStructuredDigest env manifest .networkSummary
      network.flowRecordSetSha256 "NETWORK_SUMMARY" 1 = result at h
    obtain ⟨status, found, reasons⟩ := result
    cases status with
    | mismatch => cases h
    | missing => cases h
    | verified =>
      obtain ⟨payload, rfl, hverified⟩ := verifyStructuredDigest_verified hresult
      refine ⟨payload, hverified, ?_⟩
      intro summary hsummary
      subst hsummary
      exact h
  · intro h
    obtain ⟨payload, hverified, hchecked⟩ := h
    obtain ⟨reasons, hresult⟩ := verifyStructuredDigest_of_verified hverified
    rw [hresult]
    cases payload with
    | obj summary => exact hchecked summary rfl
    | null | bool | int | float | str | arr => rfl

theorem evaluateNetwork_pass : (evaluateNetwork env body manifest).1 = .pass ↔
    ¬ (0 < body.network.candidateTcpFlows ∧ body.runContext.candidateEndpoint = none) ∧
    ¬ (0 < body.network.otherTcpFlows ∧ body.network.attributionUnambiguous = false) ∧
    SummaryChecked env manifest body.network := by
  unfold evaluateNetwork
  simp only [worse_eq_pass, summaryVerdict_pass, ← and_assoc, ← not_or]
  apply and_congr_left'
  split
  next hbad => simp [hbad]
  next hgood => simp [hgood]

theorem evaluateProofBindingDigests_pass :
    (evaluateProofBindingDigests env manifest control body).1 = .pass ↔
      RawVerified env manifest .etwEvidenceExport body.proofBinding.etwEvidenceSha256 ∧
      (control ∈ Control.direct →
        RawVerified env manifest .wfpEvidenceExport body.proofBinding.wfpEvidenceSha256) := by
  unfold evaluateProofBindingDigests
  simp only
  split
  next hdirect =>
    simp [worse_eq_pass, exportVerdict_pass, verifyRawFileDigest_verified, hdirect]
  next hearly =>
    simp [exportVerdict_pass, verifyRawFileDigest_verified, hearly]

theorem checkCapturedArtifactsPresent_pass :
    (checkCapturedArtifactsPresent manifest body).1 = .pass ↔
      ExportPresent manifest .etwEvidenceExport body.proofBinding.etwEvidenceSha256 ∧
      ExportPresent manifest .wfpEvidenceExport body.proofBinding.wfpEvidenceSha256 ∧
      ExportPresent manifest .networkSummary body.network.flowRecordSetSha256 := by
  unfold checkCapturedArtifactsPresent
  simp only [← checkCapturedArtifact_present, ← Bool.and_eq_true, ← Bool.and_assoc]
  split
  next hall => simp [hall]
  next hsome => simp [hsome]

theorem bodyPasses_iff : BodyPasses env manifest allowSynthetic control body ↔
    BodyChecked env manifest allowSynthetic control body := by
  have hclock : (evaluateTimelineClockCoherence body.timeline).1 = .pass ↔
      clockCoherent body.timeline = true := by
    unfold evaluateTimelineClockCoherence
    split
    next h => simp [h]
    next h => simp [h]
  have hexports : (∀ verdict ∈ (if body.proofBinding.provenance.origin = .capturedExport then
      [checkCapturedArtifactsPresent manifest body] else []), verdict.1 = .pass) ↔
      (body.proofBinding.provenance.origin = .capturedExport →
        (checkCapturedArtifactsPresent manifest body).1 = .pass) := by
    split
    next h => simp [h]
    next h => simp [h]
  unfold BodyPasses bodyVerdicts
  simp only [List.forall_mem_append, List.forall_mem_cons, List.not_mem_nil, false_imp_iff,
    implies_true, and_true, hexports, hclock, evaluateNetwork_pass, evaluateProofBindingDigests_pass,
    checkCapturedArtifactsPresent_pass]
  constructor
  · intro h
    obtain ⟨⟨hprovenance, hpresent⟩, ⟨hetw, hwfp⟩, ⟨hcandidate, hforeign, hsummary⟩, hclocks⟩ := h
    exact ⟨hprovenance, hpresent, hetw, hwfp, hcandidate, hforeign, hsummary, hclocks⟩
  · intro h
    exact ⟨⟨h.provenance, h.exports⟩, ⟨h.etw, h.wfp⟩, ⟨h.candidate, h.attribution, h.summary⟩,
      h.clocks⟩

end Bodies

end TradeJournalWorker.Lab
