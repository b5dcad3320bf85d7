import TradeJournalWorker.VerifiedArtifacts

namespace TradeJournalWorker.Lab

section Manifests

variable {env : LabEnv} {smaller larger : ArtifactManifest} {allowSynthetic : Bool}
  {control : Control} {body : Evidence}

/-- The roles that the checks of one body read. -/
def exportRoles : List ArtifactRole := [.etwEvidenceExport, .wfpEvidenceExport, .networkSummary]

/-- What stands in the smaller manifest stands in the larger one. -/
def Keeps (smaller larger : ArtifactManifest) (role : ArtifactRole) : Prop :=
  ∀ bytes, smaller role = some bytes → larger role = some bytes

theorem RawVerified.keep {role : ArtifactRole} {claimed : Option String}
    (hkeep : Keeps smaller larger role) (h : RawVerified env smaller role claimed) :
    RawVerified env larger role claimed := by
  obtain ⟨bytes, hbytes, hrest⟩ := h
  exact ⟨bytes, hkeep bytes hbytes, hrest⟩

theorem StructuredVerified.keep {role : ArtifactRole} {claimed : Option String}
    {artifactType : String} {payload : JsonValue} (hkeep : Keeps smaller larger role)
    (h : StructuredVerified env smaller role claimed artifactType payload) :
    StructuredVerified env larger role claimed artifactType payload := by
  obtain ⟨bytes, hbytes, hrest⟩ := h
  exact ⟨bytes, hkeep bytes hbytes, hrest⟩

theorem ExportPresent.keep {role : ArtifactRole} {claimed : Option String}
    (hkeep : Keeps smaller larger role) (h : ExportPresent smaller role claimed) :
    ExportPresent larger role claimed := by
  rcases h with hnone | ⟨bytes, hbytes, hne⟩
  · exact Or.inl hnone
  · exact Or.inr ⟨bytes, hkeep bytes hbytes, hne⟩

/-- The checks of a body only gain from more exports. -/
theorem BodyChecked.keep (hkeep : ∀ role ∈ exportRoles, Keeps smaller larger role)
    (h : BodyChecked env smaller allowSynthetic control body) :
    BodyChecked env larger allowSynthetic control body := by
  have hetw : Keeps smaller larger .etwEvidenceExport := hkeep _ (by simp [exportRoles])
  have hwfp : Keeps smaller larger .wfpEvidenceExport := hkeep _ (by simp [exportRoles])
  have hsummary : Keeps smaller larger .networkSummary := hkeep _ (by simp [exportRoles])
  obtain ⟨payload, hverified, hchecked⟩ := h.summary
  exact {
    provenance := h.provenance
    exports := fun horigin =>
      have hpresent := h.exports horigin
      ⟨hpresent.1.keep hetw, hpresent.2.1.keep hwfp, hpresent.2.2.keep hsummary⟩
    etw := h.etw.keep hetw
    wfp := fun hdirect => (h.wfp hdirect).keep hwfp
    candidate := h.candidate
    attribution := h.attribution
    summary := ⟨payload, hverified.keep hsummary, hchecked⟩
    clocks := h.clocks }

theorem readEvidenceFile_congr (h : smaller (.evidence control) = larger (.evidence control)) :
    readEvidenceFile env smaller control = readEvidenceFile env larger control := by
  unfold readEvidenceFile
  rw [h]

theorem bodyOf_congr (h : smaller (.evidence control) = larger (.evidence control)) :
    bodyOf env smaller control = bodyOf env larger control := by
  unfold bodyOf
  rw [readEvidenceFile_congr h]

theorem readEvidenceFile_absent (h : larger (.evidence control) = none) :
    readEvidenceFile env larger control = .absent := by
  unfold readEvidenceFile
  rw [h]

theorem file_of_body (h : bodyOf env larger control = some body) :
    larger (.evidence control) ≠ none := by
  intro hnone
  have hbody := bodyOf_eq_some.mp h
  rw [readEvidenceFile_absent hnone] at hbody
  cases hbody

/-- The manifest with the evidence files of some controls only. -/
def keepControls (keep : Control → Bool) (manifest : ArtifactManifest) : ArtifactManifest
  | .evidence control => if keep control then manifest (.evidence control) else none
  | role => manifest role

variable {keep : Control → Bool} {manifest : ArtifactManifest}

theorem readEvidenceFile_kept (h : keep control = true) :
    readEvidenceFile env (keepControls keep manifest) control =
      readEvidenceFile env manifest control := by
  apply readEvidenceFile_congr
  simp [keepControls, h]

theorem bodyOf_kept (h : keep control = true) :
    bodyOf env (keepControls keep manifest) control = bodyOf env manifest control := by
  unfold bodyOf
  rw [readEvidenceFile_kept h]

theorem readEvidenceFile_dropped (h : keep control = false) :
    readEvidenceFile env (keepControls keep manifest) control = .absent := by
  apply readEvidenceFile_absent
  simp [keepControls, h]

theorem bodyOf_dropped (h : keep control = false) :
    bodyOf env (keepControls keep manifest) control = none := by
  unfold bodyOf
  rw [readEvidenceFile_dropped h]

theorem checked_keepControls (h : BodyChecked env manifest allowSynthetic control body) :
    BodyChecked env (keepControls keep manifest) allowSynthetic control body := by
  apply h.keep
  intro role hrole bytes hbytes
  simp only [exportRoles, List.mem_cons, List.not_mem_nil, or_false] at hrole
  rcases hrole with rfl | rfl | rfl
  · exact hbytes
  · exact hbytes
  · exact hbytes

end Manifests

section Parts

variable (env : LabEnv) (manifest : ArtifactManifest) (allowSynthetic : Bool)

/-- The body of a control is read and its own checks pass. -/
def ControlChecked (control : Control) : Prop :=
  ∃ body, bodyOf env manifest control = some body ∧
    BodyChecked env manifest allowSynthetic control body

/-- C3, C4 and C5 are read, pass their own checks and follow one another. -/
def CampaignChecked : Prop :=
  (∀ control ∈ Control.direct, ControlChecked env manifest allowSynthetic control) ∧
    (evaluateDirectCampaignSequence (bodiesOf env manifest)).1 = .pass

/-- A part of the run is enough for a pass: one of C0, C1, C2, or the direct campaign. -/
def PartPasses : Prop :=
  (∃ control ∈ Control.c012, ControlChecked env manifest allowSynthetic control) ∨
    CampaignChecked env manifest allowSynthetic

/-- The run is complete: every evidence file there is passes its own checks, C0, C1 and C2 are
all there with one job and root or all missing, and C3, C4 and C5 are all there in order or all
missing. -/
structure WholeRun : Prop where
  some_file : ∃ control, manifest (.evidence control) ≠ none
  checked : ∀ control, manifest (.evidence control) ≠ none →
    ControlChecked env manifest allowSynthetic control
  session : (∃ control ∈ Control.c012, manifest (.evidence control) ≠ none) →
    (∀ control ∈ Control.c012, manifest (.evidence control) ≠ none) ∧
    (evaluateJobRootContinuity env manifest (bodiesOf env manifest)).1 = .pass
  campaign : (∃ control ∈ Control.direct, manifest (.evidence control) ≠ none) →
    (∀ control ∈ Control.direct, manifest (.evidence control) ≠ none) ∧
    (evaluateDirectCampaignSequence (bodiesOf env manifest)).1 = .pass

variable {env manifest allowSynthetic} {smaller larger : ArtifactManifest}

theorem PassingRun.controlChecked (h : PassingRun env manifest allowSynthetic) {control : Control}
    {body : Evidence} (hbody : bodyOf env manifest control = some body) :
    ControlChecked env manifest allowSynthetic control :=
  ⟨body, hbody, bodyPasses_iff.mp (h.bodies control body hbody)⟩

/-- In a run that passes every evidence file has been read. -/
theorem PassingRun.read (h : PassingRun env manifest allowSynthetic) {control : Control} :
    manifest (.evidence control) ≠ none ↔ (bodyOf env manifest control).isSome = true := by
  constructor
  · intro hfile
    obtain ⟨bytes, hbytes⟩ := Option.ne_none_iff_exists'.mp hfile
    cases hread : readEvidenceFile env manifest control with
    | body body => simp [bodyOf, hread]
    | refused reason => exact absurd hread (h.none_refused control reason)
    | absent =>
      unfold readEvidenceFile at hread
      rw [hbytes] at hread
      simp only at hread
      repeat' split at hread
      all_goals cases hread
  · intro hsome
    obtain ⟨body, hbody⟩ := Option.isSome_iff_exists.mp hsome
    exact file_of_body hbody

theorem sequence_pass_iff : (evaluateDirectCampaignSequence (bodiesOf env manifest)).1 = .pass ↔
    ∃ c3 c4 c5, bodyOf env manifest .c3 = some c3 ∧ bodyOf env manifest .c4 = some c4 ∧
      bodyOf env manifest .c5 = some c5 ∧
      c3.runContext.completedAtUnix ≤ c4.runContext.startedAtUnix ∧
      c4.runContext.completedAtUnix ≤ c5.runContext.startedAtUnix := by
  unfold evaluateDirectCampaignSequence
  simp only [lookup_bodiesOf]
  cases bodyOf env manifest .c3 with
  | none => simp
  | some c3 =>
    cases bodyOf env manifest .c4 with
    | none => simp
    | some c4 =>
      cases bodyOf env manifest .c5 with
      | none => simp
      | some c5 =>
        simp only [Option.some.injEq, exists_and_left, exists_eq_left']
        split
        next hoverlap =>
          simp only [reduceCtorEq, false_iff, not_and]
          omega
        next hfirst =>
          split
          next hoverlap =>
            simp only [reduceCtorEq, false_iff, not_and]
            omega
          next hsecond =>
            simp only [true_iff]
            omega

/-- A run that passes has a part that is enough. -/
theorem PassingRun.partPasses (h : PassingRun env manifest allowSynthetic) :
    PartPasses env manifest allowSynthetic := by
  obtain ⟨control, body, hbody⟩ := h.some_body
  have hread : (bodyOf env manifest control).isSome = true := by simp [hbody]
  by_cases hearly : control ∈ Control.c012
  · exact Or.inl ⟨control, hearly, h.controlChecked hbody⟩
  · have hdirect : control ∈ Control.direct := by
      cases control <;> simp [Control.c012, Control.direct] at hearly ⊢
    have hsequence := h.sequence ⟨control, hdirect, hread⟩
    obtain ⟨c3, c4, c5, h3, h4, h5, _⟩ := sequence_pass_iff.mp hsequence
    refine Or.inr ⟨fun other hother => ?_, hsequence⟩
    simp only [Control.direct, List.mem_cons, List.not_mem_nil, or_false] at hother
    rcases hother with rfl | rfl | rfl
    · exact h.controlChecked h3
    · exact h.controlChecked h4
    · exact h.controlChecked h5

theorem sequence_congr (h : ∀ control ∈ Control.direct,
      bodyOf env smaller control = bodyOf env larger control) :
    evaluateDirectCampaignSequence (bodiesOf env smaller) =
      evaluateDirectCampaignSequence (bodiesOf env larger) := by
  have hlookup : ∀ control ∈ Control.direct, (bodiesOf env smaller).lookup control =
      (bodiesOf env larger).lookup control := by
    intro control hcontrol
    rw [lookup_bodiesOf, lookup_bodiesOf]
    exact h control hcontrol
  have h3 := hlookup .c3 (by simp [Control.direct])
  have h4 := hlookup .c4 (by simp [Control.direct])
  have h5 := hlookup .c5 (by simp [Control.direct])
  unfold evaluateDirectCampaignSequence
  have hmissing : (Control.direct.filter fun control =>
      ((bodiesOf env smaller).lookup control).isNone) =
      Control.direct.filter fun control => ((bodiesOf env larger).lookup control).isNone := by
    apply List.filter_congr
    intro control hcontrol
    rw [hlookup control hcontrol]
  rw [h3, h4, h5, hmissing]

/-- A part of the larger run that passes stood in the smaller one already. -/
theorem PartPasses.keep (hkeep : ∀ role, Keeps smaller larger role)
    (h : PartPasses env smaller allowSynthetic) : PartPasses env larger allowSynthetic := by
  have hbody : ∀ control body, bodyOf env smaller control = some body →
      bodyOf env larger control = some body := by
    intro control body hbody
    obtain ⟨bytes, hbytes⟩ := Option.ne_none_iff_exists'.mp (file_of_body hbody)
    rw [← bodyOf_congr (hbytes.trans (hkeep _ bytes hbytes).symm)]
    exact hbody
  have hchecked : ∀ control, ControlChecked env smaller allowSynthetic control →
      ControlChecked env larger allowSynthetic control := by
    intro control hcontrol
    obtain ⟨body, hread, hown⟩ := hcontrol
    exact ⟨body, hbody control body hread, hown.keep fun role _ => hkeep role⟩
  rcases h with ⟨control, hcontrol, hown⟩ | ⟨hall, hsequence⟩
  · exact Or.inl ⟨control, hcontrol, hchecked control hown⟩
  · refine Or.inr ⟨fun control hcontrol => hchecked control (hall control hcontrol), ?_⟩
    obtain ⟨c3, c4, c5, h3, h4, h5, horder⟩ := sequence_pass_iff.mp hsequence
    exact sequence_pass_iff.mpr ⟨c3, c4, c5, hbody _ _ h3, hbody _ _ h4, hbody _ _ h5, horder⟩

/-- The part that is enough passes when the evidence files of the other controls are gone. -/
theorem PartPasses.exists_keep (h : PartPasses env manifest allowSynthetic) :
    ∃ keep : Control → Bool, PassingRun env (keepControls keep manifest) allowSynthetic := by
  rcases h with ⟨control, hearly, body, hbody, hown⟩ | ⟨hall, hsequence⟩
  · refine ⟨fun other => other = control, ?_⟩
    have honly : ∀ other, (bodyOf env (keepControls (fun other => other = control) manifest)
        other).isSome = true → other = control := by
      intro other hsome
      by_contra hne
      rw [bodyOf_dropped (by simpa using hne)] at hsome
      cases hsome
    exact {
      some_body := ⟨control, body, by rw [bodyOf_kept (by simp)]; exact hbody⟩
      none_refused := fun other reason hrefused => by
        by_cases hsame : other = control
        · subst hsame
          rw [readEvidenceFile_kept (by simp),
            bodyOf_eq_some.mp hbody] at hrefused
          cases hrefused
        · rw [readEvidenceFile_dropped (by simpa using hsame)] at hrefused
          cases hrefused
      bodies := fun other found hfound => by
        have hsame := honly other (by simp [hfound])
        subst hsame
        rw [bodyOf_kept (by simp), hbody] at hfound
        cases hfound
        exact bodyPasses_iff.mpr (checked_keepControls hown)
      continuity := fun hpresent => by
        have h0 := honly .c0 (hpresent .c0 (by simp [Control.c012]))
        have h1 := honly .c1 (hpresent .c1 (by simp [Control.c012]))
        cases h0.trans h1.symm
      sequence := fun hpresent => by
        obtain ⟨other, hdirect, hsome⟩ := hpresent
        have hsame := honly other hsome
        subst hsame
        cases other <;> simp [Control.c012, Control.direct] at hearly hdirect }
  · refine ⟨fun other => other ∈ Control.direct, ?_⟩
    have honly : ∀ other, (bodyOf env (keepControls (fun other => other ∈ Control.direct) manifest)
        other).isSome = true → other ∈ Control.direct := by
      intro other hsome
      by_contra hne
      rw [bodyOf_dropped (by simpa using hne)] at hsome
      cases hsome
    have hcongr : ∀ control ∈ Control.direct,
        bodyOf env (keepControls (fun other => other ∈ Control.direct) manifest) control =
          bodyOf env manifest control := by
      intro control hcontrol
      exact bodyOf_kept (by simpa using hcontrol)
    obtain ⟨c3body, h3, _⟩ := hall .c3 (by simp [Control.direct])
    exact {
      some_body := ⟨.c3, c3body, by rw [hcongr .c3 (by simp [Control.direct])]; exact h3⟩
      none_refused := fun other reason hrefused => by
        by_cases hdirect : other ∈ Control.direct
        · obtain ⟨body, hbody, _⟩ := hall other hdirect
          rw [readEvidenceFile_kept (by simpa using hdirect),
            bodyOf_eq_some.mp hbody] at hrefused
          cases hrefused
        · rw [readEvidenceFile_dropped (by simpa using hdirect)] at hrefused
          cases hrefused
      bodies := fun other found hfound => by
        have hdirect := honly other (by simp [hfound])
        obtain ⟨body, hbody, hown⟩ := hall other hdirect
        rw [hcongr other hdirect, hbody] at hfound
        cases hfound
        exact bodyPasses_iff.mpr (checked_keepControls hown)
      continuity := fun hpresent => by
        have h0 := honly .c0 (hpresent .c0 (by simp [Control.c012]))
        simp [Control.direct] at h0
      sequence := fun _ => by
        rw [sequence_congr hcongr]
        exact hsequence }

/-- Among the runs that pass the whole ones are those where no control of a group is missing. -/
theorem wholeRun_iff : WholeRun env manifest allowSynthetic ↔
    PassingRun env manifest allowSynthetic ∧
      ∀ group ∈ [Control.c012, Control.direct],
        (∃ control ∈ group, manifest (.evidence control) ≠ none) →
          ∀ control ∈ group, manifest (.evidence control) ≠ none := by
  constructor
  · intro h
    have hread : ∀ control, (bodyOf env manifest control).isSome = true →
        manifest (.evidence control) ≠ none := by
      intro control hsome
      obtain ⟨body, hbody⟩ := Option.isSome_iff_exists.mp hsome
      exact file_of_body hbody
    refine ⟨?_, ?_⟩
    · exact {
        some_body := by
          obtain ⟨control, hfile⟩ := h.some_file
          obtain ⟨body, hbody, _⟩ := h.checked control hfile
          exact ⟨control, body, hbody⟩
        none_refused := fun control reason hrefused => by
          by_cases hfile : manifest (.evidence control) = none
          · rw [readEvidenceFile_absent hfile] at hrefused
            cases hrefused
          · obtain ⟨body, hbody, _⟩ := h.checked control hfile
            rw [bodyOf_eq_some.mp hbody] at hrefused
            cases hrefused
        bodies := fun control found hfound => by
          obtain ⟨body, hbody, hown⟩ := h.checked control (file_of_body hfound)
          rw [hbody] at hfound
          cases hfound
          exact bodyPasses_iff.mpr hown
        continuity := fun hpresent =>
          (h.session ⟨.c0, by simp [Control.c012],
            hread .c0 (hpresent .c0 (by simp [Control.c012]))⟩).2
        sequence := fun hpresent => by
          obtain ⟨control, hdirect, hsome⟩ := hpresent
          exact (h.campaign ⟨control, hdirect, hread control hsome⟩).2 }
    · intro group hgroup
      simp only [List.mem_cons, List.not_mem_nil, or_false] at hgroup
      rcases hgroup with rfl | rfl
      · exact fun hsome => (h.session hsome).1
      · exact fun hsome => (h.campaign hsome).1
  · intro h
    obtain ⟨hpass, htogether⟩ := h
    exact {
      some_file := by
        obtain ⟨control, body, hbody⟩ := hpass.some_body
        exact ⟨control, file_of_body hbody⟩
      checked := fun control hfile => by
        obtain ⟨body, hbody⟩ := Option.isSome_iff_exists.mp (hpass.read.mp hfile)
        exact hpass.controlChecked hbody
      session := fun hsome => by
        have hall := htogether _ (by simp) hsome
        exact ⟨hall, hpass.continuity fun control hcontrol => hpass.read.mp (hall control hcontrol)⟩
      campaign := fun hsome => by
        have hall := htogether _ (by simp) hsome
        obtain ⟨control, hdirect, hfile⟩ := hsome
        exact ⟨hall, hpass.sequence ⟨control, hdirect, hpass.read.mp hfile⟩⟩ }

end Parts

end TradeJournalWorker.Lab
