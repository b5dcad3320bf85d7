import TradeJournalWorker.EvidenceVerifier

namespace TradeJournalWorker.Lab

theorem worse_eq_pass {a b : Outcome} : a.worse b = .pass ↔ a = .pass ∧ b = .pass := by
  cases a <;> cases b <;> decide

/-- The fold passes when it starts from a pass and meets nothing else. -/
theorem foldl_worse {verdicts : List (Outcome × List String)} {start : Outcome} :
    verdicts.foldl (fun overall verdict => overall.worse verdict.1) start = .pass ↔
      start = .pass ∧ ∀ verdict ∈ verdicts, verdict.1 = .pass := by
  induction verdicts generalizing start with
  | nil => simp
  | cons verdict rest ih =>
    rw [List.foldl_cons, ih, worse_eq_pass]
    simp only [List.mem_cons, forall_eq_or_imp]
    exact and_assoc

section Reading

variable {env : LabEnv} {manifest : ArtifactManifest} {allowSynthetic : Bool} {control : Control}
  {body : Evidence} {controls : List Control}

theorem mem_controls (control : Control) : control ∈ Control.all := by
  cases control <;> decide

/-- The body that is read of a control, if any. -/
def bodyOf (env : LabEnv) (manifest : ArtifactManifest) (control : Control) : Option Evidence :=
  match readEvidenceFile env manifest control with
  | .body evidence => some evidence
  | _ => none

def bodiesOf (env : LabEnv) (manifest : ArtifactManifest) : EvidenceBodies :=
  (readEvidenceFiles env manifest Control.all).1

theorem bodyOf_eq_some : bodyOf env manifest control = some body ↔
    readEvidenceFile env manifest control = .body body := by
  unfold bodyOf
  cases readEvidenceFile env manifest control with
  | absent => simp
  | refused reason => simp
  | body evidence => simp

theorem bodyOf_of_valid {bytes : Bytes} {payload : JsonValue}
    (hbytes : manifest (.evidence control) = some bytes) (hloads : env.loads bytes = some payload)
    (hvalid : validateEvidence env payload = .ok body) (hcontrol : body.control = control) :
    bodyOf env manifest control = some body := by
  rw [bodyOf_eq_some]
  unfold readEvidenceFile
  rw [hbytes]
  simp only [hloads, hvalid, hcontrol, ne_eq, not_true_eq_false, if_false]

/-- A body that is read has been accepted, and is of its control. -/
theorem valid_of_body (h : bodyOf env manifest control = some body) :
    ∃ payload, validateEvidence env payload = .ok body ∧ body.control = control := by
  rw [bodyOf_eq_some] at h
  unfold readEvidenceFile at h
  split at h
  next => cases h
  next =>
    split at h
    next => cases h
    next payload _ =>
      split at h
      next => cases h
      next evidence hvalid =>
        split at h
        next => cases h
        next hcontrol =>
          cases h
          exact ⟨payload, hvalid, by simpa using hcontrol⟩

theorem mem_readEvidenceFiles : (control, body) ∈ (readEvidenceFiles env manifest controls).1 ↔
    control ∈ controls ∧ bodyOf env manifest control = some body := by
  induction controls with
  | nil => simp [readEvidenceFiles]
  | cons head rest ih =>
    unfold readEvidenceFiles
    cases hread : readEvidenceFile env manifest head with
    | absent =>
      simp only [ih, List.mem_cons]
      constructor
      · intro h
        exact ⟨Or.inr h.1, h.2⟩
      · intro h
        refine ⟨h.1.resolve_left fun heq => ?_, h.2⟩
        rw [heq, bodyOf_eq_some, hread] at h
        cases h.2
    | refused reason =>
      simp only [ih, List.mem_cons]
      constructor
      · intro h
        exact ⟨Or.inr h.1, h.2⟩
      · intro h
        refine ⟨h.1.resolve_left fun heq => ?_, h.2⟩
        rw [heq, bodyOf_eq_some, hread] at h
        cases h.2
    | body evidence =>
      simp only [List.mem_cons, Prod.mk.injEq, ih]
      constructor
      · intro h
        rcases h with ⟨rfl, rfl⟩ | h
        · exact ⟨Or.inl rfl, bodyOf_eq_some.mpr hread⟩
        · exact ⟨Or.inr h.1, h.2⟩
      · intro h
        rcases h.1 with rfl | hrest
        · left
          have hbody := bodyOf_eq_some.mp h.2
          rw [hread] at hbody
          cases hbody
          exact ⟨rfl, rfl⟩
        · exact Or.inr ⟨hrest, h.2⟩

theorem lookup_readEvidenceFiles (hmem : control ∈ controls) :
    (readEvidenceFiles env manifest controls).1.lookup control = bodyOf env manifest control := by
  induction controls with
  | nil => exact absurd hmem List.not_mem_nil
  | cons head rest ih =>
    unfold readEvidenceFiles
    by_cases hhead : control = head
    · subst hhead
      cases hread : readEvidenceFile env manifest control with
      | body evidence =>
        have hbody : bodyOf env manifest control = some evidence := bodyOf_eq_some.mpr hread
        simp [hbody]
      | absent =>
        have hbody : bodyOf env manifest control = none := by simp [bodyOf, hread]
        rw [hbody]
        by_cases hrest : control ∈ rest
        · exact (ih hrest).trans hbody
        · exact List.lookup_eq_none_iff.mpr fun entry hentry => by
            have hfound := (mem_readEvidenceFiles.mp hentry).1
            have hne : control ≠ entry.1 := fun heq => hrest (heq ▸ hfound)
            simpa using hne
      | refused reason =>
        have hbody : bodyOf env manifest control = none := by simp [bodyOf, hread]
        rw [hbody]
        by_cases hrest : control ∈ rest
        · exact (ih hrest).trans hbody
        · exact List.lookup_eq_none_iff.mpr fun entry hentry => by
            have hfound := (mem_readEvidenceFiles.mp hentry).1
            have hne : control ≠ entry.1 := fun heq => hrest (heq ▸ hfound)
            simpa using hne
    · have hrest : control ∈ rest := (List.mem_cons.mp hmem).resolve_left hhead
      have hbeq : (control == head) = false := by simpa using hhead
      cases readEvidenceFile env manifest head with
      | body evidence => simp only [List.lookup_cons, hbeq, ih hrest]
      | absent => exact ih hrest
      | refused reason => exact ih hrest

theorem lookup_bodiesOf (env : LabEnv) (manifest : ArtifactManifest) (control : Control) :
    (bodiesOf env manifest).lookup control = bodyOf env manifest control :=
  lookup_readEvidenceFiles (mem_controls control)

/-- No evidence file of the controls is refused. -/
theorem refused_nil_iff : (readEvidenceFiles env manifest controls).2 = [] ↔
    ∀ control ∈ controls, ∀ reason, readEvidenceFile env manifest control ≠ .refused reason := by
  induction controls with
  | nil => simp [readEvidenceFiles]
  | cons head rest ih =>
    unfold readEvidenceFiles
    cases hread : readEvidenceFile env manifest head with
    | absent => simp [ih, hread]
    | refused reason => simp [hread]
    | body evidence => simp [ih, hread]

/-- All checks of the body itself pass. -/
def BodyPasses (env : LabEnv) (manifest : ArtifactManifest) (allowSynthetic : Bool)
    (control : Control) (body : Evidence) : Prop :=
  ∀ verdict ∈ bodyVerdicts env manifest allowSynthetic control body, verdict.1 = .pass

/-- What a run must be like for the verifier to pass it. -/
structure PassingRun (env : LabEnv) (manifest : ArtifactManifest) (allowSynthetic : Bool) :
    Prop where
  some_body : ∃ control body, bodyOf env manifest control = some body
  none_refused : ∀ control reason, readEvidenceFile env manifest control ≠ .refused reason
  bodies : ∀ control body, bodyOf env manifest control = some body →
    BodyPasses env manifest allowSynthetic control body
  continuity : (∀ control ∈ Control.c012, (bodyOf env manifest control).isSome = true) →
    (evaluateJobRootContinuity env manifest (bodiesOf env manifest)).1 = .pass
  sequence : (∃ control ∈ Control.direct, (bodyOf env manifest control).isSome = true) →
    (evaluateDirectCampaignSequence (bodiesOf env manifest)).1 = .pass

theorem all_c012_iff : (Control.c012.all fun control =>
      ((bodiesOf env manifest).lookup control).isSome) = true ↔
    ∀ control ∈ Control.c012, (bodyOf env manifest control).isSome = true := by
  simp only [List.all_eq_true, lookup_bodiesOf]

theorem any_direct_iff : (Control.direct.any fun control =>
      ((bodiesOf env manifest).lookup control).isSome) = true ↔
    ∃ control ∈ Control.direct, (bodyOf env manifest control).isSome = true := by
  simp only [List.any_eq_true, lookup_bodiesOf]

theorem runVerdicts_pass (env : LabEnv) (manifest : ArtifactManifest) (allowSynthetic : Bool) :
    (∀ verdict ∈ runVerdicts env manifest allowSynthetic (bodiesOf env manifest),
      verdict.1 = .pass) ↔
    (∀ control body, bodyOf env manifest control = some body →
      BodyPasses env manifest allowSynthetic control body) ∧
    ((∀ control ∈ Control.c012, (bodyOf env manifest control).isSome = true) →
      (evaluateJobRootContinuity env manifest (bodiesOf env manifest)).1 = .pass) ∧
    ((∃ control ∈ Control.direct, (bodyOf env manifest control).isSome = true) →
      (evaluateDirectCampaignSequence (bodiesOf env manifest)).1 = .pass) := by
  have hbodies : (∀ verdict ∈ (bodiesOf env manifest).flatMap fun entry =>
      (bodyVerdicts env manifest allowSynthetic entry.1 entry.2).map (withControl entry.1),
      verdict.1 = .pass) ↔ ∀ control body, bodyOf env manifest control = some body →
        BodyPasses env manifest allowSynthetic control body := by
    constructor
    · intro h control body hbody verdict hverdict
      have hentry := mem_readEvidenceFiles.mpr ⟨mem_controls control, hbody⟩
      have hmap : withControl control verdict ∈
          (bodyVerdicts env manifest allowSynthetic control body).map (withControl control) :=
        List.mem_map.mpr ⟨verdict, hverdict, rfl⟩
      exact h (withControl control verdict) (List.mem_flatMap.mpr ⟨_, hentry, hmap⟩)
    · intro h verdict hverdict
      obtain ⟨entry, hentry, hmap⟩ := List.mem_flatMap.mp hverdict
      obtain ⟨own, hown, rfl⟩ := List.mem_map.mp hmap
      exact h entry.1 entry.2 (mem_readEvidenceFiles.mp hentry).2 own hown
  unfold runVerdicts
  simp only [List.mem_append, or_imp, forall_and]
  rw [hbodies, and_assoc]
  apply and_congr Iff.rfl
  apply and_congr
  · rw [← all_c012_iff]
    split
    next hall => simp [hall]
    next hall => simp [hall]
  · rw [← any_direct_iff]
    split
    next hany => simp [hany]
    next hany => simp [hany]

/-- The verifier passes exactly the passing runs. -/
theorem verifyManifest_pass_iff :
    (verifyManifest env manifest allowSynthetic).outcome = .pass ↔
      PassingRun env manifest allowSynthetic := by
  have hsome : bodiesOf env manifest ≠ [] ↔
      ∃ control body, bodyOf env manifest control = some body := by
    constructor
    · intro h
      obtain ⟨entry, hentry⟩ := List.exists_mem_of_ne_nil _ h
      exact ⟨entry.1, entry.2, (mem_readEvidenceFiles.mp hentry).2⟩
    · intro h
      obtain ⟨control, body, hbody⟩ := h
      exact List.ne_nil_of_mem (mem_readEvidenceFiles.mpr ⟨mem_controls control, hbody⟩)
  have hrefused : (readEvidenceFiles env manifest Control.all).2 = [] ↔
      ∀ control reason, readEvidenceFile env manifest control ≠ .refused reason := by
    rw [refused_nil_iff]
    constructor
    · intro h control
      exact h control (mem_controls control)
    · intro h control _
      exact h control
  unfold verifyManifest
  simp only
  split
  next hnil =>
    refine iff_of_false (by simp) fun h => ?_
    exact hsome.mpr h.some_body hnil
  next hne =>
    simp only [foldl_worse]
    have hstart : (if (readEvidenceFiles env manifest Control.all).2 = [] then Outcome.pass
        else .fail) = .pass ↔ (readEvidenceFiles env manifest Control.all).2 = [] := by
      split
      next hempty => simp [hempty]
      next hfull => simp [hfull]
    rw [hstart, hrefused]
    have hverdicts := runVerdicts_pass env manifest allowSynthetic
    unfold bodiesOf at hverdicts hsome
    rw [hverdicts]
    constructor
    · intro h
      exact ⟨hsome.mp hne, h.1, h.2.1, h.2.2.1, h.2.2.2⟩
    · intro h
      exact ⟨h.none_refused, h.bodies, h.continuity, h.sequence⟩

end Reading

end TradeJournalWorker.Lab
