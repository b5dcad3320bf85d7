import TradeJournalWorker.VerdictPhases

namespace TradeJournalWorker.Lab

open StagedChecks

def IsFail (verdict : Evaluation) : Prop := verdict.outcome = .fail

/-- The verdict is neither of the two passes. -/
def IsOpen (verdict : Evaluation) : Prop :=
  verdict.outcome ≠ .pass ∧ verdict.outcome ≠ .syntheticPass

theorem contradicted_isFail (reason : String) : IsFail (contradicted reason) := rfl

theorem unproven_isOpen (reason : String) : IsOpen (unproven reason) := by
  simp [IsOpen, unproven]

theorem IsFail.isOpen {verdict : Evaluation} (h : IsFail verdict) : IsOpen verdict := by
  unfold IsFail at h
  simp [IsOpen, h]

section Stages

variable {env : LabEnv} {evidence : Evidence} {manifest : Option ExperimentManifest}
  {plan : Option ControlPlan} {handoff : Option CandidateHandoff}

theorem checkDigest_fails (digest : Option String) (expected gap mismatch : String) :
    EndsOnly IsFail (checkDigest digest expected gap mismatch) := by
  unfold checkDigest
  split
  next => exact EndsOnly.ok _
  next =>
    split
    next => exact EndsOnly.ok _
    next => exact EndsOnly.error (contradicted_isFail mismatch)

theorem checkOpening_fails : EndsOnly IsFail (checkOpening env evidence) := by
  unfold checkOpening
  iterate 4 refine EndsOnly.settle_bind (contradicted_isFail _) ?_
  exact EndsOnly.settle (contradicted_isFail _)

theorem checkManifest_fails : EndsOnly IsFail (checkManifest evidence manifest) := by
  unfold checkManifest
  split
  next => exact EndsOnly.ok _
  next =>
    refine EndsOnly.bind (checkDigest_fails _ _ _ _) fun _ => ?_
    iterate 2 refine EndsOnly.settle_bind (contradicted_isFail _) ?_
    exact EndsOnly.ok _

theorem checkPlanTerms_fails (plan : ControlPlan) :
    EndsOnly IsFail (checkPlanTerms env evidence manifest plan) := by
  unfold checkPlanTerms
  refine EndsOnly.settle_bind (contradicted_isFail _) ?_
  refine EndsOnly.bind (checkDigest_fails _ _ _ _) fun _ => ?_
  iterate 5 refine EndsOnly.settle_bind (contradicted_isFail _) ?_
  exact EndsOnly.ok _

theorem checkPortableRoot_fails : EndsOnly IsFail (checkPortableRoot env evidence) := by
  unfold checkPortableRoot
  dsimp only
  split
  next => exact EndsOnly.ok _
  next => exact checkDigest_fails _ _ _ _

theorem checkFirewallRoot_fails (plan : ControlPlan) :
    EndsOnly IsFail (checkFirewallRoot env evidence plan) := by
  unfold checkFirewallRoot
  split
  next => exact EndsOnly.ok _
  next =>
    dsimp only
    split
    next => exact checkDigest_fails _ _ _ _
    next => exact EndsOnly.ok _

theorem checkPlan_fails : EndsOnly IsFail (checkPlan env evidence manifest plan) := by
  unfold checkPlan
  split
  next => exact EndsOnly.ok _
  next known =>
    refine EndsOnly.bind (checkPlanTerms_fails known) fun _ => ?_
    refine EndsOnly.bind (checkDigest_fails _ _ _ _) fun _ => ?_
    refine EndsOnly.bind checkPortableRoot_fails fun _ => ?_
    refine EndsOnly.bind (checkDigest_fails _ _ _ _) fun _ => ?_
    refine EndsOnly.bind (checkDigest_fails _ _ _ _) fun _ => ?_
    refine EndsOnly.bind (checkFirewallRoot_fails known) fun _ => ?_
    exact EndsOnly.ok _

/-- The only gap among the contradictions: a direct control older than the candidate. -/
def StartedBeforeHandoff (evidence : Evidence) (handoff : Option CandidateHandoff) : Prop :=
  evidence.control.early = false ∧
    ∃ known ∈ handoff, firstTimestamp evidence.timeline < known.producedAtUnixMs

theorem checkHandoff_fails (h : ¬ StartedBeforeHandoff evidence handoff) (verified : Bool) :
    EndsOnly IsFail (checkHandoff env evidence plan handoff verified) := by
  unfold checkHandoff
  split
  next =>
    refine EndsOnly.settle_bind (contradicted_isFail _) ?_
    exact EndsOnly.ok _
  next hearly =>
    split
    next => exact EndsOnly.ok _
    next known =>
      have htime : ¬ firstTimestamp evidence.timeline < known.producedAtUnixMs :=
        fun hlt => h ⟨by simpa using hearly, known, rfl, hlt⟩
      refine EndsOnly.bind (checkDigest_fails _ _ _ _) fun _ => ?_
      refine EndsOnly.settle_bind (contradicted_isFail _) ?_
      rw [settle_of_not htime, except_ok_bind]
      refine EndsOnly.settle_bind (contradicted_isFail _) ?_
      exact EndsOnly.ok _

theorem checkHandoff_open (verified : Bool) :
    EndsOnly IsOpen (checkHandoff env evidence plan handoff verified) := by
  unfold checkHandoff
  split
  next =>
    refine EndsOnly.settle_bind (contradicted_isFail _).isOpen ?_
    exact EndsOnly.ok _
  next =>
    split
    next => exact EndsOnly.ok _
    next =>
      refine EndsOnly.bind ((checkDigest_fails _ _ _ _).weaken fun _ => IsFail.isOpen) fun _ => ?_
      refine EndsOnly.settle_bind (contradicted_isFail _).isOpen ?_
      refine EndsOnly.settle_bind (unproven_isOpen _) ?_
      refine EndsOnly.settle_bind (contradicted_isFail _).isOpen ?_
      exact EndsOnly.ok _

theorem checkLabels_fails : EndsOnly IsFail (checkLabels env evidence manifest) := by
  unfold checkLabels
  split
  next =>
    iterate 2 refine EndsOnly.settle_bind (contradicted_isFail _) ?_
    exact EndsOnly.ok _
  next => exact EndsOnly.ok _

theorem checkNegativeBinding_fails (manifest : ExperimentManifest) (plan : ControlPlan) :
    EndsOnly IsFail (checkNegativeBinding env evidence manifest plan) := by
  unfold checkNegativeBinding
  dsimp only
  split
  next =>
    iterate 2 refine EndsOnly.settle_bind (contradicted_isFail _) ?_
    exact EndsOnly.ok _
  next => exact EndsOnly.ok _

theorem checkNegativeQuery_fails :
    EndsOnly IsFail (checkNegativeQuery env evidence manifest plan) := by
  unfold checkNegativeQuery
  split
  next =>
    split
    next known terms =>
      iterate 3 refine EndsOnly.settle_bind (contradicted_isFail _) ?_
      exact checkNegativeBinding_fails known terms
    next => exact EndsOnly.ok _
  next => exact EndsOnly.ok _

theorem checkControl_fails : EndsOnly IsFail (checkControl env evidence) := by
  unfold checkControl
  split
  case h_1 =>
    refine EndsOnly.settle_bind (contradicted_isFail _) ?_
    exact EndsOnly.settle (contradicted_isFail _)
  case h_2 =>
    iterate 2 refine EndsOnly.settle_bind (contradicted_isFail _) ?_
    exact EndsOnly.settle (contradicted_isFail _)
  case h_3 =>
    refine EndsOnly.settle_bind (contradicted_isFail _) ?_
    exact EndsOnly.settle (contradicted_isFail _)
  case h_4 =>
    iterate 5 refine EndsOnly.settle_bind (contradicted_isFail _) ?_
    exact EndsOnly.settle (contradicted_isFail _)
  case h_5 =>
    iterate 4 refine EndsOnly.settle_bind (contradicted_isFail _) ?_
    exact EndsOnly.settle (contradicted_isFail _)

theorem identityContradiction_fails :
    EndsOnly IsFail (identityContradiction env evidence manifest plan) := by
  unfold identityContradiction
  split
  next => exact EndsOnly.ok _
  next =>
    split
    next hfail => exact EndsOnly.error hfail
    next => exact EndsOnly.ok _

theorem checkIdentity_fails : EndsOnly IsFail (checkIdentity env evidence manifest plan) := by
  unfold checkIdentity
  split
  next =>
    refine EndsOnly.settle_bind (contradicted_isFail _) ?_
    exact identityContradiction_fails
  next => exact EndsOnly.ok _

end Stages

section Observations

variable (evidence : Evidence)

/-- The candidate was seen under another address. -/
def strayAttempt : Prop :=
  evidence.network.candidateAttemptObserved = true ∧ evidence.network.candidateTupleMatch = false

/-- The account, the broker or the terminal is not the expected one. -/
def foreignIdentity : Prop :=
  ∃ identity ∈ evidence.identity,
    identity.probeRunId ≠ evidence.runId ∨ flag identity.flags "account_match" = false ∨
      some identity.server ≠ evidence.runContext.expectedServer ∨
      some identity.company ≠ evidence.runContext.expectedCompany ∨
      identity.tradeMode ≠ "DEMO" ∨
      identity.terminalBuild ≠ evidence.runContext.terminalBuild

/-- A flow that is not the candidate's, or a query for an address. -/
def otherEgress : Prop :=
  evidence.network.otherTcpFlows ≠ 0 ∨ evidence.network.nonTcpNetworkEvents ≠ 0 ∨
    evidence.network.dnsEvents ≠ 0

/-- What a control may not have observed, whatever is known of its proofs. -/
def controlContradicted : Prop :=
  let network := evidence.network
  match evidence.control with
  | .c0 => cleanState evidence = false ∨ evidence.identity.isSome = true
  | .c1 =>
    evidence.identity.isSome = true ∨ evidence.discovery.credentialsSupplied = true ∨
      evidence.discovery.expectedExactResultCount ≠ 1 ∨ selectedLabelDiffers evidence = true
  | .c2 =>
    network.candidateEndpointSafe = false ∨ strayAttempt evidence ∨ foreignIdentity evidence
  | .c4 =>
    cleanState evidence = false ∨ network.candidateEndpointSafe = false ∨
      network.candidateConnected = true ∨ otherEgress evidence ∨
      evidence.identity.isSome = true ∨ strayAttempt evidence
  | _ =>
    cleanState evidence = false ∨ otherEgress evidence ∨ network.candidateEndpointSafe = false ∨
      strayAttempt evidence ∨ foreignIdentity evidence

def Contradicted : Prop :=
  evidence.discovery.helperSecretAccessed = true ∨
    evidence.discovery.unsafeEndpointPromoted = true ∨ controlContradicted evidence

end Observations

section Precedence

variable {env : LabEnv} {evidence : Evidence} {manifest : Option ExperimentManifest}
  {plan : Option ControlPlan}

theorem checkOpening_ends (h : evidence.discovery.helperSecretAccessed = true ∨
    evidence.discovery.unsafeEndpointPromoted = true) :
    Ends IsFail (checkOpening env evidence) := by
  unfold checkOpening
  iterate 3 refine Ends.settle_bind (contradicted_isFail _) (Or.inr ?_)
  refine Ends.settle_bind (contradicted_isFail _) ?_
  exact h.imp_right fun hunsafe => Ends.settle hunsafe (contradicted_isFail _)

theorem tupleMismatch_of_stray (h : strayAttempt evidence) : tupleMismatch env evidence = true := by
  obtain ⟨hattempt, hmatch⟩ := h
  simp [tupleMismatch, hattempt, hmatch]

theorem checkLabels_ends (hcontrol : evidence.control = .c1)
    (h : selectedLabelDiffers evidence = true) :
    Ends IsFail (checkLabels env evidence manifest) := by
  unfold checkLabels
  rw [if_pos (by rw [hcontrol]; rfl)]
  exact Ends.settle_bind (contradicted_isFail _) (Or.inl h)

theorem checkIdentityTerms_ends {identity : Identity}
    (h : flag identity.flags "account_match" = false ∨
      some identity.server ≠ evidence.runContext.expectedServer ∨
      some identity.company ≠ evidence.runContext.expectedCompany ∨
      identity.tradeMode ≠ "DEMO" ∨
      identity.terminalBuild ≠ evidence.runContext.terminalBuild) :
    Ends IsFail (checkIdentityTerms evidence identity) := by
  unfold checkIdentityTerms
  rcases h with hmatch | hserver | hcompany | hmode | hbuild
  · exact Ends.settle_bind (contradicted_isFail _) (Or.inl hmatch)
  · refine Ends.settle_bind (contradicted_isFail _) (Or.inr ?_)
    exact Ends.settle_bind (contradicted_isFail _) (Or.inl (by simp [hserver]))
  · refine Ends.settle_bind (contradicted_isFail _) (Or.inr ?_)
    exact Ends.settle_bind (contradicted_isFail _) (Or.inl (by simp [hcompany]))
  · iterate 2 refine Ends.settle_bind (contradicted_isFail _) (Or.inr ?_)
    exact Ends.settle_bind (contradicted_isFail _) (Or.inl (Or.inr hmode))
  · iterate 3 refine Ends.settle_bind (contradicted_isFail _) (Or.inr ?_)
    exact Ends.settle hbuild (contradicted_isFail _)

/-- The identity of C2, C3 and C5 is compared before anything of it may be missing. -/
theorem checkIdentity_ends
    (hcontrol : evidence.control = .c2 ∨ evidence.control = .c3 ∨ evidence.control = .c5)
    (h : foreignIdentity evidence) : Ends IsFail (checkIdentity env evidence manifest plan) := by
  obtain ⟨identity, hidentity, hrun | hterms⟩ := h
  · unfold checkIdentity
    rw [if_pos hcontrol]
    exact Ends.settle_bind (contradicted_isFail _) (Or.inl ⟨identity, hidentity, hrun⟩)
  · unfold checkIdentity
    rw [if_pos hcontrol]
    refine Ends.settle_bind (contradicted_isFail _) (Or.inr ?_)
    have hends : Ends IsFail (evaluateIdentity env evidence manifest plan) := by
      unfold evaluateIdentity
      rw [Option.mem_def.mp hidentity]
      exact (checkIdentityTerms_ends hterms).bind _
    obtain ⟨verdict, hverdict, hfail⟩ := hends
    unfold identityContradiction
    rw [hverdict]
    refine ⟨verdict, ?_, hfail⟩
    exact if_pos hfail

theorem checkBaseline_ends (hcontrol : evidence.control = .c0)
    (h : cleanState evidence = false ∨ evidence.identity.isSome = true) :
    Ends IsFail (checkControl env evidence) := by
  unfold checkControl
  rw [hcontrol]
  rcases h with hclean | hidentity
  · refine Ends.settle_bind (contradicted_isFail _) (Or.inr ?_)
    exact Ends.settle hclean (contradicted_isFail _)
  · exact Ends.settle_bind (contradicted_isFail _) (Or.inl hidentity)

theorem checkDiscovery_ends (hcontrol : evidence.control = .c1)
    (h : evidence.identity.isSome = true ∨ evidence.discovery.credentialsSupplied = true ∨
      evidence.discovery.expectedExactResultCount ≠ 1) :
    Ends IsFail (checkControl env evidence) := by
  unfold checkControl
  rw [hcontrol]
  refine Ends.settle_bind (contradicted_isFail _) ?_
  refine h.imp_right fun hrest => Ends.settle_bind (contradicted_isFail _) ?_
  exact hrest.imp_right fun hcount => Ends.settle hcount (contradicted_isFail _)

theorem checkLogin_ends (hcontrol : evidence.control = .c2)
    (h : evidence.network.candidateEndpointSafe = false ∨ strayAttempt evidence) :
    Ends IsFail (checkControl env evidence) := by
  unfold checkControl
  rw [hcontrol]
  refine Ends.settle_bind (contradicted_isFail _) ?_
  exact h.imp_right fun hstray =>
    Ends.settle (tupleMismatch_of_stray hstray) (contradicted_isFail _)

theorem checkBlocked_ends (hcontrol : evidence.control = .c4)
    (h : cleanState evidence = false ∨ evidence.network.candidateEndpointSafe = false ∨
      evidence.network.candidateConnected = true ∨ otherEgress evidence ∨
      evidence.identity.isSome = true ∨ strayAttempt evidence) :
    Ends IsFail (checkControl env evidence) := by
  unfold checkControl
  rw [hcontrol]
  refine Ends.settle_bind (contradicted_isFail _) ?_
  refine h.imp_right fun hrest => Ends.settle_bind (contradicted_isFail _) ?_
  refine hrest.imp_right fun hrest => Ends.settle_bind (contradicted_isFail _) ?_
  rcases hrest with hconnected | (htcp | hother | hdns) | hidentity | hstray
  · exact Or.inl (Or.inl hconnected)
  · exact Or.inl (Or.inr (Or.inl htcp))
  · exact Or.inl (Or.inr (Or.inr hother))
  · exact Or.inr (Ends.settle_bind (contradicted_isFail _) (Or.inl hdns))
  · refine Or.inr (Ends.settle_bind (contradicted_isFail _) (Or.inr ?_))
    exact Ends.settle_bind (contradicted_isFail _) (Or.inl hidentity)
  · refine Or.inr (Ends.settle_bind (contradicted_isFail _) (Or.inr ?_))
    refine Ends.settle_bind (contradicted_isFail _) (Or.inr ?_)
    exact Ends.settle (tupleMismatch_of_stray hstray) (contradicted_isFail _)

theorem checkDirect_ends (hcontrol : evidence.control = .c3 ∨ evidence.control = .c5)
    (h : cleanState evidence = false ∨ otherEgress evidence ∨
      evidence.network.candidateEndpointSafe = false ∨ strayAttempt evidence) :
    Ends IsFail (checkControl env evidence) := by
  have hdirect : Ends IsFail (do
      settle (cleanState evidence = false) (contradicted "direct_boot_not_clean")
      settle (evidence.network.otherTcpFlows ≠ 0 ∨ evidence.network.nonTcpNetworkEvents ≠ 0)
        (contradicted "direct_boot_used_unexpected_egress")
      settle (evidence.network.dnsEvents ≠ 0) (contradicted "direct_boot_used_dns")
      settle (evidence.network.candidateEndpointSafe = false)
        (contradicted "unsafe_candidate_endpoint")
      settle (tupleMismatch env evidence = true)
        (contradicted "direct_candidate_tuple_mismatch")) := by
    refine Ends.settle_bind (contradicted_isFail _) ?_
    refine h.imp_right fun hrest => Ends.settle_bind (contradicted_isFail _) ?_
    rcases hrest with (htcp | hother | hdns) | hrest
    · exact Or.inl (Or.inl htcp)
    · exact Or.inl (Or.inr hother)
    · exact Or.inr (Ends.settle_bind (contradicted_isFail _) (Or.inl hdns))
    · refine Or.inr (Ends.settle_bind (contradicted_isFail _) (Or.inr ?_))
      refine Ends.settle_bind (contradicted_isFail _) ?_
      exact hrest.imp_right fun hstray =>
        Ends.settle (tupleMismatch_of_stray hstray) (contradicted_isFail _)
  unfold checkControl
  rcases hcontrol with hcontrol | hcontrol
  · rw [hcontrol]
    exact hdirect
  · rw [hcontrol]
    exact hdirect

/-- One of the two last stages ends when the control is contradicted, or a label of C1 does. -/
theorem control_ends (h : controlContradicted evidence) :
    (evidence.control = .c1 ∧ selectedLabelDiffers evidence = true) ∨
      Ends IsFail (checkControl env evidence) ∨
      Ends IsFail (checkIdentity env evidence manifest plan) := by
  unfold controlContradicted at h
  cases hcontrol : evidence.control with
  | c0 =>
    rw [hcontrol] at h
    exact Or.inr (Or.inl (checkBaseline_ends hcontrol h))
  | c1 =>
    rw [hcontrol] at h
    rcases h with hidentity | hcredentials | hcount | hlabel
    · exact Or.inr (Or.inl (checkDiscovery_ends hcontrol (Or.inl hidentity)))
    · exact Or.inr (Or.inl (checkDiscovery_ends hcontrol (Or.inr (Or.inl hcredentials))))
    · exact Or.inr (Or.inl (checkDiscovery_ends hcontrol (Or.inr (Or.inr hcount))))
    · exact Or.inl ⟨rfl, hlabel⟩
  | c2 =>
    rw [hcontrol] at h
    rcases h with hsafe | hstray | hforeign
    · exact Or.inr (Or.inl (checkLogin_ends hcontrol (Or.inl hsafe)))
    · exact Or.inr (Or.inl (checkLogin_ends hcontrol (Or.inr hstray)))
    · exact Or.inr (Or.inr (checkIdentity_ends (Or.inl hcontrol) hforeign))
  | c3 =>
    rw [hcontrol] at h
    rcases h with hclean | hegress | hsafe | hstray | hforeign
    · exact Or.inr (Or.inl (checkDirect_ends (Or.inl hcontrol) (Or.inl hclean)))
    · exact Or.inr (Or.inl (checkDirect_ends (Or.inl hcontrol) (Or.inr (Or.inl hegress))))
    · exact Or.inr (Or.inl (checkDirect_ends (Or.inl hcontrol) (by simp [hsafe])))
    · exact Or.inr (Or.inl (checkDirect_ends (Or.inl hcontrol) (by simp [hstray])))
    · exact Or.inr (Or.inr (checkIdentity_ends (Or.inr (Or.inl hcontrol)) hforeign))
  | c4 =>
    rw [hcontrol] at h
    exact Or.inr (Or.inl (checkBlocked_ends hcontrol h))
  | c5 =>
    rw [hcontrol] at h
    rcases h with hclean | hegress | hsafe | hstray | hforeign
    · exact Or.inr (Or.inl (checkDirect_ends (Or.inr hcontrol) (Or.inl hclean)))
    · exact Or.inr (Or.inl (checkDirect_ends (Or.inr hcontrol) (Or.inr (Or.inl hegress))))
    · exact Or.inr (Or.inl (checkDirect_ends (Or.inr hcontrol) (by simp [hsafe])))
    · exact Or.inr (Or.inl (checkDirect_ends (Or.inr hcontrol) (by simp [hstray])))
    · exact Or.inr (Or.inr (checkIdentity_ends (Or.inr (Or.inr hcontrol)) hforeign))

theorem findContradictions_ends {inputs : VerdictInputs}
    (htime : ¬ StartedBeforeHandoff evidence inputs.handoff) (h : Contradicted evidence) :
    Ends IsFail (findContradictions env evidence inputs) := by
  unfold findContradictions
  by_cases hopening : evidence.discovery.helperSecretAccessed = true ∨
      evidence.discovery.unsafeEndpointPromoted = true
  · exact (checkOpening_ends hopening).bind _
  · have hcontrol : controlContradicted evidence := by
      rcases h with hsecret | hunsafe | hcontrol
      · exact absurd (Or.inl hsecret) hopening
      · exact absurd (Or.inr hunsafe) hopening
      · exact hcontrol
    refine Ends.after checkOpening_fails fun _ => ?_
    refine Ends.after checkManifest_fails fun _ => ?_
    refine Ends.after checkPlan_fails fun _ => ?_
    refine Ends.after (checkHandoff_fails htime _) fun _ => ?_
    have hlast := @control_ends env evidence inputs.manifest inputs.plan hcontrol
    rcases hlast with ⟨hc1, hlabel⟩ | hends | hends
    · exact (checkLabels_ends hc1 hlabel).bind _
    · refine Ends.after checkLabels_fails fun _ => ?_
      refine Ends.after checkNegativeQuery_fails fun _ => ?_
      exact hends.bind _
    · refine Ends.after checkLabels_fails fun _ => ?_
      refine Ends.after checkNegativeQuery_fails fun _ => ?_
      refine Ends.after checkControl_fails fun _ => ?_
      exact hends.bind _

/-- C3 without plan, manifest or handoff, whose connection went to another address. -/
def strayEvidence : Evidence :=
  { sampleEvidence .c3 with
    network := { sampleNetwork .c3 with candidateTupleMatch := false, otherTcpFlows := 1 } }

end Precedence

end TradeJournalWorker.Lab
