import TradeJournalWorker.FlowTallies

namespace TradeJournalWorker.Lab

/-- The TCP records of the events, in their order. -/
def tcpRecords (seen : List SeenEvent) : List FlowRecord :=
  seen.filterMap fun one => one.flow.map Prod.snd

/-- The record has a connection, and no other record of the connection disagrees with it. -/
structure CoherentRecord (observed : List FlowRecord) (record : FlowRecord) : Prop where
  named : record.connectionIdSha256 ≠ none
  agrees : ∀ other ∈ observed, other.connectionIdSha256 = record.connectionIdSha256 →
    record.binding = other.binding ∧ ¬ Contradict record.disposition other.disposition

section Runs

variable {observed : List FlowRecord} {state : FlowState} {seen : List SeenEvent}

theorem seeTcp_invariant (h : FlowInvariant state.total observed state) (phase : NetworkPhase)
    (flow : Option String × FlowRecord) :
    FlowInvariant (state.total + 1) (observed ++ [flow.2]) (state.seeTcp phase flow) := by
  obtain ⟨endpoint, record⟩ := flow
  unfold FlowState.seeTcp
  have htotal : ((state.addEndpoint phase endpoint).countCandidate phase record.candidate).total =
      state.total := by
    unfold FlowState.countCandidate FlowState.addEndpoint
    cases endpoint <;> cases record.candidate <;> rfl
  rw [← htotal]
  refine observe_invariant (h.frame ?_ ?_ ?_ htotal.ge) record
  all_goals
    unfold FlowState.countCandidate FlowState.addEndpoint
    cases endpoint <;> cases record.candidate <;> rfl

theorem see_invariant (h : FlowInvariant (state.total + 1) observed state) {one : SeenEvent}
    (hnetwork : one.flow ≠ none → one.event.category = .network) :
    FlowInvariant ((state.see one).total + 1) (observed ++ tcpRecords [one]) (state.see one) := by
  rw [see_total]
  obtain ⟨event, flow⟩ := one
  have hcounted : FlowInvariant (state.total + 1) observed
      ({ state with total := state.total + 1 }.countDns event) := by
    refine h.frame ?_ ?_ ?_ (le_refl _)
    all_goals
      unfold FlowState.countDns
      split <;> rfl
  have htotal : ({ state with total := state.total + 1 }.countDns event).total =
      state.total + 1 := by
    unfold FlowState.countDns
    split <;> rfl
  unfold FlowState.see
  generalize ({ state with total := state.total + 1 }.countDns event) = counted at *
  dsimp only at *
  cases flow with
  | none =>
    have hnone : tcpRecords [⟨event, none⟩] = [] := rfl
    rw [hnone, List.append_nil]
    split
    next => exact hcounted.frame rfl rfl rfl (by omega)
    next => exact hcounted.frame rfl rfl rfl (by omega)
  | some flow =>
    rw [if_pos (hnetwork (by simp))]
    have hseen : FlowInvariant (counted.countNetwork event).total observed
        (counted.countNetwork event) := hcounted.frame rfl rfl rfl htotal.ge
    have hstep := seeTcp_invariant hseen event.phase flow
    have hsame : (counted.countNetwork event).total = state.total + 1 := htotal
    rw [hsame] at hstep
    exact hstep

/-- The loop keeps its invariant over the TCP records of the events. -/
theorem run_invariant (hnetwork : ∀ one ∈ seen, one.flow ≠ none → one.event.category = .network)
    (h : FlowInvariant (state.total + 1) observed state) :
    FlowInvariant ((seen.foldl FlowState.see state).total + 1) (observed ++ tcpRecords seen)
      (seen.foldl FlowState.see state) := by
  induction seen generalizing state observed with
  | nil =>
    have hnone : tcpRecords [] = [] := rfl
    rw [hnone, List.append_nil]
    exact h
  | cons one rest ih =>
    have hstep := see_invariant h (hnetwork one List.mem_cons_self)
    have hrest := ih (fun other hmem => hnetwork other (List.mem_cons_of_mem _ hmem)) hstep
    rw [List.append_assoc] at hrest
    have hsplit : tcpRecords [one] ++ tcpRecords rest = tcpRecords (one :: rest) := by
      unfold tcpRecords
      rw [← List.filterMap_append]
      rfl
    rw [hsplit] at hrest
    exact hrest

end Runs

section Coherence

variable {bound larger : Nat} {observed others : List FlowRecord} {state after : FlowState}
  {source : FlowRecord}

/-- A record whose flows are all verified is coherent. -/
theorem coherent_of_verified (h : FlowInvariant bound observed state) (hsource : source ∈ observed)
    (hverified : ∀ key found, (state.flowRecords source.phase).get? key = some found →
      found.binding = source.binding → ∃ digest, found.connectionIdSha256 = some digest ∧
        digest ∉ state.incoherentConnectionIds) :
    CoherentRecord observed source := by
  obtain ⟨key, found, hget, hsame, hbinding⟩ := h.represented source hsource
  obtain ⟨digest, hdigest, hcoherent⟩ := hverified key found hget hbinding
  rw [hdigest] at hsame
  have htracked : ∀ other ∈ observed, other.connectionIdSha256 = some digest →
      state.connectionBindings.get? digest = some other.binding ∧
        ∃ record, (state.flowRecords other.phase).get? (.connectionIdSha256 digest) =
          some record ∧ Absorbs record.disposition other.disposition := by
    intro other hother hnamed
    rcases h.tracked other hother digest hnamed with hmarked | hrest
    · exact absurd hmarked hcoherent
    · exact hrest
  constructor
  · rw [← hsame]
    simp
  · intro other hother hnamed
    rw [← hsame] at hnamed
    obtain ⟨hbound, record, hrecord, habsorbs⟩ := htracked source hsource hsame.symm
    obtain ⟨hbound', record', hrecord', habsorbs'⟩ := htracked other hother hnamed
    rw [hbound] at hbound'
    have heq : source.binding = other.binding := Option.some.inj hbound'
    have hphase : source.phase = other.phase := congrArg ConnectionBinding.phase heq
    rw [← hphase, hrecord] at hrecord'
    cases hrecord'
    exact ⟨heq, habsorbs.not_contradict habsorbs'⟩

/-- Coherent records leave no connection marked. -/
theorem no_incoherent (h : FlowInvariant bound observed state)
    (hcandidate : ∀ first ∈ observed, ∀ second ∈ observed, first.binding = second.binding →
      first.candidate = second.candidate)
    (hcoherent : ∀ record ∈ observed, CoherentRecord observed record) :
    ∀ digest, digest ∉ state.incoherentConnectionIds := by
  intro digest hmem
  obtain ⟨first, hfirst, second, hsecond, hnamed, hnamed', hdisagree⟩ := h.incoherent digest hmem
  obtain ⟨hbinding, hcontradict⟩ :=
    (hcoherent first hfirst).agrees second hsecond (hnamed'.trans hnamed.symm)
  rcases hdisagree with hne | hne | hne
  · exact hne hbinding
  · exact hne (hcandidate first hfirst second hsecond hbinding)
  · exact hcontradict hne

theorem withDisposition_eq {first second : FlowRecord} (hbinding : first.binding = second.binding)
    (hnamed : first.connectionIdSha256 = second.connectionIdSha256)
    (hcandidate : first.candidate = second.candidate) (disposition : FlowDisposition) :
    { first with disposition := disposition } = { second with disposition := disposition } := by
  cases first
  cases second
  unfold FlowRecord.binding at hbinding
  simp only [ConnectionBinding.mk.injEq] at hbinding
  simp_all

/-- Two runs over the same coherent records have the same flows. -/
theorem flow_of_flow (h : FlowInvariant bound observed state)
    (hafter : FlowInvariant larger others after)
    (hsame : ∀ record, record ∈ observed ↔ record ∈ others)
    (hcandidate : ∀ first ∈ observed, ∀ second ∈ observed, first.binding = second.binding →
      first.candidate = second.candidate)
    (hcoherent : ∀ record ∈ observed, CoherentRecord observed record)
    (hids : ∀ digest, digest ∉ state.incoherentConnectionIds)
    (hids' : ∀ digest, digest ∉ after.incoherentConnectionIds)
    {phase : NetworkPhase} {key : FlowKey} {record : FlowRecord}
    (hget : (state.flowRecords phase).get? key = some record) :
    (after.flowRecords phase).get? key = some record := by
  cases key with
  | diagnosticRecord n =>
    obtain ⟨hmem, _, hmarked⟩ := h.diagnostic phase n record hget
    cases hnamed : record.connectionIdSha256 with
    | none => exact absurd hnamed (hcoherent record hmem).named
    | some digest => exact absurd (hmarked digest hnamed) (hids digest)
  | connectionIdSha256 digest =>
    obtain ⟨⟨source, hsource, hphase, hnamed, heq⟩, attained, hattained, hown, hdisposition⟩ :=
      h.flow phase digest record hget
    have hplace : ∀ other ∈ observed, other.connectionIdSha256 = some digest →
        source.binding = other.binding ∧ other.phase = phase := by
      intro other hother hdigest
      have hbinding := ((hcoherent source hsource).agrees other hother
        (hdigest.trans hnamed.symm)).1
      exact ⟨hbinding, (congrArg ConnectionBinding.phase hbinding).symm.trans hphase⟩
    have hflow : ∀ other ∈ observed, other.connectionIdSha256 = some digest →
        Absorbs record.disposition other.disposition ∧
          ∃ found, (after.flowRecords phase).get? (.connectionIdSha256 digest) = some found ∧
            Absorbs found.disposition other.disposition := by
      intro other hother hdigest
      obtain ⟨_, hother_phase⟩ := hplace other hother hdigest
      constructor
      · rcases h.tracked other hother digest hdigest with hmarked | ⟨_, found, hfound, habsorbs⟩
        · exact absurd hmarked (hids digest)
        · rw [hother_phase, hget] at hfound
          cases hfound
          exact habsorbs
      · rcases hafter.tracked other ((hsame other).mp hother) digest hdigest with
          hmarked | ⟨_, found, hfound, habsorbs⟩
        · exact absurd hmarked (hids' digest)
        · rw [hother_phase] at hfound
          exact ⟨found, hfound, habsorbs⟩
    obtain ⟨_, found, hfound, habsorbs⟩ := hflow attained hattained hown
    obtain ⟨⟨source', hsource', _, hnamed', heq'⟩, attained', hattained', hown', hdisposition'⟩ :=
      hafter.flow phase digest found hfound
    have hsource'_mem := (hsame source').mpr hsource'
    have hbinding := (hplace source' hsource'_mem hnamed').1
    have hsamedisposition : record.disposition = found.disposition := by
      have hother := (hflow attained' ((hsame attained').mpr hattained') hown').1
      rw [hdisposition'] at hother
      rw [hdisposition] at habsorbs
      rcases habsorbs with hattempted | hfounds
      · rcases hother with hattempted' | hrecords
        · rw [hattempted, hattempted']
        · exact hrecords
      · exact hfounds.symm
    rw [hfound, heq, heq', ← hsamedisposition]
    congr 1
    exact (withDisposition_eq hbinding (hnamed.trans hnamed'.symm)
      (hcandidate source hsource source' hsource'_mem hbinding) record.disposition).symm

/-- Two runs over the same coherent records have the same flows of every phase. -/
theorem flows_eq (h : FlowInvariant bound observed state)
    (hafter : FlowInvariant larger others after)
    (hsame : ∀ record, record ∈ observed ↔ record ∈ others)
    (hcandidate : ∀ first ∈ observed, ∀ second ∈ observed, first.binding = second.binding →
      first.candidate = second.candidate)
    (hcoherent : ∀ record ∈ observed, CoherentRecord observed record)
    (phase : NetworkPhase) (key : FlowKey) :
    (after.flowRecords phase).get? key = (state.flowRecords phase).get? key := by
  have hcandidate' : ∀ first ∈ others, ∀ second ∈ others, first.binding = second.binding →
      first.candidate = second.candidate := fun first hfirst second hsecond =>
    hcandidate first ((hsame first).mpr hfirst) second ((hsame second).mpr hsecond)
  have hcoherent' : ∀ record ∈ others, CoherentRecord others record := by
    intro record hrecord
    have hold := hcoherent record ((hsame record).mpr hrecord)
    exact ⟨hold.named, fun other hother => hold.agrees other ((hsame other).mpr hother)⟩
  have hids := no_incoherent h hcandidate hcoherent
  have hids' := no_incoherent hafter hcandidate' hcoherent'
  cases hget : (state.flowRecords phase).get? key with
  | some record => exact flow_of_flow h hafter hsame hcandidate hcoherent hids hids' hget
  | none =>
    cases hget' : (after.flowRecords phase).get? key with
    | none => rfl
    | some record =>
      have hback := flow_of_flow hafter h (fun record => (hsame record).symm) hcandidate'
        hcoherent' hids' hids hget'
      rw [hget] at hback
      cases hback

end Coherence

end TradeJournalWorker.Lab
