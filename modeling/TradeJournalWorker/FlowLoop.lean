import TradeJournalWorker.NetworkSummary

namespace TradeJournalWorker.Lab

def FlowRecord.binding (record : FlowRecord) : ConnectionBinding where
  phase := record.phase
  processIdentity := record.processIdentity
  localAddress := record.localAddress
  localPort := record.localPort
  remoteAddress := record.remoteAddress
  remotePort := record.remotePort

/-- One of the two is connected, the other blocked. -/
def Contradict (first second : FlowDisposition) : Prop :=
  (first = .connected ∧ second = .blocked) ∨ (first = .blocked ∧ second = .connected)

/-- The observed disposition adds nothing to the current one. -/
def Absorbs (current observed : FlowDisposition) : Prop :=
  observed = .attemptedNotConnected ∨ current = observed

/-- The two records cannot belong to one connection. -/
def Disagree (first second : FlowRecord) : Prop :=
  first.binding ≠ second.binding ∨ first.candidate ≠ second.candidate ∨
    Contradict first.disposition second.disposition

section Dispositions

variable {current observed merged : FlowDisposition}

theorem mergeFlowDisposition_some (h : mergeFlowDisposition current observed = some merged) :
    (merged = current ∨ merged = observed) ∧ Absorbs merged current ∧ Absorbs merged observed := by
  unfold Absorbs
  revert h
  cases current <;> cases observed <;> cases merged <;> decide

theorem mergeFlowDisposition_none (h : mergeFlowDisposition current observed = none) :
    Contradict current observed := by
  unfold Contradict
  revert h
  cases current <;> cases observed <;> decide

theorem Absorbs.trans {first second third : FlowDisposition} (h : Absorbs first second)
    (hrest : Absorbs second third) : Absorbs first third := by
  rcases hrest with hnothing | hsame
  · exact Or.inl hnothing
  · exact hsame ▸ h

theorem Absorbs.not_contradict {first second : FlowDisposition} (hfirst : Absorbs current first)
    (hsecond : Absorbs current second) : ¬ Contradict first second := by
  unfold Absorbs at hfirst hsecond
  unfold Contradict
  revert hfirst hsecond
  cases current <;> cases first <;> cases second <;> decide

end Dispositions

namespace FlowState

/-- The flows with one more record of this phase. -/
def withRecord (state : FlowState) (phase : NetworkPhase) (key : FlowKey) (record : FlowRecord) :
    NetworkPhase → OrderedDict FlowKey FlowRecord :=
  fun other => if other = phase then (state.flowRecords other).set key record
    else state.flowRecords other

/-- A TCP record enters the loop. -/
def observe (state : FlowState) (record : FlowRecord) : FlowState :=
  (state.bindConnection record.connectionIdSha256 record.binding).addRecord record

end FlowState

/-- The connections of a state after a record: those before it and its own. -/
structure Binds (before : FlowState) (record : FlowRecord) (after : FlowState) : Prop where
  kept : ∀ digest binding, before.connectionBindings.get? digest = some binding →
    after.connectionBindings.get? digest = some binding
  added : ∀ digest binding, after.connectionBindings.get? digest = some binding →
    before.connectionBindings.get? digest = some binding ∨
      (record.connectionIdSha256 = some digest ∧ binding = record.binding)

/-- The record starts the flow of its connection or is merged into it. -/
structure JoinsFlow (before : FlowState) (record : FlowRecord) (digest : String)
    (flow : FlowRecord) (after : FlowState) : Prop where
  binds : Binds before record after
  named : record.connectionIdSha256 = some digest
  coherent : digest ∉ before.incoherentConnectionIds
  incoherent : after.incoherentConnectionIds = before.incoherentConnectionIds
  bound : after.connectionBindings.get? digest = some record.binding
  records : after.flowRecords =
    before.withRecord record.phase (.connectionIdSha256 digest) flow
  flow : ((before.flowRecords record.phase).get? (.connectionIdSha256 digest) = none ∧
      flow = record) ∨
    ∃ old merged,
      (before.flowRecords record.phase).get? (.connectionIdSha256 digest) = some old ∧
      mergeFlowDisposition old.disposition record.disposition = some merged ∧
      flow = { old with disposition := merged }

/-- What makes a connection incoherent at a record. -/
def Clash (before : FlowState) (record : FlowRecord) (digest : String) : Prop :=
  (∃ binding, before.connectionBindings.get? digest = some binding ∧ binding ≠ record.binding) ∨
    ∃ old, (before.flowRecords record.phase).get? (.connectionIdSha256 digest) = some old ∧
      (old.candidate ≠ record.candidate ∨ Contradict old.disposition record.disposition)

/-- The record is kept as a diagnostic one. -/
structure SetAside (before : FlowState) (record : FlowRecord) (after : FlowState) : Prop where
  binds : Binds before record after
  kept : ∀ digest ∈ before.incoherentConnectionIds, digest ∈ after.incoherentConnectionIds
  added : ∀ digest ∈ after.incoherentConnectionIds, digest ∈ before.incoherentConnectionIds ∨
    (record.connectionIdSha256 = some digest ∧ Clash before record digest)
  marked : ∀ digest, record.connectionIdSha256 = some digest →
    digest ∈ after.incoherentConnectionIds
  records : after.flowRecords =
    before.withRecord record.phase (.diagnosticRecord before.total) record

section Steps

variable {state : FlowState} {record : FlowRecord}

theorem bindConnection_frame (state : FlowState) (digest : Option String)
    (binding : ConnectionBinding) :
    (state.bindConnection digest binding).flowRecords = state.flowRecords ∧
      (state.bindConnection digest binding).total = state.total := by
  unfold FlowState.bindConnection FlowState.addIncoherent
  repeat' split
  all_goals exact ⟨rfl, rfl⟩

theorem binds_of_connections {before after middle : FlowState}
    (hmiddle : middle = before.bindConnection record.connectionIdSha256 record.binding)
    (hafter : after.connectionBindings = middle.connectionBindings) :
    Binds before record after := by
  subst hmiddle
  constructor
  · intro digest binding hget
    rw [hafter]
    unfold FlowState.bindConnection FlowState.addIncoherent
    split
    next => exact hget
    next connection hconnection =>
      split
      next hnone =>
        have hne : digest ≠ connection := by
          intro heq
          rw [heq, hnone] at hget
          cases hget
        simp only
        rw [OrderedDict.get?_set_of_ne _ _ hne]
        exact hget
      next => split <;> exact hget
  · intro digest binding hget
    rw [hafter] at hget
    unfold FlowState.bindConnection FlowState.addIncoherent at hget
    split at hget
    next => exact Or.inl hget
    next connection hconnection =>
      split at hget
      next hnone =>
        simp only at hget
        rw [OrderedDict.get?_set] at hget
        split at hget
        next heq =>
          cases hget
          exact Or.inr ⟨heq ▸ hconnection, rfl⟩
        next => exact Or.inl hget
      next =>
        left
        split at hget <;> exact hget

/-- The set of incoherent connections after the comparison of the bindings. -/
theorem bindConnection_incoherent {digest : String}
    (hnamed : record.connectionIdSha256 = some digest) :
    ((state.bindConnection record.connectionIdSha256 record.binding).incoherentConnectionIds =
        state.incoherentConnectionIds ∧
      (state.bindConnection record.connectionIdSha256 record.binding).connectionBindings.get?
        digest = some record.binding) ∨
    ((state.bindConnection record.connectionIdSha256 record.binding).incoherentConnectionIds =
        state.incoherentConnectionIds.insert digest ∧
      ∃ binding, state.connectionBindings.get? digest = some binding ∧
        binding ≠ record.binding) := by
  rw [hnamed]
  unfold FlowState.bindConnection FlowState.addIncoherent
  simp only
  cases hget : state.connectionBindings.get? digest with
  | none =>
    left
    exact ⟨rfl, OrderedDict.get?_set_self _ _ _⟩
  | some previous =>
    by_cases hsame : previous = record.binding
    · left
      dsimp only
      rw [if_pos hsame]
      exact ⟨rfl, hsame ▸ hget⟩
    · right
      dsimp only
      rw [if_neg hsame]
      exact ⟨rfl, previous, rfl, hsame⟩

theorem addIncoherent_ids (state : FlowState) {digest : Option String} {connection : String} :
    connection ∈ (state.addIncoherent digest).incoherentConnectionIds ↔
      connection ∈ state.incoherentConnectionIds ∨ digest = some connection := by
  unfold FlowState.addIncoherent
  split
  · simp
  next marked =>
    simp only [List.mem_insert_iff, Option.some.injEq]
    constructor
    · rintro (rfl | h)
      · exact Or.inr rfl
      · exact Or.inl h
    · rintro (h | rfl)
      · exact Or.inr h
      · exact Or.inl rfl

/-- A record that clashes with the flow of its connection is set aside. -/
theorem setAside_of_putDiagnostic {digest : String} {middle : FlowState}
    (hnamed : record.connectionIdSha256 = some digest)
    (hmiddle : middle = state.bindConnection record.connectionIdSha256 record.binding)
    (hids : ∀ connection ∈ middle.incoherentConnectionIds,
      connection ∈ state.incoherentConnectionIds)
    (hkept : ∀ connection ∈ state.incoherentConnectionIds,
      connection ∈ middle.incoherentConnectionIds)
    (hclash : Clash state record digest) :
    SetAside state record (middle.putDiagnostic record) := by
  have hframe := bindConnection_frame state record.connectionIdSha256 record.binding
  rw [← hmiddle] at hframe
  have hafter : (middle.putDiagnostic record).incoherentConnectionIds =
      (middle.addIncoherent record.connectionIdSha256).incoherentConnectionIds := rfl
  constructor
  case binds =>
    refine binds_of_connections hmiddle ?_
    unfold FlowState.putDiagnostic FlowState.putRecord FlowState.addIncoherent
    split <;> rfl
  case kept =>
    intro connection hmem
    rw [hafter, addIncoherent_ids]
    exact Or.inl (hkept connection hmem)
  case added =>
    intro connection hmem
    rw [hafter, addIncoherent_ids] at hmem
    rcases hmem with hmem | hmem
    · exact Or.inl (hids connection hmem)
    · rw [hnamed] at hmem
      cases hmem
      exact Or.inr ⟨hnamed, hclash⟩
  case marked =>
    intro connection hconnection
    rw [hafter, addIncoherent_ids]
    exact Or.inr hconnection
  case records =>
    unfold FlowState.putDiagnostic FlowState.putRecord FlowState.addIncoherent
    rw [hnamed]
    simp only
    rw [hframe.1, hframe.2]
    rfl

/-- A record without a coherent connection is set aside under its own ordinal. -/
theorem setAside_of_diagnosticKey {middle : FlowState}
    (hmiddle : middle = state.bindConnection record.connectionIdSha256 record.binding)
    (hkept : ∀ connection ∈ state.incoherentConnectionIds,
      connection ∈ middle.incoherentConnectionIds)
    (hadded : ∀ connection ∈ middle.incoherentConnectionIds,
      connection ∈ state.incoherentConnectionIds ∨
        (record.connectionIdSha256 = some connection ∧ Clash state record connection))
    (hmarked : ∀ connection, record.connectionIdSha256 = some connection →
      connection ∈ middle.incoherentConnectionIds)
    (hfresh : (state.flowRecords record.phase).get? (.diagnosticRecord state.total) = none) :
    SetAside state record (middle.addRecord record) := by
  have hframe := bindConnection_frame state record.connectionIdSha256 record.binding
  rw [← hmiddle] at hframe
  have hkey : middle.flowKey record.connectionIdSha256 = .diagnosticRecord state.total := by
    unfold FlowState.flowKey
    split
    next connection hconnection =>
      rw [if_pos (hmarked connection hconnection), hframe.2]
    next => rw [hframe.2]
  have hput : middle.addRecord record = middle.putRecord (.diagnosticRecord state.total) record := by
    unfold FlowState.addRecord
    rw [hkey, hframe.1]
    dsimp only
    rw [hfresh]
  rw [hput]
  refine ⟨binds_of_connections hmiddle rfl, hkept, hadded, hmarked, ?_⟩
  unfold FlowState.putRecord FlowState.withRecord
  dsimp only
  rw [hframe.1]

/-- A record joins the flow of its connection or is set aside. -/
theorem observe_cases
    (hfresh : (state.flowRecords record.phase).get? (.diagnosticRecord state.total) = none)
    (hphase : ∀ key old, (state.flowRecords record.phase).get? key = some old →
      old.phase = record.phase) :
    (∃ digest flow, JoinsFlow state record digest flow (state.observe record)) ∨
      SetAside state record (state.observe record) := by
  unfold FlowState.observe
  generalize hmiddle : state.bindConnection record.connectionIdSha256 record.binding = middle
  have hframe := bindConnection_frame state record.connectionIdSha256 record.binding
  rw [hmiddle] at hframe
  cases hnamed : record.connectionIdSha256 with
  | none =>
    right
    have hids : middle = state := by
      rw [← hmiddle, hnamed]
      rfl
    refine setAside_of_diagnosticKey hmiddle.symm ?_ ?_ ?_ hfresh
    · exact fun connection hmem => hids ▸ hmem
    · exact fun connection hmem => Or.inl (hids ▸ hmem)
    · intro connection hconnection
      rw [hnamed] at hconnection
      cases hconnection
  | some digest =>
    have hbind := @bindConnection_incoherent state record digest hnamed
    rw [hmiddle] at hbind
    rcases hbind with ⟨hids, hbound⟩ | ⟨hids, binding, hget, hne⟩
    · by_cases hmarked : digest ∈ state.incoherentConnectionIds
      · right
        refine setAside_of_diagnosticKey hmiddle.symm ?_ ?_ ?_ hfresh
        · exact fun connection hmem => hids ▸ hmem
        · exact fun connection hmem => Or.inl (hids ▸ hmem)
        · intro connection hconnection
          rw [hnamed] at hconnection
          cases hconnection
          rw [hids]
          exact hmarked
      · have hkey : middle.flowKey record.connectionIdSha256 = .connectionIdSha256 digest := by
          rw [hnamed]
          unfold FlowState.flowKey
          dsimp only
          rw [if_neg (hids ▸ hmarked)]
        have haside : ∀ old,
            (state.flowRecords record.phase).get? (.connectionIdSha256 digest) = some old →
            (old.candidate ≠ record.candidate ∨ Contradict old.disposition record.disposition) →
            SetAside state record (middle.putDiagnostic record) := by
          intro old hold hclash
          refine setAside_of_putDiagnostic hnamed hmiddle.symm ?_ ?_ (Or.inr ⟨old, hold, hclash⟩)
          · exact fun connection hmem => hids ▸ hmem
          · exact fun connection hmem => hids ▸ hmem
        unfold FlowState.addRecord
        rw [hkey, hframe.1]
        dsimp only
        cases hold : (state.flowRecords record.phase).get? (.connectionIdSha256 digest) with
        | none =>
          left
          refine ⟨digest, record, ⟨binds_of_connections hmiddle.symm rfl, hnamed, hmarked, hids,
            hbound, ?_, Or.inl ⟨hold, rfl⟩⟩⟩
          unfold FlowState.putRecord FlowState.withRecord
          dsimp only
          rw [hframe.1]
        | some old =>
          dsimp only
          by_cases hcandidate : old.candidate = record.candidate
          · rw [if_neg (not_not.mpr hcandidate)]
            cases hmerge : mergeFlowDisposition old.disposition record.disposition with
            | none =>
              right
              exact haside old hold (Or.inr (mergeFlowDisposition_none hmerge))
            | some merged =>
              left
              refine ⟨digest, { old with disposition := merged },
                ⟨binds_of_connections hmiddle.symm rfl, hnamed, hmarked, hids, hbound, ?_,
                  Or.inr ⟨old, merged, hold, hmerge, rfl⟩⟩⟩
              unfold FlowState.putRecord FlowState.withRecord
              dsimp only
              rw [hframe.1, hphase _ old hold]
          · right
            rw [if_pos hcandidate]
            exact haside old hold (Or.inl hcandidate)
    · right
      refine setAside_of_diagnosticKey hmiddle.symm ?_ ?_ ?_ hfresh
      · intro connection hmem
        rw [hids, List.mem_insert_iff]
        exact Or.inr hmem
      · intro connection hmem
        rw [hids, List.mem_insert_iff] at hmem
        rcases hmem with rfl | hmem
        · exact Or.inr ⟨hnamed, Or.inl ⟨binding, hget, hne⟩⟩
        · exact Or.inl hmem
      · intro connection hconnection
        rw [hnamed] at hconnection
        cases hconnection
        rw [hids, List.mem_insert_iff]
        exact Or.inl rfl

end Steps

/-- What the loop knows after the TCP records `observed`; the ordinals are below `bound`. -/
structure FlowInvariant (bound : Nat) (observed : List FlowRecord) (state : FlowState) : Prop where
  ordinals : ∀ phase n record,
    (state.flowRecords phase).get? (.diagnosticRecord n) = some record → n < bound
  diagnostic : ∀ phase n record,
    (state.flowRecords phase).get? (.diagnosticRecord n) = some record →
      record ∈ observed ∧ record.phase = phase ∧ ∀ digest,
        record.connectionIdSha256 = some digest → digest ∈ state.incoherentConnectionIds
  flow : ∀ phase digest record,
    (state.flowRecords phase).get? (.connectionIdSha256 digest) = some record →
      (∃ source ∈ observed, source.phase = phase ∧ source.connectionIdSha256 = some digest ∧
        record = { source with disposition := record.disposition }) ∧
      ∃ source ∈ observed, source.connectionIdSha256 = some digest ∧
        source.disposition = record.disposition
  bound : ∀ digest binding, state.connectionBindings.get? digest = some binding →
    ∃ source ∈ observed, source.connectionIdSha256 = some digest ∧ source.binding = binding
  tracked : ∀ source ∈ observed, ∀ digest, source.connectionIdSha256 = some digest →
    digest ∈ state.incoherentConnectionIds ∨
      (state.connectionBindings.get? digest = some source.binding ∧
        ∃ record, (state.flowRecords source.phase).get? (.connectionIdSha256 digest) =
          some record ∧ Absorbs record.disposition source.disposition)
  represented : ∀ source ∈ observed, ∃ key record,
    (state.flowRecords source.phase).get? key = some record ∧
      record.connectionIdSha256 = source.connectionIdSha256 ∧ record.binding = source.binding
  incoherent : ∀ digest ∈ state.incoherentConnectionIds, ∃ first ∈ observed, ∃ second ∈ observed,
    first.connectionIdSha256 = some digest ∧ second.connectionIdSha256 = some digest ∧
      Disagree first second

section Invariant

variable {bound : Nat} {observed : List FlowRecord} {state after : FlowState}
  {record flow : FlowRecord} {digest : String}

theorem get?_withRecord (state : FlowState) (phase other : NetworkPhase) (key asked : FlowKey)
    (record : FlowRecord) :
    (state.withRecord phase key record other).get? asked =
      if other = phase ∧ asked = key then some record
      else (state.flowRecords other).get? asked := by
  unfold FlowState.withRecord
  by_cases hphase : other = phase
  · rw [if_pos hphase, OrderedDict.get?_set]
    simp [hphase]
  · rw [if_neg hphase]
    simp [hphase]

theorem flowInvariant_start : FlowInvariant 0 [] {} := by
  constructor
  · intro phase n record h
    cases h
  · intro phase n record h
    cases h
  · intro phase digest record h
    cases h
  · intro digest binding h
    cases h
  · exact fun source h => absurd h List.not_mem_nil
  · exact fun source h => absurd h List.not_mem_nil
  · exact fun digest h => absurd h List.not_mem_nil

/-- The counters do not matter. -/
theorem FlowInvariant.frame (h : FlowInvariant bound observed state) {larger : Nat}
    (hrecords : after.flowRecords = state.flowRecords)
    (hbindings : after.connectionBindings = state.connectionBindings)
    (hids : after.incoherentConnectionIds = state.incoherentConnectionIds)
    (hbound : bound ≤ larger) : FlowInvariant larger observed after := by
  constructor
  · intro phase n record hget
    rw [hrecords] at hget
    exact lt_of_lt_of_le (h.ordinals phase n record hget) hbound
  · rw [hrecords, hids]
    exact h.diagnostic
  · rw [hrecords]
    exact h.flow
  · rw [hbindings]
    exact h.bound
  · rw [hrecords, hbindings, hids]
    exact h.tracked
  · rw [hrecords]
    exact h.represented
  · rw [hids]
    exact h.incoherent

theorem FlowInvariant.phase (h : FlowInvariant bound observed state) {phase : NetworkPhase}
    {key : FlowKey} (hget : (state.flowRecords phase).get? key = some record) :
    record.phase = phase := by
  cases key with
  | diagnosticRecord n => exact (h.diagnostic phase n record hget).2.1
  | connectionIdSha256 digest =>
    obtain ⟨⟨source, _, hphase, _, heq⟩, _⟩ := h.flow phase digest record hget
    rw [heq]
    exact hphase

/-- What the flow of a connection is after a record joined it. -/
structure FlowShape (state : FlowState) (observed : List FlowRecord) (record : FlowRecord)
    (digest : String) (flow : FlowRecord) : Prop where
  source : ∃ source ∈ observed ++ [record], source.phase = record.phase ∧
    source.connectionIdSha256 = some digest ∧ flow = { source with disposition := flow.disposition }
  attained : ∃ source ∈ observed ++ [record], source.connectionIdSha256 = some digest ∧
    source.disposition = flow.disposition
  binding : flow.binding = record.binding
  absorbs : Absorbs flow.disposition record.disposition
  absorbsOld : ∀ old, (state.flowRecords record.phase).get? (.connectionIdSha256 digest) =
    some old → Absorbs flow.disposition old.disposition ∧ flow.binding = old.binding

theorem FlowShape.connection (h : FlowShape state observed record digest flow) :
    flow.connectionIdSha256 = some digest := by
  obtain ⟨source, _, _, hnamed, heq⟩ := h.source
  rw [heq]
  exact hnamed

theorem JoinsFlow.shape (h : FlowInvariant bound observed state)
    (hjoins : JoinsFlow state record digest flow after) :
    FlowShape state observed record digest flow := by
  have hself : record ∈ observed ++ [record] := by simp
  have hleft : ∀ {source}, source ∈ observed → source ∈ observed ++ [record] :=
    fun hmem => List.mem_append_left _ hmem
  rcases hjoins.flow with ⟨hnone, rfl⟩ | ⟨old, merged, hold, hmerge, rfl⟩
  · constructor
    · exact ⟨_, hself, rfl, hjoins.named, rfl⟩
    · exact ⟨_, hself, hjoins.named, rfl⟩
    · rfl
    · exact Or.inr rfl
    · intro old hold
      rw [hnone] at hold
      cases hold
  · obtain ⟨⟨source, hsource, hphase, hnamed, heq⟩, attained, hattained, hown, hdisposition⟩ :=
      h.flow record.phase digest old hold
    obtain ⟨hmerged, habsorbs, hrecord⟩ := mergeFlowDisposition_some hmerge
    have hbound : state.connectionBindings.get? digest = some source.binding := by
      rcases h.tracked source hsource digest hnamed with hmarked | ⟨hbound, _⟩
      · exact absurd hmarked hjoins.coherent
      · exact hbound
    have hsame : source.binding = record.binding := by
      have hkept := hjoins.binds.kept digest _ hbound
      rw [hjoins.bound] at hkept
      exact (Option.some.inj hkept).symm
    have hold_binding : old.binding = source.binding := by
      rw [heq]
      rfl
    constructor
    · refine ⟨source, hleft hsource, hphase, hnamed, ?_⟩
      rw [heq]
    · rcases hmerged with rfl | rfl
      · exact ⟨attained, hleft hattained, hown, hdisposition⟩
      · exact ⟨record, hself, hjoins.named, rfl⟩
    · exact hold_binding.trans hsame
    · exact hrecord
    · intro other hother
      rw [hold] at hother
      cases hother
      exact ⟨habsorbs, rfl⟩

/-- The invariant after a record that joined the flow of its connection. -/
theorem JoinsFlow.invariant (h : FlowInvariant bound observed state)
    (hjoins : JoinsFlow state record digest flow after) :
    FlowInvariant bound (observed ++ [record]) after := by
  have hshape := hjoins.shape h
  have hleft : ∀ {source}, source ∈ observed → source ∈ observed ++ [record] :=
    fun hmem => List.mem_append_left _ hmem
  have hself : record ∈ observed ++ [record] := by simp
  constructor
  case ordinals =>
    intro phase n found hget
    rw [hjoins.records, get?_withRecord] at hget
    simp only [reduceCtorEq, and_false, if_false] at hget
    exact h.ordinals phase n found hget
  case diagnostic =>
    intro phase n found hget
    rw [hjoins.records, get?_withRecord] at hget
    simp only [reduceCtorEq, and_false, if_false] at hget
    obtain ⟨hmem, hphase, hmarked⟩ := h.diagnostic phase n found hget
    rw [hjoins.incoherent]
    exact ⟨hleft hmem, hphase, hmarked⟩
  case flow =>
    intro phase connection found hget
    rw [hjoins.records, get?_withRecord] at hget
    split at hget
    next hsame =>
      cases hget
      obtain ⟨rfl, hkey⟩ := hsame
      cases hkey
      exact ⟨hshape.source, hshape.attained⟩
    next =>
      obtain ⟨⟨source, hsource, hfacts⟩, attained, hattained, hdisposition⟩ :=
        h.flow phase connection found hget
      exact ⟨⟨source, hleft hsource, hfacts⟩, attained, hleft hattained, hdisposition⟩
  case bound =>
    intro connection binding hget
    rcases hjoins.binds.added connection binding hget with hbefore | ⟨hnamed, rfl⟩
    · obtain ⟨source, hsource, hfacts⟩ := h.bound connection binding hbefore
      exact ⟨source, hleft hsource, hfacts⟩
    · exact ⟨record, hself, hnamed, rfl⟩
  case tracked =>
    intro source hsource connection hnamed
    rw [hjoins.incoherent]
    rcases List.mem_append.mp hsource with hsource | hsource
    · rcases h.tracked source hsource connection hnamed with hmarked | ⟨hget, old, hold, habsorbs⟩
      · exact Or.inl hmarked
      · right
        refine ⟨hjoins.binds.kept _ _ hget, ?_⟩
        rw [hjoins.records, get?_withRecord]
        by_cases hsame : source.phase = record.phase ∧
            FlowKey.connectionIdSha256 connection = .connectionIdSha256 digest
        · rw [if_pos hsame]
          obtain ⟨hphase, hkey⟩ := hsame
          cases hkey
          rw [hphase] at hold
          exact ⟨flow, rfl, (hshape.absorbsOld old hold).1.trans habsorbs⟩
        · rw [if_neg hsame]
          exact ⟨old, hold, habsorbs⟩
    · obtain rfl := List.mem_singleton.mp hsource
      rw [hjoins.named] at hnamed
      cases hnamed
      right
      refine ⟨hjoins.bound, flow, ?_, hshape.absorbs⟩
      rw [hjoins.records, get?_withRecord]
      exact if_pos ⟨rfl, rfl⟩
  case represented =>
    intro source hsource
    rcases List.mem_append.mp hsource with hsource | hsource
    · obtain ⟨key, old, hold, hconnection, hbinding⟩ := h.represented source hsource
      by_cases hsame : source.phase = record.phase ∧ key = .connectionIdSha256 digest
      · refine ⟨key, flow, ?_, ?_, ?_⟩
        · rw [hjoins.records, get?_withRecord, if_pos hsame]
        · obtain ⟨hphase, rfl⟩ := hsame
          obtain ⟨⟨first, _, _, hfirst, heq⟩, _⟩ := h.flow _ _ _ hold
          rw [hshape.connection, ← hconnection, heq]
          exact hfirst.symm
        · obtain ⟨hphase, rfl⟩ := hsame
          rw [hphase] at hold
          exact (hshape.absorbsOld old hold).2.trans hbinding
      · refine ⟨key, old, ?_, hconnection, hbinding⟩
        rw [hjoins.records, get?_withRecord, if_neg hsame]
        exact hold
    · obtain rfl := List.mem_singleton.mp hsource
      refine ⟨.connectionIdSha256 digest, flow, ?_, ?_, hshape.binding⟩
      · rw [hjoins.records, get?_withRecord]
        exact if_pos ⟨rfl, rfl⟩
      · rw [hshape.connection, hjoins.named]
  case incoherent =>
    intro connection hmem
    rw [hjoins.incoherent] at hmem
    obtain ⟨first, hfirst, second, hsecond, hfacts⟩ := h.incoherent connection hmem
    exact ⟨first, hleft hfirst, second, hleft hsecond, hfacts⟩

theorem Clash.disagree (h : FlowInvariant bound observed state)
    (hclash : Clash state record digest) :
    ∃ source ∈ observed, source.connectionIdSha256 = some digest ∧ Disagree source record := by
  rcases hclash with ⟨binding, hget, hne⟩ | ⟨old, hold, hdiffers⟩
  · obtain ⟨source, hsource, hnamed, heq⟩ := h.bound digest binding hget
    exact ⟨source, hsource, hnamed, Or.inl (heq ▸ hne)⟩
  · obtain ⟨⟨source, hsource, _, hnamed, heq⟩, attained, hattained, hown, hdisposition⟩ :=
      h.flow record.phase digest old hold
    rcases hdiffers with hcandidate | hcontradict
    · have hsame : old.candidate = source.candidate := by
        rw [heq]
      exact ⟨source, hsource, hnamed, Or.inr (Or.inl (hsame ▸ hcandidate))⟩
    · exact ⟨attained, hattained, hown, Or.inr (Or.inr (hdisposition ▸ hcontradict))⟩

/-- The invariant after a record that was set aside under a new ordinal. -/
theorem SetAside.invariant (h : FlowInvariant state.total observed state)
    (haside : SetAside state record after) :
    FlowInvariant (state.total + 1) (observed ++ [record]) after := by
  have hleft : ∀ {source}, source ∈ observed → source ∈ observed ++ [record] :=
    fun hmem => List.mem_append_left _ hmem
  have hself : record ∈ observed ++ [record] := by simp
  constructor
  case ordinals =>
    intro phase n found hget
    rw [haside.records, get?_withRecord] at hget
    split at hget
    next hsame =>
      have hn : n = state.total := by simpa using hsame.2
      omega
    next =>
      have hlt := h.ordinals phase n found hget
      omega
  case diagnostic =>
    intro phase n found hget
    rw [haside.records, get?_withRecord] at hget
    split at hget
    next hsame =>
      cases hget
      exact ⟨hself, hsame.1.symm, haside.marked⟩
    next =>
      obtain ⟨hmem, hphase, hmarked⟩ := h.diagnostic phase n found hget
      exact ⟨hleft hmem, hphase, fun connection hnamed =>
        haside.kept _ (hmarked connection hnamed)⟩
  case flow =>
    intro phase connection found hget
    rw [haside.records, get?_withRecord] at hget
    simp only [reduceCtorEq, and_false, if_false] at hget
    obtain ⟨⟨source, hsource, hfacts⟩, attained, hattained, hdisposition⟩ :=
      h.flow phase connection found hget
    exact ⟨⟨source, hleft hsource, hfacts⟩, attained, hleft hattained, hdisposition⟩
  case bound =>
    intro connection binding hget
    rcases haside.binds.added connection binding hget with hbefore | ⟨hnamed, rfl⟩
    · obtain ⟨source, hsource, hfacts⟩ := h.bound connection binding hbefore
      exact ⟨source, hleft hsource, hfacts⟩
    · exact ⟨record, hself, hnamed, rfl⟩
  case tracked =>
    intro source hsource connection hnamed
    rcases List.mem_append.mp hsource with hsource | hsource
    · rcases h.tracked source hsource connection hnamed with hmarked | ⟨hget, old, hold, habsorbs⟩
      · exact Or.inl (haside.kept _ hmarked)
      · right
        refine ⟨haside.binds.kept _ _ hget, old, ?_, habsorbs⟩
        rw [haside.records, get?_withRecord]
        simp only [reduceCtorEq, and_false, if_false]
        exact hold
    · obtain rfl := List.mem_singleton.mp hsource
      exact Or.inl (haside.marked connection hnamed)
  case represented =>
    intro source hsource
    rcases List.mem_append.mp hsource with hsource | hsource
    · obtain ⟨key, old, hold, hfacts⟩ := h.represented source hsource
      have hkey : key ≠ .diagnosticRecord state.total := by
        rintro rfl
        have hlt := h.ordinals _ _ _ hold
        omega
      refine ⟨key, old, ?_, hfacts⟩
      rw [haside.records, get?_withRecord, if_neg (fun hsame => hkey hsame.2)]
      exact hold
    · obtain rfl := List.mem_singleton.mp hsource
      refine ⟨.diagnosticRecord state.total, source, ?_, rfl, rfl⟩
      rw [haside.records, get?_withRecord]
      exact if_pos ⟨rfl, rfl⟩
  case incoherent =>
    intro connection hmem
    rcases haside.added connection hmem with hbefore | ⟨hnamed, hclash⟩
    · obtain ⟨first, hfirst, second, hsecond, hfacts⟩ := h.incoherent connection hbefore
      exact ⟨first, hleft hfirst, second, hleft hsecond, hfacts⟩
    · obtain ⟨source, hsource, hown, hdisagree⟩ := hclash.disagree h
      exact ⟨source, hleft hsource, record, hself, hown, hnamed, hdisagree⟩

theorem observe_invariant (h : FlowInvariant state.total observed state) (record : FlowRecord) :
    FlowInvariant (state.total + 1) (observed ++ [record]) (state.observe record) := by
  have hfresh : (state.flowRecords record.phase).get? (.diagnosticRecord state.total) = none := by
    cases hget : (state.flowRecords record.phase).get? (.diagnosticRecord state.total) with
    | none => rfl
    | some found =>
      have hlt := h.ordinals _ _ _ hget
      omega
  rcases observe_cases hfresh fun key old hold => h.phase hold with ⟨digest, flow, hjoins⟩ | haside
  · exact (hjoins.invariant h).frame rfl rfl rfl (Nat.le_succ _)
  · exact haside.invariant h

end Invariant

end TradeJournalWorker.Lab
