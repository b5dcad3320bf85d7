import TradeJournalWorker.FlowCoherence
import TradeJournalWorker.FlowSetDigests
import TradeJournalWorker.SummaryOrder

namespace TradeJournalWorker.Lab

/-- The events have the phase, the process, the addresses and the ports of one connection. -/
structure SameConnection (first second : CleanEvent) : Prop where
  phase : first.phase = second.phase
  process : processIdentity first = processIdentity second
  localAddress : first.localAddress = second.localAddress
  localPort : first.localPort = second.localPort
  remoteAddress : first.remoteAddress = second.remoteAddress
  remotePort : first.remotePort = second.remotePort

/-- The event has a connection digest, and every TCP event with the same digest is one of the same
connection and does not report the contrary. -/
structure CoherentEvent (env : LabEnv) (clean : List CleanEvent) (event : CleanEvent) : Prop where
  named : event.connectionIdSha256 ≠ none
  agrees : ∀ other ∈ clean, isTcpEvent env other = true →
    other.connectionIdSha256 = event.connectionIdSha256 → SameConnection event other
  oneOutcome : ∀ other ∈ clean, isTcpEvent env other = true →
    other.connectionIdSha256 = event.connectionIdSha256 →
      ¬ Contradict (flowDisposition env.unicode event) (flowDisposition env.unicode other)

/-- The selected TCP events are coherent. -/
def CoherentOn (env : LabEnv) (clean : List CleanEvent) (selected : CleanEvent → Prop) : Prop :=
  ∀ event ∈ clean, isTcpEvent env event = true → selected event → CoherentEvent env clean event

/-- The event is one of C1 to an endpoint of the exact delta. -/
def InDelta (env : LabEnv) (summary : NetworkSummary) (event : CleanEvent) : Prop :=
  event.phase = .c1DiscoveryExact ∧ ∃ endpoint ∈ summary.deltas.discoveryExactOnly,
    endpointOf env event.remoteAddress event.remotePort = .ok (some endpoint)

section Events

variable {env : LabEnv} {candidateText : Option String} {runId : String} {event : CleanEvent}
  {one : SeenEvent} {seen : List SeenEvent} {raw : Members}

/-- The record of a TCP event. -/
structure FlowOf (env : LabEnv) (candidateText : Option String) (event : CleanEvent)
    (endpoint : Option String) (record : FlowRecord) : Prop where
  phase : record.phase = event.phase
  process : processIdentity event = some record.processIdentity
  connection : record.connectionIdSha256 = event.connectionIdSha256
  localAddress : record.localAddress = event.localAddress
  localPort : record.localPort = event.localPort
  remoteAddress : record.remoteAddress = event.remoteAddress
  remotePort : record.remotePort = event.remotePort
  reaches : endpointOf env record.remoteAddress record.remotePort = .ok endpoint
  candidate : record.candidate = decide (endpoint.isSome ∧ endpoint = candidateText)
  disposition : record.disposition = flowDisposition env.unicode event

theorem tcpFlow_ok {endpoint : Option String} {record : FlowRecord}
    (h : tcpFlow env candidateText event = .ok (endpoint, record)) :
    FlowOf env candidateText event endpoint record := by
  unfold tcpFlow at h
  obtain ⟨identity, hidentity, h⟩ := except_bind_eq_ok h
  obtain ⟨found, hfound, h⟩ := except_bind_eq_ok h
  cases h
  exact ⟨rfl, orRaise_eq_ok.mp hidentity, rfl, rfl, rfl, rfl, rfl, hfound, rfl, rfl⟩

/-- A seen event passed its checks, and has a flow exactly if it is a TCP event. -/
structure Sees (env : LabEnv) (candidateText : Option String) (runId : String) (raw : Members)
    (one : SeenEvent) : Prop where
  valid : validateEvent env runId raw = .ok one.event
  tcp : isTcpEvent env one.event = true → ∃ endpoint record, one.flow = some (endpoint, record) ∧
    FlowOf env candidateText one.event endpoint record
  other : isTcpEvent env one.event = false → one.flow = none

theorem seeEvent_ok (h : seeEvent env candidateText runId raw = .ok one) :
    Sees env candidateText runId raw one := by
  unfold seeEvent at h
  obtain ⟨event, hvalid, h⟩ := except_bind_eq_ok h
  cases htcp : isTcpEvent env event with
  | true =>
    rw [htcp, if_pos rfl] at h
    obtain ⟨⟨endpoint, record⟩, hflow, h⟩ := except_bind_eq_ok h
    cases h
    refine ⟨hvalid, fun _ => ⟨endpoint, record, rfl, tcpFlow_ok hflow⟩, fun hnot => ?_⟩
    rw [htcp] at hnot
    cases hnot
  | false =>
    rw [htcp] at h
    cases h
    refine ⟨hvalid, fun hyes => ?_, fun _ => rfl⟩
    rw [htcp] at hyes
    cases hyes

theorem Sees.network (h : Sees env candidateText runId raw one) (hflow : one.flow ≠ none) :
    one.event.category = .network := by
  cases htcp : isTcpEvent env one.event with
  | true =>
    unfold isTcpEvent at htcp
    exact decide_eq_true_eq.mp (Bool.and_eq_true_iff.mp htcp).1
  | false => exact absurd (h.other htcp) hflow

theorem mem_tcpRecords {record : FlowRecord} : record ∈ tcpRecords seen ↔
    ∃ one ∈ seen, ∃ endpoint, one.flow = some (endpoint, record) := by
  unfold tcpRecords
  rw [List.mem_filterMap]
  simp only [Option.map_eq_some_iff, Prod.exists, exists_eq_right]

variable (hsees : ∀ one ∈ seen, ∃ raw, Sees env candidateText runId raw one)

include hsees

theorem exists_flowOf {record : FlowRecord} (h : record ∈ tcpRecords seen) :
    ∃ one ∈ seen, ∃ endpoint, FlowOf env candidateText one.event endpoint record := by
  obtain ⟨one, hone, endpoint, hflow⟩ := mem_tcpRecords.mp h
  obtain ⟨raw, hraw⟩ := hsees one hone
  cases htcp : isTcpEvent env one.event with
  | true =>
    obtain ⟨found, other, hother, hof⟩ := hraw.tcp htcp
    rw [hflow] at hother
    cases hother
    exact ⟨one, hone, endpoint, hof⟩
  | false =>
    rw [hraw.other htcp] at hflow
    cases hflow

/-- The classification follows from the connection. -/
theorem candidate_of_binding : ∀ first ∈ tcpRecords seen, ∀ second ∈ tcpRecords seen,
    first.binding = second.binding → first.candidate = second.candidate := by
  intro first hfirst second hsecond hbinding
  obtain ⟨_, _, endpoint, hof⟩ := exists_flowOf hsees hfirst
  obtain ⟨_, _, endpoint', hof'⟩ := exists_flowOf hsees hsecond
  have haddress : first.remoteAddress = second.remoteAddress :=
    congrArg ConnectionBinding.remoteAddress hbinding
  have hport : first.remotePort = second.remotePort :=
    congrArg ConnectionBinding.remotePort hbinding
  have hendpoint := hof.reaches
  rw [haddress, hport, hof'.reaches] at hendpoint
  cases hendpoint
  rw [hof.candidate, hof'.candidate]

/-- The events are coherent where their records are. -/
theorem coherentEvent_of_record {endpoint : Option String} {record : FlowRecord}
    (hof : FlowOf env candidateText event endpoint record)
    (hcoherent : CoherentRecord (tcpRecords seen) record) :
    CoherentEvent env (seen.map SeenEvent.event) event := by
  have hothers : ∀ other ∈ seen.map SeenEvent.event, isTcpEvent env other = true →
      other.connectionIdSha256 = event.connectionIdSha256 →
        ∃ place found, FlowOf env candidateText other place found ∧
          record.binding = found.binding ∧ ¬ Contradict record.disposition found.disposition := by
    intro other hother htcp hsame
    obtain ⟨one, hone, rfl⟩ := List.mem_map.mp hother
    obtain ⟨raw, hraw⟩ := hsees one hone
    obtain ⟨place, found, hflow, hfound⟩ := hraw.tcp htcp
    have hnamed : found.connectionIdSha256 = record.connectionIdSha256 := by
      rw [hfound.connection, hof.connection, hsame]
    have hagrees := hcoherent.agrees found (mem_tcpRecords.mpr ⟨one, hone, place, hflow⟩) hnamed
    exact ⟨place, found, hfound, hagrees⟩
  constructor
  · rw [← hof.connection]
    exact hcoherent.named
  · intro other hother htcp hsame
    obtain ⟨place, found, hfound, hbinding, _⟩ := hothers other hother htcp hsame
    unfold FlowRecord.binding at hbinding
    simp only [ConnectionBinding.mk.injEq, hof.phase, hof.localAddress, hof.localPort,
      hof.remoteAddress, hof.remotePort, hfound.phase, hfound.localAddress, hfound.localPort,
      hfound.remoteAddress, hfound.remotePort] at hbinding
    obtain ⟨hphase, hprocess, haddress, hport, hremote, hremotePort⟩ := hbinding
    refine ⟨hphase, ?_, haddress, hport, hremote, hremotePort⟩
    rw [hof.process, hfound.process, hprocess]
  · intro other hother htcp hsame
    obtain ⟨place, found, hfound, _, hcontradict⟩ := hothers other hother htcp hsame
    rw [hof.disposition, hfound.disposition] at hcontradict
    exact hcontradict

end Events

section Loops

variable {env : LabEnv} {candidateText : Option String} {runId : String} {events : List Members}
  {state : FlowState}

/-- The loop of a summary: what it saw, in its order, and the state it ended with. -/
structure Loop (env : LabEnv) (candidateText : Option String) (runId : String)
    (events : List Members) (seen : List SeenEvent) (state : FlowState) : Prop where
  room : events.length ≤ maxEvents
  checked : events.mapM (seeEvent env candidateText runId) = .ok seen
  final : state = seen.foldl FlowState.see {}

theorem loop_iff : collectEvents env candidateText runId {} events = .ok state ↔
    ∃ seen, Loop env candidateText runId events seen state := by
  have hroom : ({} : FlowState).total ≤ maxEvents := Nat.zero_le _
  rw [collectEvents_ok_iff hroom]
  have hzero : ({} : FlowState).total + events.length = events.length := Nat.zero_add _
  rw [hzero]
  constructor
  · rintro ⟨hlength, seen, hseen, hfinal⟩
    exact ⟨seen, hlength, hseen, hfinal⟩
  · rintro ⟨seen, hlength, hseen, hfinal⟩
    exact ⟨hlength, seen, hseen, hfinal⟩

namespace Loop

variable {seen : List SeenEvent} (h : Loop env candidateText runId events seen state)

include h

theorem sees : ∀ one ∈ seen, ∃ raw, Sees env candidateText runId raw one := by
  intro one hone
  obtain ⟨raw, _, hraw⟩ := exists_of_mem_right (forall₂_of_mapM h.checked) hone
  exact ⟨raw, seeEvent_ok hraw⟩

theorem clean : events.mapM (validateEvent env runId) = .ok (seen.map SeenEvent.event) := by
  apply mapM_of_forall₂
  rw [List.forall₂_map_right_iff]
  exact (forall₂_of_mapM h.checked).imp fun raw one hone => (seeEvent_ok hone).valid

theorem invariant : FlowInvariant (state.total + 1) (tcpRecords seen) state := by
  have hstart : FlowInvariant (({} : FlowState).total + 1) [] {} :=
    flowInvariant_start.frame rfl rfl rfl (Nat.zero_le _)
  have hnetwork : ∀ one ∈ seen, one.flow ≠ none → one.event.category = .network := by
    intro one hone hflow
    obtain ⟨raw, hraw⟩ := h.sees one hone
    exact hraw.network hflow
  have hrun := run_invariant hnetwork hstart
  rw [List.nil_append, ← h.final] at hrun
  exact hrun

/-- An event whose flows are all verified is coherent. -/
theorem coherentEvent {selected : CleanEvent → Prop}
    (hverified : ∀ one ∈ seen, selected one.event → ∀ endpoint record,
      one.flow = some (endpoint, record) → FlowOf env candidateText one.event endpoint record →
      ∀ key found, (state.flowRecords record.phase).get? key = some found →
        found.binding = record.binding → ∃ digest, found.connectionIdSha256 = some digest ∧
          digest ∉ state.incoherentConnectionIds) :
    CoherentOn env (seen.map SeenEvent.event) selected := by
  intro event hevent htcp hselected
  obtain ⟨one, hone, rfl⟩ := List.mem_map.mp hevent
  obtain ⟨raw, hraw⟩ := h.sees one hone
  obtain ⟨endpoint, record, hflow, hof⟩ := hraw.tcp htcp
  have hmem := mem_tcpRecords.mpr ⟨one, hone, endpoint, hflow⟩
  exact coherentEvent_of_record h.sees hof (coherent_of_verified h.invariant hmem
    (hverified one hone hselected endpoint record hflow hof))

/-- Coherent events in another order end in a state that is alike. -/
theorem alike {others : List Members} {order : List SeenEvent} {other : FlowState}
    (hcoherent : ∀ record ∈ tcpRecords seen, CoherentRecord (tcpRecords seen) record)
    (hother : Loop env candidateText runId others order other) (hperm : order.Perm seen) :
    Alike state other := by
  have hrecords : ∀ record, record ∈ tcpRecords seen ↔ record ∈ tcpRecords order := by
    intro record
    simp only [mem_tcpRecords, hperm.mem_iff]
  have hids := no_incoherent h.invariant (candidate_of_binding h.sees) hcoherent
  have hids' : ∀ digest, digest ∉ other.incoherentConnectionIds := by
    refine no_incoherent hother.invariant (candidate_of_binding hother.sees) ?_
    intro record hrecord
    have hold := hcoherent record ((hrecords record).mpr hrecord)
    exact ⟨hold.named, fun found hfound => hold.agrees found ((hrecords found).mpr hfound)⟩
  have hflows := flows_eq h.invariant hother.invariant hrecords (candidate_of_binding h.sees)
    hcoherent
  have hcounter : ∀ (count : FlowState → Nat) {weight : SeenEvent → Nat},
      (∀ state one, count (FlowState.see state one) = count state + weight one) →
        count other = count state := by
    intro count weight hstep
    rw [h.final, hother.final]
    exact counter_perm hstep hperm {}
  constructor
  · exact hcounter FlowState.total see_total
  · funext phase
    exact hcounter (fun state => state.networkCounts phase) fun state one =>
      see_networkCounts state one phase
  · funext phase
    exact hcounter (fun state => state.nonTcpNetworkCounts phase) fun state one =>
      see_nonTcpNetworkCounts state one phase
  · funext phase
    exact hcounter (fun state => state.dnsCounts phase) fun state one =>
      see_dnsCounts state one phase
  · funext phase
    exact hcounter (fun state => state.candidateCounts phase) fun state one =>
      see_candidateCounts state one phase
  · exact hcounter FlowState.unphasedRelevant see_unphasedRelevant
  · intro phase
    rw [h.final, hother.final]
    exact endpoints_perm hperm phase
  · intro phase
    have hmarks : ∀ digest, (digest ∈ other.incoherentConnectionIds) =
        (digest ∈ state.incoherentConnectionIds) :=
      fun digest => propext ⟨fun hm => absurd hm (hids' digest), fun hm => absurd hm (hids digest)⟩
    unfold FlowState.records
    simp only [hmarks]
    exact (OrderedDict.values_perm (hflows phase)).map _

end Loop

end Loops

section Summaries

variable {env : LabEnv} {events others : List Members} {runId sourceSha256 : String}
  {candidate : Option JsonValue} {candidateText : Option String} {summary : NetworkSummary}
  {state : FlowState} {seen : List SeenEvent}
  {accounting : List (NetworkPhase × PhaseAccounting)}

/-- How a summary was made. -/
structure Summarized (env : LabEnv) (events : List Members) (runId : String)
    (candidate : Option JsonValue) (sourceSha256 : String) (summary : NetworkSummary)
    (candidateText : Option String) (seen : List SeenEvent) (state : FlowState)
    (accounting : List (NetworkPhase × PhaseAccounting)) : Prop where
  run : validateSummaryRunId runId = .ok ()
  source : isSha256 sourceSha256 = true
  wanted : summaryCandidate env candidate = .ok candidateText
  loop : Loop env candidateText runId events seen state
  phases : NetworkPhase.all.mapM (phaseAccounting state) = .ok accounting
  made : summary = summaryOf env runId state sourceSha256 candidateText accounting
  allowed : rejectSensitiveContent env.unicode [] summary.json = .ok ()

theorem summarizeEvents_iff :
    summarizeEvents env events runId candidate sourceSha256 = .ok summary ↔
      ∃ candidateText seen state accounting, Summarized env events runId candidate sourceSha256
        summary candidateText seen state accounting := by
  constructor
  · intro h
    unfold summarizeEvents at h
    obtain ⟨⟨⟩, hrun, h⟩ := except_bind_eq_ok h
    obtain ⟨⟨⟩, hsource, h⟩ := except_bind_eq_ok h
    obtain ⟨candidateText, hcandidate, h⟩ := except_bind_eq_ok h
    obtain ⟨state, hloop, h⟩ := except_bind_eq_ok h
    obtain ⟨accounting, hphases, h⟩ := except_bind_eq_ok h
    obtain ⟨⟨⟩, hallowed, h⟩ := except_bind_eq_ok h
    cases h
    obtain ⟨seen, hseen⟩ := loop_iff.mp hloop
    exact ⟨candidateText, seen, state, accounting, hrun, demand_eq_ok.mp hsource, hcandidate,
      hseen, hphases, rfl, hallowed⟩
  · rintro ⟨candidateText, seen, state, accounting, h⟩
    have hloop := loop_iff.mpr ⟨seen, h.loop⟩
    have hallowed := h.allowed
    rw [h.made] at hallowed
    unfold summarizeEvents
    rw [h.run, demand_eq_ok.mpr h.source, h.wanted]
    simp only [bind, Except.bind]
    rw [hloop]
    simp only
    rw [h.phases]
    simp only
    rw [hallowed, h.made]
    rfl

theorem verified_found {verified : VerifiedRecord} {phase : NetworkPhase}
    (hmem : verified ∈ state.records phase) (h : verified.connectionBindingVerified = true) :
    ∃ digest, verified.record.connectionIdSha256 = some digest ∧
      digest ∉ state.incoherentConnectionIds := by
  obtain ⟨record, _, rfl⟩ := List.mem_map.mp hmem
  dsimp only at h
  split at h
  next digest hdigest => exact ⟨digest, hdigest, by simpa using h⟩
  next => cases h

theorem mem_records {phase : NetworkPhase} {key : FlowKey} {found : FlowRecord}
    (hget : (state.flowRecords phase).get? key = some found) :
    ∃ verified ∈ state.records phase, verified.record = found :=
  ⟨_, List.mem_map_of_mem (OrderedDict.mem_values.mpr ⟨key, hget⟩), rfl⟩

namespace Summarized

variable (h : Summarized env events runId candidate sourceSha256 summary candidateText seen state
  accounting)

include h

/-- The flag of a phase covers the events of the phase. -/
theorem phase_coherent {entry : NetworkPhase × PhaseAccounting}
    (hentry : entry ∈ summary.flowAccountingByPhase)
    (hverified : entry.2.flowRecordsVerified = true) :
    CoherentOn env (seen.map SeenEvent.event) fun event => event.phase = entry.1 := by
  rw [h.made] at hentry
  obtain ⟨phase, _, hphase⟩ := exists_of_mem_right (forall₂_of_mapM h.phases) hentry
  unfold phaseAccounting at hphase
  obtain ⟨⟨⟩, _, hphase⟩ := except_bind_eq_ok hphase
  obtain ⟨⟨⟩, _, hphase⟩ := except_bind_eq_ok hphase
  obtain ⟨⟨⟩, _, hphase⟩ := except_bind_eq_ok hphase
  cases hphase
  refine h.loop.coherentEvent fun one hone hselected endpoint record hflow hof key found hget
    hbinding => ?_
  have hplace : record.phase = phase := hof.phase.trans hselected
  rw [hplace] at hget
  obtain ⟨verified, hmem, rfl⟩ := mem_records hget
  exact verified_found hmem (List.all_eq_true.mp hverified verified hmem)

theorem mem_all (phase : NetworkPhase) : phase ∈ NetworkPhase.all := by
  cases phase <;> decide

/-- The flag of the whole set covers every record. -/
theorem records_coherent (hverified : summary.flowRecordSetVerified = true) :
    ∀ record ∈ tcpRecords seen, CoherentRecord (tcpRecords seen) record := by
  rw [h.made] at hverified
  intro record hrecord
  refine coherent_of_verified h.loop.invariant hrecord fun key found hget _ => ?_
  obtain ⟨verified, hmem, rfl⟩ := mem_records hget
  exact verified_found hmem (List.all_eq_true.mp hverified verified
    (List.mem_flatMap.mpr ⟨record.phase, mem_all h record.phase, hmem⟩))

theorem set_coherent (hverified : summary.flowRecordSetVerified = true) :
    CoherentOn env (seen.map SeenEvent.event) fun _ => True := by
  intro event hevent htcp _
  obtain ⟨one, hone, rfl⟩ := List.mem_map.mp hevent
  obtain ⟨raw, hraw⟩ := h.loop.sees one hone
  obtain ⟨endpoint, record, hflow, hof⟩ := hraw.tcp htcp
  have hmem := mem_tcpRecords.mpr ⟨one, hone, endpoint, hflow⟩
  exact coherentEvent_of_record h.loop.sees hof (h.records_coherent hverified record hmem)

/-- The flag of the delta covers the events to its endpoints. -/
theorem delta_coherent {source : FlowSetSource} (hsource : summary.discoveryDeltaSource = some source)
    (hverified : source.verified = true) :
    CoherentOn env (seen.map SeenEvent.event) (InDelta env summary) := by
  have hdelta : discoveryDeltaSource env runId state = some source := by
    rw [h.made] at hsource
    exact hsource
  unfold discoveryDeltaSource at hdelta
  dsimp only at hdelta
  split at hdelta
  next => cases hdelta
  next =>
    cases hdelta
    refine h.loop.coherentEvent fun one hone hselected endpoint record hflow hof key found hget
      hbinding => ?_
    obtain ⟨hphase, text, htext, hreaches⟩ := hselected
    rw [hof.phase.trans hphase] at hget
    obtain ⟨verified, hmem, rfl⟩ := mem_records hget
    have haddress : verified.record.remoteAddress = one.event.remoteAddress :=
      (congrArg ConnectionBinding.remoteAddress hbinding).trans hof.remoteAddress
    have hport : verified.record.remotePort = one.event.remotePort :=
      (congrArg ConnectionBinding.remotePort hbinding).trans hof.remotePort
    have hinside : text ∈ exactDeltaEndpoints state := by
      rw [h.made] at htext
      exact (List.perm_insertionSort _ _).mem_iff.mp htext
    have hin : inExactDelta env state verified = true := by
      unfold inExactDelta
      rw [haddress, hport, hreaches]
      simpa using hinside
    exact verified_found hmem (List.all_eq_true.mp hverified verified
      (List.mem_filter.mpr ⟨hmem, hin⟩))

/-- Where the whole set is verified, the events in another order give the same summary. -/
theorem summary_perm (hverified : summary.flowRecordSetVerified = true)
    (hperm : others.Perm events) :
    summarizeEvents env others runId candidate sourceSha256 = .ok summary := by
  obtain ⟨order, horder, hsame⟩ := mapM_perm h.loop.checked hperm
  have hlength : others.length ≤ maxEvents := by
    rw [hperm.length_eq]
    exact h.loop.room
  have hother : Loop env candidateText runId others order (order.foldl FlowState.see {}) :=
    ⟨hlength, horder, rfl⟩
  have halike := h.loop.alike (h.records_coherent hverified) hother hsame
  have hphases : phaseAccounting (order.foldl FlowState.see {}) = phaseAccounting state :=
    funext fun phase => halike.phaseAccounting_eq phase
  refine summarizeEvents_iff.mpr ⟨candidateText, order, _, accounting, h.run, h.source, h.wanted,
    hother, hphases ▸ h.phases, ?_, h.allowed⟩
  rw [halike.summaryOf_eq]
  exact h.made

end Summarized

end Summaries

/-- A verified flag is true of coherent events only, and where the whole set is verified the order
of the events does not matter. -/
theorem verified_means_coherent {env : LabEnv} {events : List Members}
    {runId sourceSha256 : String} {candidate : Option JsonValue} {summary : NetworkSummary}
    (h : summarizeEvents env events runId candidate sourceSha256 = .ok summary) :
    ∃ clean, events.mapM (validateEvent env runId) = .ok clean ∧
      (summary.flowRecordSetVerified = true → CoherentOn env clean (fun _ => True) ∧
        ∀ others : List Members, others.Perm events →
          summarizeEvents env others runId candidate sourceSha256 = .ok summary) ∧
      (∀ entry ∈ summary.flowAccountingByPhase, entry.2.flowRecordsVerified = true →
        CoherentOn env clean fun event => event.phase = entry.1) ∧
      ∀ source, summary.discoveryDeltaSource = some source → source.verified = true →
        CoherentOn env clean (InDelta env summary) := by
  obtain ⟨candidateText, seen, state, accounting, hsummarized⟩ := summarizeEvents_iff.mp h
  refine ⟨seen.map SeenEvent.event, hsummarized.loop.clean, ?_, ?_, ?_⟩
  · intro hverified
    exact ⟨hsummarized.set_coherent hverified, fun others hperm =>
      hsummarized.summary_perm hverified hperm⟩
  · exact fun entry hentry hverified => hsummarized.phase_coherent hentry hverified
  · exact fun source hsource hverified => hsummarized.delta_coherent hsource hverified

/-- The attempt that became the connection of `discoveryEvent`. -/
def attemptEvent : Members :=
  discoveryEvent.map fun member => (member.1, if member.1 = "status" then .null else member.2)

set_option maxRecDepth 10000 in
theorem attempt_summarized : (match summarizeEvents discoveryEnv [attemptEvent, discoveryEvent]
      "00000000-0000-4000-8000-000000000001" none machineDigest with
    | .ok summary => summary.flowRecordSetVerified
    | .error _ => false) = true := by
  decide +kernel

theorem verified_means_coherent_attempt : ∃ summary,
    summarizeEvents discoveryEnv [attemptEvent, discoveryEvent]
      "00000000-0000-4000-8000-000000000001" none machineDigest = .ok summary ∧
    summarizeEvents discoveryEnv [discoveryEvent, attemptEvent]
      "00000000-0000-4000-8000-000000000001" none machineDigest = .ok summary := by
  have hsummarized := attempt_summarized
  split at hsummarized
  next summary hsummary =>
    obtain ⟨clean, _, hset, _, _⟩ := verified_means_coherent hsummary
    exact ⟨summary, hsummary, (hset hsummarized).2 _ (List.Perm.swap _ _ _)⟩
  next => cases hsummarized

end TradeJournalWorker.Lab
