import TradeJournalWorker.ExceptRules
import TradeJournalWorker.FlowLoop

namespace TradeJournalWorker.Lab

/-- The event takes part in the TCP accounting. -/
def isTcpEvent (env : LabEnv) (event : CleanEvent) : Bool :=
  event.category = .network && isTcp env.unicode event.protocol

/-- The endpoint and the flow record of a TCP event. -/
def tcpFlow (env : LabEnv) (candidateText : Option String) (event : CleanEvent) :
    Except String (Option String × FlowRecord) := do
  let identity ← orRaise (processIdentity event)
    "sanitized TCP event lacks process-scoped attribution"
  let endpoint ← endpointOf env event.remoteAddress event.remotePort
  return (endpoint, {
    phase := event.phase, processIdentity := identity
    connectionIdSha256 := event.connectionIdSha256, localAddress := event.localAddress
    localPort := event.localPort, remoteAddress := event.remoteAddress
    remotePort := event.remotePort
    candidate := decide (endpoint.isSome ∧ endpoint = candidateText)
    disposition := flowDisposition env.unicode event })

/-- An event that passed its checks, with the flow record of a TCP event. -/
structure SeenEvent where
  event : CleanEvent
  flow : Option (Option String × FlowRecord)

def seeEvent (env : LabEnv) (candidateText : Option String) (runId : String) (raw : Members) :
    Except String SeenEvent := do
  let event ← validateEvent env runId raw
  if isTcpEvent env event then do
    let flow ← tcpFlow env candidateText event
    return ⟨event, some flow⟩
  else return ⟨event, none⟩

section Tallies

/-- The variables of the loop that only count. -/
def FlowState.tallies (state : FlowState) :=
  (state.total, state.endpoints, state.networkCounts, state.nonTcpNetworkCounts, state.dnsCounts,
    state.candidateCounts, state.unphasedRelevant)

theorem addIncoherent_tallies (state : FlowState) (digest : Option String) :
    (state.addIncoherent digest).tallies = state.tallies := by
  unfold FlowState.addIncoherent
  split <;> rfl

theorem bindConnection_tallies (state : FlowState) (digest : Option String)
    (binding : ConnectionBinding) :
    (state.bindConnection digest binding).tallies = state.tallies := by
  unfold FlowState.bindConnection
  split
  next => rfl
  next =>
    split
    next => rfl
    next =>
      split
      next => rfl
      next => exact addIncoherent_tallies _ _

theorem observe_tallies (state : FlowState) (record : FlowRecord) :
    (state.observe record).tallies = state.tallies := by
  unfold FlowState.observe FlowState.addRecord
  rw [← bindConnection_tallies state record.connectionIdSha256 record.binding]
  generalize state.bindConnection record.connectionIdSha256 record.binding = middle
  dsimp only
  have haside : (middle.putDiagnostic record).tallies = middle.tallies :=
    addIncoherent_tallies middle record.connectionIdSha256
  split
  next => rfl
  next =>
    split
    next => exact haside
    next =>
      split
      next => rfl
      next => exact haside

@[simp] theorem observe_total (state : FlowState) (record : FlowRecord) :
    (state.observe record).total = state.total :=
  congrArg (fun tallies => tallies.1) (observe_tallies state record)

@[simp] theorem observe_endpoints (state : FlowState) (record : FlowRecord) :
    (state.observe record).endpoints = state.endpoints :=
  congrArg (fun tallies => tallies.2.1) (observe_tallies state record)

@[simp] theorem observe_networkCounts (state : FlowState) (record : FlowRecord) :
    (state.observe record).networkCounts = state.networkCounts :=
  congrArg (fun tallies => tallies.2.2.1) (observe_tallies state record)

@[simp] theorem observe_nonTcpNetworkCounts (state : FlowState) (record : FlowRecord) :
    (state.observe record).nonTcpNetworkCounts = state.nonTcpNetworkCounts :=
  congrArg (fun tallies => tallies.2.2.2.1) (observe_tallies state record)

@[simp] theorem observe_dnsCounts (state : FlowState) (record : FlowRecord) :
    (state.observe record).dnsCounts = state.dnsCounts :=
  congrArg (fun tallies => tallies.2.2.2.2.1) (observe_tallies state record)

@[simp] theorem observe_candidateCounts (state : FlowState) (record : FlowRecord) :
    (state.observe record).candidateCounts = state.candidateCounts :=
  congrArg (fun tallies => tallies.2.2.2.2.2.1) (observe_tallies state record)

@[simp] theorem observe_unphasedRelevant (state : FlowState) (record : FlowRecord) :
    (state.observe record).unphasedRelevant = state.unphasedRelevant :=
  congrArg (fun tallies => tallies.2.2.2.2.2.2) (observe_tallies state record)

/-- The part of a step that only a TCP event takes. -/
def FlowState.seeTcp (state : FlowState) (phase : NetworkPhase)
    (flow : Option String × FlowRecord) : FlowState :=
  ((state.addEndpoint phase flow.1).countCandidate phase flow.2.candidate).observe flow.2

section TcpStep

variable (state : FlowState) (phase : NetworkPhase) (flow : Option String × FlowRecord)

/-- A TCP event touches neither the other counters nor the ordinal. -/
theorem seeTcp_frame : (state.seeTcp phase flow).total = state.total ∧
    (state.seeTcp phase flow).networkCounts = state.networkCounts ∧
    (state.seeTcp phase flow).nonTcpNetworkCounts = state.nonTcpNetworkCounts ∧
    (state.seeTcp phase flow).dnsCounts = state.dnsCounts ∧
    (state.seeTcp phase flow).unphasedRelevant = state.unphasedRelevant := by
  obtain ⟨endpoint, record⟩ := flow
  unfold FlowState.seeTcp FlowState.addEndpoint FlowState.countCandidate
  cases endpoint <;> cases record.candidate <;> simp

theorem seeTcp_candidateCounts (other : NetworkPhase) :
    (state.seeTcp phase flow).candidateCounts other =
      state.candidateCounts other + if flow.2.candidate ∧ other = phase then 1 else 0 := by
  obtain ⟨endpoint, record⟩ := flow
  unfold FlowState.seeTcp FlowState.addEndpoint FlowState.countCandidate bump
  cases endpoint <;> cases record.candidate <;> simp <;> split <;> rfl

theorem seeTcp_endpoints (other : NetworkPhase) :
    (state.seeTcp phase flow).endpoints other =
      match flow.1 with
      | some text => if other = phase then (state.endpoints other).insert text
          else state.endpoints other
      | none => state.endpoints other := by
  obtain ⟨endpoint, record⟩ := flow
  unfold FlowState.seeTcp FlowState.addEndpoint FlowState.countCandidate
  cases endpoint <;> cases record.candidate <;> simp

end TcpStep

/-- What a seen event adds to the loop. -/
def FlowState.see (state : FlowState) (seen : SeenEvent) : FlowState :=
  let counted := { state with total := state.total + 1 }.countDns seen.event
  if seen.event.category = .network then
    let network := counted.countNetwork seen.event
    match seen.flow with
    | some flow => network.seeTcp seen.event.phase flow
    | none => { network with
        nonTcpNetworkCounts := bump network.nonTcpNetworkCounts seen.event.phase }
  else counted

theorem bump_apply (counts : NetworkPhase → Nat) (phase other : NetworkPhase) :
    bump counts phase other = counts other + if other = phase then 1 else 0 := by
  unfold bump
  split <;> rfl

section Step

variable (state : FlowState) (seen : SeenEvent) (phase : NetworkPhase)

theorem see_total : (state.see seen).total = state.total + 1 := by
  obtain ⟨event, flow⟩ := seen
  unfold FlowState.see FlowState.countDns FlowState.countNetwork
  cases hcategory : event.category <;> cases flow <;> simp [seeTcp_frame]

theorem see_dnsCounts : (state.see seen).dnsCounts phase = state.dnsCounts phase +
    if seen.event.category = .dns ∧ phase = seen.event.phase then 1 else 0 := by
  obtain ⟨event, flow⟩ := seen
  unfold FlowState.see FlowState.countDns FlowState.countNetwork
  cases hcategory : event.category <;> cases flow <;> simp [seeTcp_frame, bump_apply]

theorem see_networkCounts : (state.see seen).networkCounts phase = state.networkCounts phase +
    if seen.event.category = .network ∧ phase = seen.event.phase then 1 else 0 := by
  obtain ⟨event, flow⟩ := seen
  unfold FlowState.see FlowState.countDns FlowState.countNetwork
  cases hcategory : event.category <;> cases flow <;> simp [seeTcp_frame, bump_apply]

theorem see_nonTcpNetworkCounts :
    (state.see seen).nonTcpNetworkCounts phase = state.nonTcpNetworkCounts phase +
      if seen.event.category = .network ∧ seen.flow.isNone ∧ phase = seen.event.phase then 1
      else 0 := by
  obtain ⟨event, flow⟩ := seen
  unfold FlowState.see FlowState.countDns FlowState.countNetwork
  cases hcategory : event.category <;> cases flow <;> simp [seeTcp_frame, bump_apply]

theorem see_candidateCounts :
    (state.see seen).candidateCounts phase = state.candidateCounts phase +
      if seen.event.category = .network ∧ (seen.flow.any fun flow => flow.2.candidate) ∧
        phase = seen.event.phase then 1 else 0 := by
  obtain ⟨event, flow⟩ := seen
  unfold FlowState.see FlowState.countDns FlowState.countNetwork
  cases hcategory : event.category <;> cases flow <;> simp [seeTcp_candidateCounts]

theorem see_unphasedRelevant :
    (state.see seen).unphasedRelevant = state.unphasedRelevant +
      if (seen.event.category = .dns ∨ seen.event.category = .network) ∧
        seen.event.phase = .unphased then 1 else 0 := by
  obtain ⟨event, flow⟩ := seen
  unfold FlowState.see FlowState.countDns FlowState.countNetwork
  cases hcategory : event.category <;> cases flow <;> simp [seeTcp_frame]

/-- The event puts this endpoint into the set of the phase. -/
def Reaches (seen : SeenEvent) (phase : NetworkPhase) (text : String) : Prop :=
  seen.event.category = .network ∧ seen.event.phase = phase ∧
    ∃ record, seen.flow = some (some text, record)

theorem mem_see_endpoints {text : String} : text ∈ (state.see seen).endpoints phase ↔
    text ∈ state.endpoints phase ∨ Reaches seen phase text := by
  obtain ⟨event, flow⟩ := seen
  unfold FlowState.see FlowState.countDns FlowState.countNetwork Reaches
  cases hcategory : event.category <;> rcases flow with _ | ⟨_ | _, _⟩ <;>
    simp [seeTcp_endpoints]
  by_cases hphase : phase = event.phase
  · rw [if_pos hphase, List.mem_insert_iff]
    simp [hphase, or_comm, eq_comm]
  · rw [if_neg hphase]
    simp [Ne.symm hphase]

theorem see_endpoints_nodup (h : (state.endpoints phase).Nodup) :
    ((state.see seen).endpoints phase).Nodup := by
  obtain ⟨event, flow⟩ := seen
  unfold FlowState.see FlowState.countDns FlowState.countNetwork
  cases hcategory : event.category <;> rcases flow with _ | ⟨_ | _, _⟩ <;>
    simp [seeTcp_endpoints, h]
  split
  · exact h.insert
  · exact h

end Step

section Orders

variable {seen others : List SeenEvent}

/-- A counter that each event raises by its own weight ends the same in every order. -/
theorem counter_perm {count : FlowState → Nat} {weight : SeenEvent → Nat}
    (hstep : ∀ state one, count (state.see one) = count state + weight one)
    (hperm : others.Perm seen) (start : FlowState) :
    count (others.foldl FlowState.see start) = count (seen.foldl FlowState.see start) := by
  have hsum : ∀ (events : List SeenEvent) (state : FlowState),
      count (events.foldl FlowState.see state) = count state + (events.map weight).sum := by
    intro events
    induction events with
    | nil => simp
    | cons one rest ih =>
      intro state
      rw [List.foldl_cons, ih, hstep, List.map_cons, List.sum_cons]
      omega
  rw [hsum, hsum, (hperm.map weight).sum_nat]

theorem mem_endpoints (phase : NetworkPhase) (text : String) (start : FlowState) :
    text ∈ (seen.foldl FlowState.see start).endpoints phase ↔
      text ∈ start.endpoints phase ∨ ∃ one ∈ seen, Reaches one phase text := by
  induction seen generalizing start with
  | nil => simp
  | cons one rest ih =>
    rw [List.foldl_cons, ih, mem_see_endpoints]
    simp only [List.exists_mem_cons_iff, or_assoc]

theorem endpoints_nodup (phase : NetworkPhase) (start : FlowState)
    (h : (start.endpoints phase).Nodup) :
    ((seen.foldl FlowState.see start).endpoints phase).Nodup := by
  induction seen generalizing start with
  | nil => exact h
  | cons one rest ih => exact ih _ (see_endpoints_nodup start one phase h)

theorem endpoints_perm (hperm : others.Perm seen) (phase : NetworkPhase) :
    ((others.foldl FlowState.see {}).endpoints phase).Perm
      ((seen.foldl FlowState.see {}).endpoints phase) := by
  have hnone : ((({} : FlowState).endpoints phase)).Nodup := List.nodup_nil
  rw [List.perm_ext_iff_of_nodup (endpoints_nodup phase {} hnone) (endpoints_nodup phase {} hnone)]
  intro text
  rw [mem_endpoints, mem_endpoints]
  simp only [hperm.mem_iff]

end Orders

end Tallies

section Collecting

variable {env : LabEnv} {candidateText : Option String} {runId : String}

theorem addTcpEvent_eq (state : FlowState) (event : CleanEvent) :
    addTcpEvent env candidateText state event =
      (tcpFlow env candidateText event).map (state.seeTcp event.phase) := by
  unfold addTcpEvent tcpFlow
  cases processIdentity event with
  | none => rfl
  | some identity =>
    cases endpointOf env event.remoteAddress event.remotePort with
    | error error => rfl
    | ok endpoint => rfl

/-- One turn of the loop is the checks of its event, then the step. -/
theorem turn_eq (state : FlowState) (raw : Members) :
    (validateEvent env runId raw >>= fun clean =>
      addEvent env candidateText { state with total := state.total + 1 } clean) =
      (seeEvent env candidateText runId raw).map state.see := by
  unfold seeEvent
  cases validateEvent env runId raw with
  | error error => rfl
  | ok event =>
    show addEvent env candidateText _ event = Except.map state.see (if isTcpEvent env event then _
      else _)
    unfold addEvent isTcpEvent FlowState.see
    by_cases hnetwork : event.category = .network
    · cases htcp : isTcp env.unicode event.protocol with
      | true =>
        simp only [hnetwork, if_true, decide_true, Bool.and_self]
        rw [addTcpEvent_eq]
        cases tcpFlow env candidateText event with
        | error error => rfl
        | ok flow =>
          simp only [Except.map, bind, Except.bind, pure, Except.pure, hnetwork, if_true]
      | false =>
        simp [hnetwork, Except.map, pure, Except.pure]
    · simp [hnetwork, Except.map, pure, Except.pure]

theorem collectEvents_cons (state : FlowState) (raw : Members) (rest : List Members) :
    collectEvents env candidateText runId state (raw :: rest) =
      (demand (state.total + 1 ≤ maxEvents)
        "sanitized event count exceeds the offline safety limit" >>= fun _ =>
      (seeEvent env candidateText runId raw).map state.see >>= fun next =>
        collectEvents env candidateText runId next rest) := by
  rw [← turn_eq]
  show _ = demand _ _ >>= fun _ => (validateEvent env runId raw >>= _) >>= _
  simp only [bind_assoc]
  rfl

/-- The loop checks every event and takes the steps of what it saw. -/
theorem collectEvents_ok_iff {state final : FlowState} {events : List Members}
    (hroom : state.total ≤ maxEvents) :
    collectEvents env candidateText runId state events = .ok final ↔
      state.total + events.length ≤ maxEvents ∧ ∃ seen,
        events.mapM (seeEvent env candidateText runId) = .ok seen ∧
          final = seen.foldl FlowState.see state := by
  induction events generalizing state with
  | nil =>
    constructor
    · intro h
      cases h
      exact ⟨hroom, [], rfl, rfl⟩
    · rintro ⟨_, seen, hseen, rfl⟩
      cases hseen
      rfl
  | cons raw rest ih =>
    rw [collectEvents_cons, List.length_cons]
    constructor
    · intro h
      obtain ⟨_, hdemand, h⟩ := except_bind_eq_ok h
      have hnext := demand_eq_ok.mp hdemand
      obtain ⟨next, hsee, h⟩ := except_bind_eq_ok h
      cases hone : seeEvent env candidateText runId raw with
      | error error =>
        rw [hone] at hsee
        cases hsee
      | ok one =>
        rw [hone] at hsee
        cases hsee
        have htotal := see_total state one
        obtain ⟨hlength, seen, hseen, hfinal⟩ := (ih (htotal ▸ hnext)).mp h
        refine ⟨by omega, one :: seen, ?_, hfinal⟩
        rw [List.mapM_cons, hone, hseen]
        rfl
    · rintro ⟨hlength, seen, hseen, hfinal⟩
      rw [List.mapM_cons] at hseen
      obtain ⟨one, hone, hseen⟩ := except_bind_eq_ok hseen
      obtain ⟨others, hothers, hseen⟩ := except_bind_eq_ok hseen
      cases hseen
      have htotal := see_total state one
      have hnext : demand (state.total + 1 ≤ maxEvents)
          "sanitized event count exceeds the offline safety limit" = .ok () :=
        demand_eq_ok.mpr (by omega)
      rw [hnext, hone]
      show collectEvents env candidateText runId (state.see one) rest = .ok final
      exact (ih (by omega)).mpr ⟨by omega, others, hothers, hfinal⟩

end Collecting

end TradeJournalWorker.Lab
