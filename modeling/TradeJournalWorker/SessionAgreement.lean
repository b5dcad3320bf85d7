import TradeJournalWorker.SessionChannels

namespace TradeJournalWorker

open StateTriples

variable {σ Job Process α β : Type}

/-- The program leaves the session id and the accepted sequence alone. -/
def KeepsSequence (p : Orchestrator.Action σ Job Process α) : Prop :=
  ∀ sessionId sequence, Ensures
    (fun s => s.sequencer.sessionId = sessionId ∧ s.sequencer.lastAcceptedSequence = sequence) p
    (fun _ s => s.sequencer.sessionId = sessionId ∧ s.sequencer.lastAcceptedSequence = sequence)

theorem keepsSequence_bind {p : Orchestrator.Action σ Job Process α}
    {f : α → Orchestrator.Action σ Job Process β} (hp : KeepsSequence p)
    (hf : ∀ value, KeepsSequence (f value)) : KeepsSequence (p >>= f) := by
  intro sessionId sequence
  exact ensures_bind _ (hp sessionId sequence) (fun value => hf value sessionId sequence)

theorem keepsSequence_pure (value : α) :
    KeepsSequence (pure value : Orchestrator.Action σ Job Process α) := by
  intro _ _ s h
  exact h

theorem keepsSequence_call (event : Option α → SessionEvent Job Process)
    (operation : LauncherCall σ α) : KeepsSequence (Orchestrator.call event operation) := by
  intro _ _ s h
  exact h

theorem keepsSequence_applyInternal (trigger : C012Trigger) :
    KeepsSequence (Orchestrator.applyInternal trigger : Orchestrator.Action σ Job Process _) := by
  intro _ _ s h
  exact h

theorem keepsSequence_modify (f : Orchestrator σ Job Process → Orchestrator σ Job Process)
    (hf : ∀ s, (f s).sequencer = s.sequencer) :
    KeepsSequence (modify f : Orchestrator.Action σ Job Process Unit) := by
  intro _ _ s h
  show (f s).sequencer.sessionId = _ ∧ (f s).sequencer.lastAcceptedSequence = _
  rw [hf]
  exact h

theorem keepsSequence_read {f : Orchestrator σ Job Process → Orchestrator.Action σ Job Process α}
    (hf : ∀ s, KeepsSequence (f s)) : KeepsSequence (get >>= f) := by
  intro sessionId sequence
  exact ensures_read (fun start _ => hf start sessionId sequence)

section Commands

variable (L : RootProcessLauncher σ Job Process)

theorem keepsSequence_tryTeardown : KeepsSequence (Orchestrator.tryTeardownReporting L) := by
  apply keepsSequence_read
  intro start
  split
  next => exact keepsSequence_pure true
  next job _ =>
    split
    next => exact keepsSequence_pure true
    next =>
      apply keepsSequence_bind (keepsSequence_modify _ (by intro s; rfl))
      intro _
      apply keepsSequence_bind (keepsSequence_call _ _)
      intro _
      exact keepsSequence_pure _

theorem keepsSequence_failed (trigger : C012Trigger) (result : α) :
    KeepsSequence (do
      let _ ← Orchestrator.applyInternal trigger
      let _ ← Orchestrator.tryTeardownReporting L
      pure result) := by
  apply keepsSequence_bind (keepsSequence_applyInternal _)
  intro _
  apply keepsSequence_bind (keepsSequence_tryTeardown L)
  intro _
  exact keepsSequence_pure _

theorem keepsSequence_failOperation : KeepsSequence (Orchestrator.failOperation L) :=
  keepsSequence_failed L .operationFailed _

theorem keepsSequence_attempt (event : Option α → SessionEvent Job Process)
    (operation : LauncherCall σ α)
    {next : α → Orchestrator.Action σ Job Process C012TransitionResult}
    (hnext : ∀ value, KeepsSequence (next value)) :
    KeepsSequence (Orchestrator.attempt L event operation next) := by
  apply keepsSequence_bind (keepsSequence_call event operation)
  intro outcome
  cases outcome with
  | none => exact keepsSequence_failOperation L
  | some value => exact hnext value

theorem keepsSequence_ite (condition : Bool)
    {p q : Orchestrator.Action σ Job Process C012TransitionResult} (hp : KeepsSequence p)
    (hq : KeepsSequence q) : KeepsSequence (if condition then p else q) := by
  cases condition with
  | false => exact hq
  | true => exact hp

theorem keepsSequence_runC0 : KeepsSequence (Orchestrator.runC0 L) := by
  apply keepsSequence_attempt
  intro job
  apply keepsSequence_bind (keepsSequence_modify _ (by intro s; rfl))
  intro _
  apply keepsSequence_bind (keepsSequence_applyInternal _)
  intro _
  apply keepsSequence_attempt
  intro root
  apply keepsSequence_attempt
  intro _
  apply keepsSequence_attempt
  intro _
  apply keepsSequence_bind (keepsSequence_modify _ (by intro s; rfl))
  intro _
  exact keepsSequence_applyInternal _

theorem keepsSequence_runC1 : KeepsSequence (Orchestrator.runC1 L) := by
  apply keepsSequence_read
  intro start
  split
  next job root _ _ =>
    apply keepsSequence_attempt
    intro alive
    exact keepsSequence_ite alive (keepsSequence_applyInternal _)
      (keepsSequence_failed L .rootProcessDied _)
  next => exact keepsSequence_failOperation L

theorem keepsSequence_runC2 : KeepsSequence (Orchestrator.runC2 L) := by
  apply keepsSequence_read
  intro start
  split
  next job root _ _ =>
    apply keepsSequence_attempt
    intro submitter
    apply keepsSequence_attempt
    intro _
    apply keepsSequence_attempt
    intro sameJob
    apply keepsSequence_ite sameJob ?_ (keepsSequence_failOperation L)
    apply keepsSequence_bind (keepsSequence_applyInternal _)
    intro assigned
    apply keepsSequence_ite assigned.accepted ?_ (keepsSequence_failOperation L)
    apply keepsSequence_attempt
    intro _
    apply keepsSequence_bind (keepsSequence_applyInternal _)
    intro loginComplete
    apply keepsSequence_ite loginComplete.accepted ?_ (keepsSequence_failOperation L)
    apply keepsSequence_bind (keepsSequence_tryTeardown L)
    intro done
    exact keepsSequence_ite done (keepsSequence_applyInternal _) (keepsSequence_failOperation L)
  next => exact keepsSequence_failOperation L

theorem keepsSequence_command (trigger : C012Trigger) :
    KeepsSequence (Orchestrator.command L trigger) := by
  unfold Orchestrator.command
  split
  next => exact keepsSequence_runC0 L
  next => exact keepsSequence_runC1 L
  next => exact keepsSequence_runC2 L

theorem keepsSequence_failFromHost (trigger : C012Trigger) :
    KeepsSequence (Orchestrator.failFromHost L trigger) := by
  unfold Orchestrator.failFromHost
  split
  next => exact keepsSequence_pure false
  next => exact keepsSequence_failed L trigger true

/-- The launcher calls of C0 return from this world on. -/
def c0Succeeds (world : σ) : Bool :=
  (L.createJob world).1.any fun job =>
    (L.launchSuspendedRoot job (L.createJob world).2).1.any fun root =>
      let launched := (L.launchSuspendedRoot job (L.createJob world).2).2
      (L.assignRootToJob job root launched).1.any fun _ =>
        (L.resumeRoot root (L.assignRootToJob job root launched).2).1.isSome

/-- The root is found alive. -/
def c1Succeeds (s : Orchestrator σ Job Process) : Bool :=
  match s.job, s.root with
  | some job, some root => (L.verifyRootAlive job root s.launcher).1.any fun alive => alive
  | _, _ => false

/-- The launcher calls of C2 return, the submitter is found in the job, and so does the
teardown unless it came before. -/
def c2Succeeds (s : Orchestrator σ Job Process) : Bool :=
  match s.job, s.root with
  | some job, some _ =>
    (L.launchSuspendedSubmitter job s.launcher).1.any fun submitter =>
      let launched := (L.launchSuspendedSubmitter job s.launcher).2
      let assigned := (L.assignSubmitterToJob job submitter launched).2
      let verified := (L.verifySubmitterSameJob job submitter assigned).2
      (L.assignSubmitterToJob job submitter launched).1.any fun _ =>
        (L.verifySubmitterSameJob job submitter assigned).1.any fun sameJob =>
          sameJob && (L.resumeAndAwaitSubmitter job submitter verified).1.any fun _ =>
            s.teardownAttempted || (L.teardownJob job
              (L.resumeAndAwaitSubmitter job submitter verified).2).1.isSome
  | _, _ => false

/-- The launcher lets the command of the trigger succeed. -/
def commandSucceeds (s : Orchestrator σ Job Process) : C012Trigger → Bool
  | .beginC0 => c0Succeeds L s.launcher
  | .beginC1 => c1Succeeds L s
  | _ => c2Succeeds L s

end Commands

section Results

variable {L : RootProcessLauncher σ Job Process} {state : C012State} {job : Option Job}
  {attempted : Bool} {world : σ}

/-- The fields that decide how a command goes on. -/
structure Placed (state : C012State) (job : Option Job) (attempted : Bool) (world : σ)
    (s : Orchestrator σ Job Process) : Prop where
  state_eq : s.sequencer.currentState = state
  job_eq : s.job = job
  attempted_eq : s.teardownAttempted = attempted
  world_eq : s.launcher = world

def Answers (p : Orchestrator.Action σ Job Process C012TransitionResult)
    (pre : Orchestrator σ Job Process → Prop) (accepted : Bool) : Prop :=
  Ensures pre p (fun result _ => result.accepted = accepted)

theorem any_returned {outcome : Option α} : outcome.any (fun _ => true) = outcome.isSome := by
  cases outcome <;> rfl

theorem Answers.run {p : Orchestrator.Action σ Job Process C012TransitionResult}
    {pre : Orchestrator σ Job Process → Prop} {accepted : Bool} (h : Answers p pre accepted)
    {s : Orchestrator σ Job Process} (hs : pre s) : (p.run s : _ × _).1.accepted = accepted :=
  h s hs

theorem answers_failOperation {pre : Orchestrator σ Job Process → Prop} :
    Answers (Orchestrator.failOperation L) pre false := by
  intro s _
  rfl

theorem answers_attempt {event : Option α → SessionEvent Job Process}
    {operation : LauncherCall σ α}
    {next : α → Orchestrator.Action σ Job Process C012TransitionResult} {good : α → Bool}
    (hnext : ∀ value, Answers (next value) (Placed state job attempted (operation world).2)
      (good value)) :
    Answers (Orchestrator.attempt L event operation next) (Placed state job attempted world)
      ((operation world).1.any good) := by
  refine ensures_bind (fun outcome s => outcome = (operation world).1 ∧
    Placed state job attempted (operation world).2 s) ?_ ?_
  · intro s h
    have hworld := h.world_eq
    subst hworld
    exact ⟨rfl, h.state_eq, h.job_eq, h.attempted_eq, rfl⟩
  · intro outcome s ⟨houtcome, h⟩
    rw [← houtcome]
    cases outcome with
    | none => exact answers_failOperation s h
    | some value => exact hnext value s h

theorem answers_advance {trigger : C012Trigger} (next : C012State)
    {f : C012TransitionResult → Orchestrator.Action σ Job Process C012TransitionResult}
    {accepted : Bool} (htable : C012StateMachine.apply state trigger = (.accept next, next))
    (hnext : Answers (f (.accept next)) (Placed next job attempted world) accepted) :
    Answers (Orchestrator.applyInternal trigger >>= f) (Placed state job attempted world)
      accepted := by
  refine ensures_bind (fun result s => result = .accept next ∧
    Placed next job attempted world s) ?_ ?_
  · intro s h
    have hstate := h.state_eq
    subst hstate
    have hanswer : s.sequencer.applyInternal trigger =
        (.accept next, { s.sequencer with currentState := next }) := by
      simp [C012RequestSequencer.applyInternal, htable]
    show (Orchestrator.answered (s.sequencer.applyInternal trigger) s).1 = _ ∧
      Placed _ _ _ _ (Orchestrator.answered (s.sequencer.applyInternal trigger) s).2
    rw [hanswer]
    exact ⟨rfl, rfl, h.job_eq, h.attempted_eq, h.world_eq⟩
  · rintro result s ⟨hresult, h⟩
    rw [hresult]
    exact hnext s h

theorem answers_applyInternal {trigger : C012Trigger} (next : C012State)
    {pre : Orchestrator σ Job Process → Prop}
    (htable : C012StateMachine.apply state trigger = (.accept next, next))
    (hpre : ∀ s, pre s → s.sequencer.currentState = state) :
    Answers (Orchestrator.applyInternal trigger) pre true := by
  intro s h
  have hstate := hpre s h
  subst hstate
  show (C012StateMachine.apply s.sequencer.currentState trigger).1.accepted = true
  rw [htable]
  rfl

theorem answers_runC0 :
    Answers (Orchestrator.runC0 L) (Placed .c0JobCreating job attempted world)
      (c0Succeeds L world) := by
  apply answers_attempt
  intro created
  refine ensures_bind (fun _ => Placed .c0JobCreating (some created) attempted
    (L.createJob world).2) ?_ ?_
  · intro s h
    exact ⟨h.state_eq, rfl, h.attempted_eq, h.world_eq⟩
  intro _
  refine answers_advance .c0RootLaunching (by decide) ?_
  refine answers_attempt ?_
  intro root
  refine answers_attempt ?_
  intro _
  rw [← any_returned]
  refine answers_attempt ?_
  intro _
  refine ensures_bind (fun _ s => s.sequencer.currentState = .c0RootLaunching) ?_
    (fun _ => answers_applyInternal .c0Retained (by decide) (fun _ h => h))
  intro s h
  exact h.state_eq

theorem run_read {f : Orchestrator σ Job Process → Orchestrator.Action σ Job Process α}
    (s : Orchestrator σ Job Process) :
    ((get >>= f : Orchestrator.Action σ Job Process α).run s : _ × _) = (f s).run s := rfl

theorem accepted_runC1 {s : Orchestrator σ Job Process}
    (hstate : s.sequencer.currentState = .c1DiscoveryRunning) :
    ((Orchestrator.runC1 L).run s : _ × _).1.accepted = c1Succeeds L s := by
  have hplaced : Placed .c1DiscoveryRunning s.job s.teardownAttempted s.launcher s :=
    ⟨hstate, rfl, rfl, rfl⟩
  unfold Orchestrator.runC1 c1Succeeds
  rw [run_read]
  cases s.job with
  | none => exact answers_failOperation.run hplaced
  | some created =>
    cases s.root with
    | none => exact answers_failOperation.run hplaced
    | some root =>
      refine Answers.run (answers_attempt ?_) hplaced
      intro alive
      cases alive with
      | false =>
        intro s _
        rfl
      | true => exact answers_applyInternal .c1Retained (by decide) (fun _ h => h.state_eq)

theorem accepted_teardown {torn : Job} :
    Answers
      (Orchestrator.tryTeardownReporting L >>= fun done =>
        if done then Orchestrator.applyInternal .c2TeardownComplete
        else Orchestrator.failOperation L)
      (Placed .c2Teardown (some torn) attempted world)
      (attempted || (L.teardownJob torn world).1.isSome) := by
  refine ensures_bind (fun done s => done = (attempted || (L.teardownJob torn world).1.isSome) ∧
    s.sequencer.currentState = .c2Teardown) ?_ ?_
  · intro s h
    have hworld := h.world_eq
    subst hworld
    cases attempted with
    | true =>
      rw [tryTeardown_done (.inr h.attempted_eq)]
      exact ⟨rfl, h.state_eq⟩
    | false =>
      rw [tryTeardown_invoked h.job_eq h.attempted_eq]
      exact ⟨rfl, h.state_eq⟩
  · intro done s ⟨hdone, hstate⟩
    rw [← hdone]
    cases done with
    | false => rfl
    | true =>
      show (C012StateMachine.apply s.sequencer.currentState .c2TeardownComplete).1.accepted = true
      rw [hstate]
      rfl

theorem accepted_runC2 {s : Orchestrator σ Job Process}
    (hstate : s.sequencer.currentState = .c2Submitting) :
    ((Orchestrator.runC2 L).run s : _ × _).1.accepted = c2Succeeds L s := by
  have hplaced : Placed .c2Submitting s.job s.teardownAttempted s.launcher s :=
    ⟨hstate, rfl, rfl, rfl⟩
  unfold Orchestrator.runC2 c2Succeeds
  rw [run_read]
  cases hjob : s.job with
  | none => exact answers_failOperation.run hplaced
  | some created =>
    cases s.root with
    | none => exact answers_failOperation.run hplaced
    | some root =>
      rw [hjob] at hplaced
      refine Answers.run (answers_attempt ?_) hplaced
      intro submitter
      refine answers_attempt ?_
      intro _
      refine answers_attempt ?_
      intro sameJob
      cases sameJob with
      | false => exact answers_failOperation
      | true =>
        refine answers_advance .c2LoginWindow (by decide) ?_
        refine answers_attempt ?_
        intro _
        exact answers_advance .c2Teardown (by decide) accepted_teardown

/-- A command is accepted exactly when the launcher lets it succeed. -/
theorem accepted_command {s : Orchestrator σ Job Process} {trigger : C012Trigger}
    {next : C012State} (htable : C012StateMachine.table s.sequencer.currentState trigger = some next)
    (hclient : trigger.isClientOriginated = true) (sequence : Int) :
    ((Orchestrator.command L trigger).run (s.gated next sequence) : _ × _).1.accepted =
      commandSucceeds L s trigger := by
  obtain ⟨rfl, _, rfl⟩ | ⟨rfl, _, rfl⟩ | ⟨rfl, _, rfl⟩ :=
    C012StateMachine.table_client htable hclient
  · exact answers_runC0.run (s := s.gated _ sequence) ⟨rfl, rfl, rfl, rfl⟩
  · exact accepted_runC1 rfl
  · exact accepted_runC2 rfl

end Results

section Channels

variable {hmac : HmacSha256} {L : RootProcessLauncher σ Job Process}

/-- A request that the gate accepts has a command that succeeds and a response that is read. -/
def ExchangeHeard (hmac : HmacSha256) (L : RootProcessLauncher σ Job Process)
    (world : ChannelWorld σ Job Process) (exchange : Exchange) : Prop :=
  exchange.arrives = true → ∀ trigger,
    C012RequestSequencer.mapToTrigger (world.request hmac exchange).envelope = some trigger →
    (world.server.sequencer.apply (world.request hmac exchange).envelope).1.accepted = true →
    commandSucceeds L world.server trigger = true ∧ exchange.delivery = .own

/-- The sequences agree and nothing beyond them has been accepted. -/
structure InStep (world : ChannelWorld σ Job Process) : Prop where
  agreed : world.Agreed
  begun : 1 ≤ world.client.nextSequence
  signedOld : ∀ response ∈ world.signed, response.accepted = true →
    response.sequenceNumber ≤ world.server.sequencer.lastAcceptedSequence

theorem receive_cases (hmac : HmacSha256) (frame : ResponseFrame) (client : C012ClientChannel) :
    (∃ error, client.receive hmac frame = (.error error, client)) ∨
      ∃ response, frame = .response response ∧
        response.sequenceNumber = client.nextSequence ∧ response.verify hmac = true ∧
        client.receive hmac frame =
          (.ok ⟨response.accepted, response.resultingState, response.reason⟩,
            if response.accepted then { client with nextSequence := client.nextSequence + 1 }
            else client) := by
  cases frame with
  | closed => exact .inl ⟨_, rfl⟩
  | unparsable => exact .inl ⟨_, rfl⟩
  | response response =>
    cases hvalid : response.isValid with
    | false =>
      refine .inl ⟨"The server response is malformed.", ?_⟩
      simp [C012ClientChannel.receive, hvalid]
    | true =>
      by_cases hmatch : response.sessionId = client.sessionId ∧
          response.sequenceNumber = client.nextSequence
      · cases hverify : response.verify hmac with
        | false =>
          refine .inl ⟨"The server response failed authentication.", ?_⟩
          simp [C012ClientChannel.receive, hvalid, hmatch, hverify]
        | true =>
          refine .inr ⟨response, rfl, hmatch.2, hverify, ?_⟩
          simp [C012ClientChannel.receive, hvalid, hmatch, hverify]
      · refine .inl ⟨"The server response does not match the outstanding request.", ?_⟩
        have hne : response.sessionId ≠ client.sessionId ∨
            response.sequenceNumber ≠ client.nextSequence := by
          by_contra hboth
          exact hmatch (by simpa using hboth)
        simp [C012ClientChannel.receive, hvalid, hne]

theorem request_isValid {world : ChannelWorld σ Job Process} (h : 1 ≤ world.client.nextSequence)
    (exchange : Exchange) :
    ((world.request hmac exchange).isValid && (world.request hmac exchange).verify hmac) = true := by
  simp [ChannelWorld.request, C012ClientChannel.buildRequest, C012WireRequest.isValid,
    C012WireRequest.verify, C012WireRequest.payload, hmac.isHex, h]

theorem processNextRequest_own {world : ChannelWorld σ Job Process}
    (h : 1 ≤ world.client.nextSequence) (exchange : Exchange) :
    processNextRequest hmac L (some (world.request hmac exchange)) world.server =
      (some (buildSignedResponse hmac (world.request hmac exchange)
          ((Orchestrator.apply L (world.request hmac exchange).envelope).run world.server
            : _ × _).1),
        ((Orchestrator.apply L (world.request hmac exchange).envelope).run world.server
          : _ × _).2) := by
  unfold processNextRequest
  simp only [request_isValid h exchange, ↓reduceIte]
  rfl

theorem answered_arrived {world : ChannelWorld σ Job Process} {exchange : Exchange}
    (h : 1 ≤ world.client.nextSequence) (harrives : exchange.arrives = true) :
    world.answered hmac L exchange =
      (some (buildSignedResponse hmac (world.request hmac exchange)
          ((Orchestrator.apply L (world.request hmac exchange).envelope).run world.server
            : _ × _).1),
        ((Orchestrator.apply L (world.request hmac exchange).envelope).run world.server
          : _ × _).2) := by
  unfold ChannelWorld.answered
  rw [if_pos harrives, processNextRequest_own h exchange]

/-- What the client takes for a response has been signed by the server. -/
theorem signed_of_verified {world : ChannelWorld σ Job Process} {exchange : Exchange}
    (unforged : world.Unforged hmac L exchange) {response : C012WireResponse}
    (hframe : ChannelWorld.delivered (world.answered hmac L exchange).1 exchange.delivery =
      .response response) (hverify : response.verify hmac = true) :
    response ∈ (world.exchange hmac L exchange).2.signed := by
  show response ∈ (world.answered hmac L exchange).1.toList ++ world.signed
  cases hdelivery : exchange.delivery with
  | own =>
    rw [hdelivery] at hframe
    cases hown : (world.answered hmac L exchange).1 with
    | none =>
      rw [hown] at hframe
      cases hframe
    | some own =>
      rw [hown] at hframe
      cases hframe
      exact List.mem_append_left _ (List.mem_singleton_self response)
  | closed =>
    rw [hdelivery] at hframe
    cases hframe
  | unparsable =>
    rw [hdelivery] at hframe
    cases hframe
  | other forged =>
    rw [hdelivery] at hframe
    cases hframe
    exact unforged response hdelivery hverify

/-- A response that is not accepted moves neither side. -/
theorem InStep.kept {world : ChannelWorld σ Job Process} (h : InStep world) {exchange : Exchange}
    (unforged : world.Unforged hmac L exchange)
    (hserver : (world.answered hmac L exchange).2 = world.server)
    (hrejected : ∀ own, (world.answered hmac L exchange).1 = some own → own.accepted = false) :
    InStep (world.exchange hmac L exchange).2 := by
  have hsigned : ∀ response ∈ (world.exchange hmac L exchange).2.signed,
      response.accepted = true → response.sequenceNumber ≤
        world.server.sequencer.lastAcceptedSequence := by
    intro response hmem haccepted
    have hcases : response ∈ (world.answered hmac L exchange).1.toList ++ world.signed := hmem
    obtain hown | hold := List.mem_append.mp hcases
    · have hnot := hrejected response (Option.mem_toList.mp hown)
      rw [haccepted] at hnot
      cases hnot
    · exact h.signedOld response hold haccepted
  have hclient : (world.exchange hmac L exchange).2.client = world.client := by
    show (world.client.receive hmac (ChannelWorld.delivered (world.answered hmac L exchange).1
      exchange.delivery)).2 = world.client
    obtain ⟨error, herror⟩ | ⟨response, hframe, hsequence, hverify, hreceived⟩ :=
      receive_cases hmac (ChannelWorld.delivered (world.answered hmac L exchange).1
        exchange.delivery) world.client
    · rw [herror]
    · have hknown := signed_of_verified unforged hframe hverify
      rw [hreceived]
      cases haccepted : response.accepted with
      | false => rfl
      | true =>
        have hle := hsigned response hknown haccepted
        have hagreed : world.client.nextSequence =
          world.server.sequencer.lastAcceptedSequence + 1 := h.agreed
        omega
  have hlast : (world.exchange hmac L exchange).2.server = world.server := hserver
  constructor
  · show _ = _
    rw [hclient, hlast]
    exact h.agreed
  · rw [hclient]
    exact h.begun
  · rw [hlast]
    exact hsigned

theorem receive_own (hmac : HmacSha256) {client : C012ClientChannel} (h : 1 ≤ client.nextSequence)
    (control : C012Control) (requestType : C012RequestType) (result : C012TransitionResult) :
    client.receive hmac
        (.response (buildSignedResponse hmac (client.buildRequest hmac control requestType) result)) =
      (.ok result,
        if result.accepted then { client with nextSequence := client.nextSequence + 1 }
        else client) := by
  cases hresult : result.accepted <;>
    simp [C012ClientChannel.receive, buildSignedResponse, C012ClientChannel.buildRequest,
      C012WireResponse.isValid, C012WireResponse.verify, C012WireResponse.payload, hmac.isHex, h,
      hresult] <;>
    rw [← hresult]

/-- Both sides count a request whose command succeeds and whose response is read. -/
theorem exchange_accepted {world : ChannelWorld σ Job Process} (h : InStep world)
    {exchange : Exchange} {trigger : C012Trigger} (harrives : exchange.arrives = true)
    (hdelivery : exchange.delivery = .own)
    (hmap : C012RequestSequencer.mapToTrigger (world.request hmac exchange).envelope =
      some trigger)
    (haccepted : (world.server.sequencer.apply
      (world.request hmac exchange).envelope).1.accepted = true) :
    (world.exchange hmac L exchange).2.server.sequencer.lastAcceptedSequence =
        world.client.nextSequence ∧
      (world.exchange hmac L exchange).2.client.nextSequence =
        (if commandSucceeds L world.server trigger then world.client.nextSequence + 1
          else world.client.nextSequence) ∧
      (world.exchange hmac L exchange).2.signed =
        buildSignedResponse hmac (world.request hmac exchange)
          ((Orchestrator.apply L (world.request hmac exchange).envelope).run world.server
            : _ × _).1 :: world.signed := by
  have hanswered : world.answered hmac L exchange = _ := answered_arrived h.begun harrives
  obtain ⟨reason, hrejected⟩ | ⟨trigger', next, _, _, hmap', htable, _, happly⟩ :=
    C012RequestSequencer.apply_cases world.server.sequencer (world.request hmac exchange).envelope
  · rw [hrejected] at haccepted
    cases haccepted
  · cases hmap.symm.trans hmap'
    have hrun : (Orchestrator.apply L (world.request hmac exchange).envelope).run world.server =
        (Orchestrator.command L trigger).run
          (world.server.gated next world.client.nextSequence) := gate_accepted hmap happly
    have hresult := accepted_command (L := L) htable
      (C012RequestSequencer.mapToTrigger_client hmap) world.client.nextSequence
    rw [← hrun] at hresult
    refine ⟨?_, ?_, ?_⟩
    · have hkept := keepsSequence_command L trigger _ _
        (world.server.gated next world.client.nextSequence) ⟨rfl, rfl⟩
      show (world.answered hmac L exchange).2.sequencer.lastAcceptedSequence = _
      rw [hanswered, hrun]
      exact hkept.2
    · show ((world.client.receive hmac (ChannelWorld.delivered (world.answered hmac L exchange).1
        exchange.delivery)).2).nextSequence = _
      rw [hanswered, hdelivery]
      have hreceived : world.client.receive hmac (.response (buildSignedResponse hmac
          (world.request hmac exchange) ((Orchestrator.apply L
            (world.request hmac exchange).envelope).run world.server : _ × _).1)) = _ :=
        receive_own hmac h.begun exchange.control exchange.requestType _
      show ((world.client.receive hmac (.response _)).2).nextSequence = _
      rw [hreceived, hresult]
      dsimp only
      split <;> rfl
    · show (world.answered hmac L exchange).1.toList ++ world.signed = _
      rw [hanswered]
      rfl

theorem InStep.exchanged {world : ChannelWorld σ Job Process} (h : InStep world)
    {exchange : Exchange} (unforged : world.Unforged hmac L exchange)
    (hheard : ExchangeHeard hmac L world exchange) :
    InStep (world.exchange hmac L exchange).2 := by
  cases harrives : exchange.arrives with
  | false =>
    have hanswered : world.answered hmac L exchange = (none, world.server) := by
      simp [ChannelWorld.answered, harrives]
    apply h.kept unforged
    · rw [hanswered]
    · intro own hown
      rw [hanswered] at hown
      cases hown
  | true =>
    have hanswered : world.answered hmac L exchange = _ := answered_arrived h.begun harrives
    obtain ⟨reason, hrejected⟩ | ⟨trigger, next, _, _, hmap, _, _, happly⟩ :=
      C012RequestSequencer.apply_cases world.server.sequencer
        (world.request hmac exchange).envelope
    · have hrun : (Orchestrator.apply L (world.request hmac exchange).envelope).run world.server =
          _ := gate_rejected (by rw [hrejected]; rfl)
      apply h.kept unforged
      · rw [hanswered, hrun]
      · intro own hown
        rw [hanswered, hrun, hrejected] at hown
        cases hown
        rfl
    · have haccepted : (world.server.sequencer.apply
          (world.request hmac exchange).envelope).1.accepted = true := by
        rw [happly]
        rfl
      obtain ⟨hsucceeds, hdelivery⟩ := hheard harrives trigger hmap haccepted
      obtain ⟨hlast, hnext, hsigned⟩ :=
        exchange_accepted (L := L) h harrives hdelivery hmap haccepted
      rw [if_pos hsucceeds] at hnext
      have hbegun := h.begun
      have hagreed : world.client.nextSequence =
        world.server.sequencer.lastAcceptedSequence + 1 := h.agreed
      constructor
      · show _ = _
        rw [hlast, hnext]
      · omega
      · intro response hmem hresponse
        rw [hlast]
        rw [hsigned] at hmem
        obtain rfl | hold := List.mem_cons.mp hmem
        · exact Int.le_refl _
        · have hle := h.signedOld response hold hresponse
          omega

def ChannelWorld.fresh (sessionId : Guid) (launcher : σ) : ChannelWorld σ Job Process where
  client := ⟨sessionId, 1⟩
  server := .fresh sessionId launcher

theorem inStep_fresh (sessionId : Guid) (launcher : σ) :
    InStep (.fresh sessionId launcher : ChannelWorld σ Job Process) := by
  constructor
  · rfl
  · exact Int.le_refl 1
  · intro response hmem
    cases hmem

theorem inStep_of_run {drift : σ → σ → Prop} {start world : ChannelWorld σ Job Process}
    (hstart : InStep start)
    (run : ChannelRun hmac L drift (ExchangeHeard hmac L) start world) : InStep world := by
  induction run with
  | start => exact hstart
  | exchange exchange prior unforged hheard ih => exact ih.exchanged unforged hheard
  | @failFromHost world trigger prior ih =>
    have hkept := keepsSequence_failFromHost L trigger _ _ world.server ⟨rfl, rfl⟩
    have hlast : (L.step (.failFromHost trigger) world.server).sequencer.lastAcceptedSequence =
      world.server.sequencer.lastAcceptedSequence := hkept.2
    constructor
    · show _ = _
      rw [hlast]
      exact ih.agreed
    · exact ih.begun
    · rw [hlast]
      exact ih.signedOld
  | drift launcher prior hdrift ih => exact ⟨ih.agreed, ih.begun, ih.signedOld⟩

end Channels

end TradeJournalWorker
