import TradeJournalWorker.SessionAgreement

namespace TradeJournalWorker

open StateTriples

variable {σ Job Process α : Type}

/-- The host's call ends the session, is refused, or has a teardown that returns. -/
def HostFailureHeard (L : RootProcessLauncher σ Job Process) (s : Orchestrator σ Job Process) :
    SessionInput → Prop
  | .request _ => True
  | .failFromHost trigger => trigger.isFailure = true ∨ trigger.isClientOriginated = true ∨
      ¬ TeardownThrows L s

theorem session_safe {L : RootProcessLauncher σ Job Process} {drift : σ → σ → Prop}
    {sessionId : Guid} {launcher : σ} {s : Orchestrator σ Job Process}
    (run : SessionRun L drift (HostFailureHeard L) (.fresh sessionId launcher) s) :
    SessionSafe L s := by
  have hmay : SessionRun L drift (HostMay (.anyLauncher L)) (.fresh sessionId launcher) s := by
    refine run.mono ?_
    intro s input h
    cases input with
    | request envelope => trivial
    | failFromHost trigger =>
      obtain h | h | h := h
      · exact .inl h
      · exact .inr (.inl h)
      · exact .inr (.inr ⟨trivial, h⟩)
  have hstart : Resting (.anyLauncher L) (.fresh sessionId launcher) :=
    resting_fresh _ sessionId trivial
  exact (resting_of_run (fun _ _ _ _ _ _ => trivial) hstart hmay).safe

/-- A launcher whose calls return, the teardown perhaps excepted. -/
def steadyLauncher (teardown : Option Unit) : RootProcessLauncher Unit Nat Nat where
  createJob _ := (some 0, ())
  launchSuspendedRoot _ _ := (some 1, ())
  assignRootToJob _ _ _ := (some (), ())
  resumeRoot _ _ := (some (), ())
  verifyRootAlive _ _ _ := (some true, ())
  launchSuspendedSubmitter _ _ := (some 2, ())
  assignSubmitterToJob _ _ _ := (some (), ())
  verifySubmitterSameJob _ _ _ := (some true, ())
  resumeAndAwaitSubmitter _ _ _ := (some (), ())
  teardownJob _ _ := (teardown, ())

def c0StartOf (sessionId : Guid) : SessionInput := .request ⟨sessionId, 1, .c0, .start⟩

def c1QueryOf (sessionId : Guid) : SessionInput := .request ⟨sessionId, 2, .c1, .query⟩

def c2SubmitOf (sessionId : Guid) : SessionInput := .request ⟨sessionId, 3, .c2, .submitConfig⟩

/-- A host call with a progress trigger after C0 loses the teardown's exception, and C2 takes
the job for torn down. -/
def tornSession : Orchestrator Unit Nat Nat :=
  [c0StartOf 7, .failFromHost .c0JobCreated, c1QueryOf 7, c2SubmitOf 7].foldl
    (fun s input => (steadyLauncher none).step input s) (.fresh 7 ())

theorem torn_session_terminates :
    SessionRun (steadyLauncher none) (fun _ _ => False) (fun _ _ => True) (.fresh 7 ())
        tornSession ∧
      tornSession.sequencer.currentState = .terminated ∧
      ¬ SessionSafe (steadyLauncher none) tornSession := by
  have h0 : SessionRun (steadyLauncher none) (fun _ _ => False) (fun _ _ => True) (.fresh 7 ())
      (.fresh 7 ()) := .start
  have h1 := h0.step (c0StartOf 7) trivial
  have h2 := h1.step (.failFromHost .c0JobCreated) trivial
  have h3 := h2.step (c1QueryOf 7) trivial
  have h4 := h3.step (c2SubmitOf 7) trivial
  refine ⟨h4, by decide, ?_⟩
  intro hsafe
  have hhistory : tornSession.history = .entered .terminated :: tornSession.history.tail := by
    decide
  have hjustified := hsafe.justified
  rw [hhistory] at hjustified
  obtain ⟨⟨job, root, submitter, hcalls⟩, _⟩ := hjustified
  have htorn : .teardownJob job (some ()) ∈ tornSession.history.tail := hcalls List.mem_cons_self
  have hnone : ∀ event ∈ tornSession.history.tail, event.tornJob.isSome → event = .teardownJob 0 none := by
    decide
  cases hnone _ htorn rfl

/-- A session that times out after C0. -/
theorem session_safe_timeout :
    SessionSafe (steadyLauncher none)
      ((steadyLauncher none).step (.failFromHost .timeout)
        ((steadyLauncher none).step (c0StartOf 7) (.fresh 7 ()))) := by
  have h0 : SessionRun (steadyLauncher none) (fun _ _ => False)
      (HostFailureHeard (steadyLauncher none)) (.fresh 7 ()) (.fresh 7 ()) := .start
  have h1 := h0.step (c0StartOf 7) trivial
  have h2 := h1.step (.failFromHost .timeout) (.inl rfl)
  exact session_safe h2

/-- The sequences agree in every run whose accepted commands succeed and are heard of; and a
command that fails after the gate accepted it always puts them out of step. -/
theorem sequences_agree {hmac : HmacSha256} {L : RootProcessLauncher σ Job Process}
    {drift : σ → σ → Prop} {sessionId : Guid} {launcher : σ} {world : ChannelWorld σ Job Process}
    (run : ChannelRun hmac L drift (ExchangeHeard hmac L) (.fresh sessionId launcher) world) :
    world.Agreed ∧ ∀ exchange trigger, exchange.arrives = true → exchange.delivery = .own →
      C012RequestSequencer.mapToTrigger (world.request hmac exchange).envelope = some trigger →
      (world.server.sequencer.apply (world.request hmac exchange).envelope).1.accepted = true →
      ((world.exchange hmac L exchange).2.Agreed ↔
        commandSucceeds L world.server trigger = true) := by
  have hstep := inStep_of_run (inStep_fresh sessionId launcher) run
  refine ⟨hstep.agreed, ?_⟩
  intro exchange trigger harrives hdelivery hmap haccepted
  obtain ⟨hlast, hnext, _⟩ := exchange_accepted (L := L) hstep harrives hdelivery hmap haccepted
  unfold ChannelWorld.Agreed
  rw [hlast, hnext]
  cases commandSucceeds L world.server trigger with
  | false =>
    constructor
    · intro hagreed
      have hequal : world.client.nextSequence = world.client.nextSequence + 1 := hagreed
      omega
    · intro hsucceeds
      cases hsucceeds
  | true => exact ⟨fun _ => rfl, fun _ => rfl⟩

def zeroHmac : HmacSha256 where
  sign _ := String.ofList (List.replicate 64 '0')
  isHex _ := by decide

/-- The job cannot be created. -/
def joblessLauncher : RootProcessLauncher Unit Nat Nat :=
  { steadyLauncher (some ()) with createJob := fun _ => (none, ()) }

def c0Exchange : Exchange := ⟨.c0, .start, true, .own⟩

/-- The server counts the request whose job could not be created, the client does not. -/
theorem failed_c0_out_of_step :
    ChannelRun zeroHmac joblessLauncher (fun _ _ => False) (fun _ _ => True) (.fresh 7 ())
        ((ChannelWorld.fresh 7 ()).exchange zeroHmac joblessLauncher c0Exchange).2 ∧
      ((ChannelWorld.fresh 7 ()).exchange zeroHmac joblessLauncher c0Exchange).1 =
        .ok ⟨false, .failedClosed, .operationFailed⟩ ∧
      ¬ ((ChannelWorld.fresh 7 ()).exchange zeroHmac joblessLauncher c0Exchange).2.Agreed := by
  refine ⟨?_, rfl, ?_⟩
  · apply ChannelRun.exchange c0Exchange .start
    · intro response hdelivery
      cases hdelivery
    · trivial
  · intro hagreed
    have hone : (1 : Int) = 2 := hagreed
    omega

theorem sequences_agree_c0 :
    ((ChannelWorld.fresh 7 ()).exchange zeroHmac (steadyLauncher (some ())) c0Exchange).2.Agreed := by
  have h0 : ChannelRun zeroHmac (steadyLauncher (some ())) (fun _ _ => False)
      (ExchangeHeard zeroHmac (steadyLauncher (some ()))) (.fresh 7 ()) (.fresh 7 ()) := .start
  have h1 := h0.exchange c0Exchange (by intro _ hdelivery; cases hdelivery)
    (by intro _ trigger hmap _; cases hmap; exact ⟨rfl, rfl⟩)
  exact (sequences_agree h1).1

end TradeJournalWorker
