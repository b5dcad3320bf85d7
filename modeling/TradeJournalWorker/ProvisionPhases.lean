import TradeJournalWorker.ProvisionInvariant

namespace TradeJournalWorker

open FaultProgram

/-- What holds until the activation and what holds from then on. -/
structure Phases (before after : AccountWorld → Prop) : Prop where
  working : Stable (fun status => status ≠ .connected) before
  settled : Stable (fun status => status ∉ failedProvisionLocalStatuses) after
  weaker : ∀ world, before world → after world

theorem phases_idle (cid : String) : Phases Idle (Guarded cid) :=
  ⟨stable_idle, stable_guarded cid, fun _ hidle => hidle.guarded cid⟩

theorem phases_survives : Phases Survives Survives := by
  refine ⟨⟨stable_survives.secrets, stable_survives.created, ?_⟩,
    ⟨stable_survives.secrets, stable_survives.created, ?_⟩, fun _ h => h⟩
  · exact fun status connectionId world _ h =>
      stable_survives.recorded status connectionId world trivial h
  · exact fun status connectionId world _ h =>
      stable_survives.recorded status connectionId world trivial h

/-- The error that disproves an endpoint only comes up before the activation. -/
def Connecting {α : Type} (before after : AccountWorld → Prop) (exit : Exit HandlerError α)
    (_ : JobEnv) (world : AccountWorld) : Prop :=
  after world ∧ (exit = .raised .endpoint → before world)

/-- A candidate that was disproved has not been activated either. -/
def Tried (before after : AccountWorld → Prop) (exit : Exit HandlerError Bool) (env : JobEnv)
    (world : AccountWorld) : Prop :=
  Connecting before after exit env world ∧ (exit = .returned false → before world)

theorem nextWrite_not_endpoint (env : JobEnv) : env.nextWrite.1.exit ≠ .raised .endpoint := by
  show ((nextAnswer WriteAnswer.done env.writes).1.mapError fun _ => HandlerError.other).exit ≠ _
  intro h
  cases hanswer : (nextAnswer WriteAnswer.done env.writes).1 <;> rw [hanswer] at h <;> cases h

theorem nextProgressCall_not_endpoint (env : JobEnv) :
    env.nextProgressCall.1 ≠ .raised .endpoint := by
  show ((nextAnswer (Exit.returned ()) env.progressCalls).1.mapError
    fun _ => HandlerError.leaseLost) ≠ _
  intro h
  cases hanswer : (nextAnswer (Exit.returned ()) env.progressCalls).1 <;> rw [hanswer] at h <;>
    cases h

theorem progress_not_endpoint (status : LocalStatus) (connectionId : Option String) (env : JobEnv)
    (world : AccountWorld) : (progress status connectionId env world).1 ≠ .raised .endpoint := by
  unfold progress
  rw [Program.run_bind]
  show ((if _ then _ else _ : AccountProgram Unit) env world).1 ≠ _
  split
  · intro h
    cases h
  · exact nextWrite_not_endpoint env

theorem checkpoint_not_endpoint (cid : String) (status : LocalStatus) (env : JobEnv)
    (world : AccountWorld) : (checkpoint cid status env world).1 ≠ .raised .endpoint := by
  unfold checkpoint
  rw [Program.run_bind]
  have hcall : (checkpointRemote env world).1 ≠ .raised .endpoint :=
    nextProgressCall_not_endpoint env
  rcases hrun : checkpointRemote env world with ⟨exit, env', world'⟩
  rw [hrun] at hcall
  cases exit with
  | returned value => exact progress_not_endpoint status (some cid) env' world'
  | raised error =>
    intro h
    exact hcall (congrArg _ (Exit.raised.inj h))
  | crashed =>
    intro h
    cases h

section Exits

variable {before after : AccountWorld → Prop} {α β : Type} {env : JobEnv} {world : AccountWorld}

/-- The same exception, raised out of a program of another type. -/
theorem Connecting.raised {error : HandlerError}
    (h : Connecting before after (.raised error : Exit HandlerError α) env world) :
    Connecting before after (.raised error : Exit HandlerError β) env world :=
  ⟨h.1, fun hendpoint => h.2 (congrArg _ (Exit.raised.inj hendpoint))⟩

theorem Connecting.returned (value : α) (h : after world) :
    Connecting before after (.returned value : Exit HandlerError α) env world :=
  ⟨h, fun hendpoint => by cases hendpoint⟩

theorem Connecting.crashed (h : after world) :
    Connecting before after (.crashed : Exit HandlerError α) env world :=
  ⟨h, fun hendpoint => by cases hendpoint⟩

/-- A candidate that did not return `false` satisfies more than the connection does. -/
theorem Connecting.tried {exit : Exit HandlerError Bool}
    (h : Connecting before after exit env world) (hexit : exit ≠ .returned false) :
    Tried before after exit env world := ⟨h, fun hfalse => absurd hfalse hexit⟩

end Exits

section Connection

variable {before after : AccountWorld → Prop} {α β : Type}

/-- Work before the activation. -/
theorem Phases.first (hphases : Phases before after) {p : AccountProgram α}
    {f : α → AccountProgram β} (hp : Keeps before p)
    (hf : ∀ value, Triple (fun _ => before) (f value) (Connecting before after)) :
    Triple (fun _ => before) (p >>= f) (Connecting before after) := by
  refine triple_bind hp hf ?_ ?_
  · exact fun error env world h => ⟨hphases.weaker world h, fun _ => h⟩
  · exact fun env world h => ⟨hphases.weaker world h, fun _ => h⟩

/-- The last work before the activation could begin. -/
theorem Phases.only (hphases : Phases before after) {p : AccountProgram α}
    (hp : Keeps before p) : Triple (fun _ => before) p (Connecting before after) :=
  Triple.weaken hp (fun _ _ h => h) fun _ _ world h => ⟨hphases.weaker world h, fun _ => h⟩

/-- Work after the activation, none of which disproves the endpoint. -/
theorem Phases.later {p : AccountProgram α} (hp : Keeps after p)
    (hexit : ∀ env world, (p env world).1 ≠ .raised .endpoint) :
    Triple (fun _ => after) p (Connecting before after) :=
  fun env world hw => ⟨hp env world hw, fun h => absurd h (hexit env world)⟩

theorem Phases.activate (hphases : Phases before after) (cid : String) :
    Triple (fun _ => before) (checkpoint cid .connected) (Connecting before after) := by
  refine (Phases.later (hphases.settled.checkpoint cid (by decide))
    (checkpoint_not_endpoint cid .connected)).weaken ?_ fun _ _ _ h => h
  exact fun _ world h => hphases.weaker world h

theorem Phases.verifyAndActivate (hphases : Phases before after) (cid : String) (newOnly : Bool) :
    Triple (fun _ => before) (TradeJournalWorker.verifyAndActivate cid newOnly)
      (Connecting before after) := by
  have hcheckpoint : ∀ {status}, status ≠ .connected →
      Keeps before (TradeJournalWorker.checkpoint cid status) :=
    fun hstatus => hphases.working.checkpoint cid hstatus
  refine hphases.first (hcheckpoint (by decide)) fun _ => hphases.first keeps_operation fun _ => ?_
  refine hphases.first (hcheckpoint (by decide)) fun _ => ?_
  refine hphases.first (hcheckpoint (by decide)) fun _ => ?_
  refine hphases.first keeps_operation fun _ => hphases.first keeps_operation fun _ => ?_
  refine hphases.first (keeps_importBundle newOnly) fun _ => ?_
  refine hphases.first (hcheckpoint (by decide)) fun _ => ?_
  refine hphases.first (hcheckpoint (by decide)) fun _ => ?_
  refine hphases.first keeps_operation fun _ => hphases.first keeps_operation fun _ => ?_
  exact hphases.activate cid

/-- The seal behind the activation only raises an `AgentError` that leaves the endpoint alone. -/
theorem Phases.seal : Triple (fun _ => after) (wrapping .agent operation)
    (Connecting before after) := by
  refine Phases.later (keeps_wrapping _ keeps_operation) fun env world => ?_
  unfold wrapping Program.tryCatch operation Program.perform
  rcases (env.nextOperation).1 with _ | _ | _ <;> intro h <;> cases h

theorem Phases.startFileBridgeAndSync (hphases : Phases before after) (cid : String)
    (newOnly : Bool) : Triple (fun _ => before)
      (TradeJournalWorker.startFileBridgeAndSync cid newOnly) (Connecting before after) := by
  have hcheckpoint : ∀ {status}, status ≠ .connected →
      Keeps before (TradeJournalWorker.checkpoint cid status) :=
    fun hstatus => hphases.working.checkpoint cid hstatus
  refine hphases.first keeps_operation fun _ => hphases.first keeps_operation fun _ => ?_
  refine hphases.first (hcheckpoint (by decide)) fun _ => hphases.first keeps_operation fun _ => ?_
  refine hphases.first keeps_operation fun _ => hphases.first keeps_operation fun _ => ?_
  refine hphases.first (hcheckpoint (by decide)) fun _ => ?_
  refine hphases.first (hcheckpoint (by decide)) fun _ => hphases.first keeps_operation fun _ => ?_
  have hbody : Triple (fun _ => before)
      (Program.tryCatch (TradeJournalWorker.verifyAndActivate cid newOnly) fun error =>
        Program.raise (fileBridgeError error)) (Connecting before after) := by
    refine triple_tryCatch (hphases.verifyAndActivate cid newOnly) (fun _ _ _ h => h) ?_
      (fun _ _ h => h)
    intro error
    refine triple_raise _ fun env world h => ⟨h.1, fun hendpoint => ?_⟩
    cases error with
    | endpoint => exact h.2 rfl
    | leaseLost => cases hendpoint
    | agent => cases hendpoint
    | wizard => cases hendpoint
    | other => cases hendpoint
  refine triple_bind hbody (fun _ => ?_) (fun error _ _ h => ⟨h.1, fun hendpoint => h.2 ?_⟩)
    (fun _ _ h => ⟨h.1, fun hendpoint => by cases hendpoint⟩)
  · exact Phases.seal.weaken (fun _ _ h => h.1) fun _ _ _ h => h
  · cases hendpoint
    rfl

/-- Work before the activation, where only what holds at the end matters. -/
theorem Phases.lead (hphases : Phases before after) {p : AccountProgram α}
    {f : α → AccountProgram β} (hp : Keeps before p)
    (hf : ∀ value, Triple (fun _ => before) (f value) (fun _ _ => after)) :
    Triple (fun _ => before) (p >>= f) (fun _ _ => after) :=
  triple_bind hp hf (fun _ _ => hphases.weaker) (fun _ => hphases.weaker)

theorem Phases.authenticateAndSync (hphases : Phases before after) (cid : String) :
    Triple (fun _ => before) (TradeJournalWorker.authenticateAndSync cid)
      (fun _ _ => after) := by
  have hcheckpoint : ∀ {status}, status ≠ .connected →
      Keeps before (TradeJournalWorker.checkpoint cid status) :=
    fun hstatus => hphases.working.checkpoint cid hstatus
  refine hphases.lead keeps_operation fun _ => hphases.lead (hcheckpoint (by decide)) fun _ => ?_
  refine hphases.lead keeps_operation fun _ => hphases.lead keeps_operation fun _ => ?_
  refine hphases.lead keeps_operation fun _ => hphases.lead (hcheckpoint (by decide)) fun _ => ?_
  refine hphases.lead (hcheckpoint (by decide)) fun _ => hphases.lead keeps_operation fun _ => ?_
  refine hphases.lead (hcheckpoint (by decide)) fun _ => ?_
  refine hphases.lead (hcheckpoint (by decide)) fun _ => hphases.lead keeps_operation fun _ => ?_
  refine hphases.lead keeps_operation fun _ => hphases.lead (hcheckpoint (by decide)) fun _ => ?_
  refine hphases.lead (hcheckpoint (by decide)) fun _ => hphases.lead keeps_operation fun _ => ?_
  refine hphases.lead (keeps_wrapping _ keeps_operation) fun _ => ?_
  have hactivate := hphases.activate cid
  refine triple_bind hactivate (fun _ => ?_) (fun _ _ _ h => h.1) (fun _ _ h => h.1)
  exact Triple.weaken keeps_operation (fun _ _ h => h.1) fun _ _ _ h => h

theorem Phases.tryCandidate (hphases : Phases before after) (cid : String) (newOnly : Bool) :
    Triple (fun _ => before) (TradeJournalWorker.tryCandidate cid newOnly)
      (Tried before after) := by
  have hbody : Triple (fun _ => before)
      (do TradeJournalWorker.startFileBridgeAndSync cid newOnly
          TradeJournalWorker.checkpoint cid .candidateEndpointAuthenticated
          return true : AccountProgram Bool)
      (fun exit env world => Connecting before after exit env world ∧
        exit ≠ .returned false) := by
    refine triple_bind (hphases.startFileBridgeAndSync cid newOnly) (fun _ => ?_)
      (fun _ _ _ h => ⟨h.raised, fun he => by cases he⟩)
      (fun _ _ h => ⟨.crashed h.1, fun he => by cases he⟩)
    have hcheckpoint : Triple (fun _ => after)
        (TradeJournalWorker.checkpoint cid .candidateEndpointAuthenticated)
        (Connecting before after) :=
      Phases.later (hphases.settled.checkpoint cid (by decide)) (checkpoint_not_endpoint cid _)
    refine triple_bind (hcheckpoint.weaken (fun _ _ h => h.1) fun _ _ _ h => h) (fun _ => ?_)
      (fun _ _ _ h => ⟨h.raised, fun he => by cases he⟩)
      (fun _ _ h => ⟨.crashed h.1, fun he => by cases he⟩)
    exact triple_pure _ fun _ _ h => ⟨.returned true h.1, fun he => by cases he⟩
  have hdisproved : Triple (fun _ => before)
      (do TradeJournalWorker.checkpoint cid .candidateEndpointRejected
          return false : AccountProgram Bool) (Tried before after) := by
    have hbefore : Keeps before
        (do TradeJournalWorker.checkpoint cid .candidateEndpointRejected
            return false : AccountProgram Bool) :=
      preserves_bind (hphases.working.checkpoint cid (by decide)) fun _ => preserves_pure false
    refine Triple.weaken hbefore (fun _ _ h => h) ?_
    exact fun exit env world h => ⟨⟨hphases.weaker world h, fun _ => h⟩, fun _ => h⟩
  refine triple_bind keeps_operation (fun _ => ?_)
    (fun error env world h => ⟨⟨hphases.weaker world h, fun _ => h⟩, fun _ => h⟩)
    (fun env world h => ⟨⟨hphases.weaker world h, fun _ => h⟩, fun _ => h⟩)
  refine triple_tryCatch hbody (fun _ _ _ h => h.1.tried h.2) (fun error => ?_)
    (fun _ _ h => h.1.tried h.2)
  split
  next hendpoint =>
    refine hdisproved.weaken (fun env world h => ?_) fun _ _ _ h => h
    exact h.1.2 (congrArg _ hendpoint)
  next => exact triple_raise _ fun _ _ h => h.1.tried h.2

/-- By induction on the candidates: before each of them nothing has been activated. -/
theorem Phases.tryCandidates (hphases : Phases before after) (cid : String) (newOnly : Bool)
    (count : Nat) :
    Triple (fun _ => before) (TradeJournalWorker.tryCandidates cid newOnly count)
      (Tried before after) := by
  induction count with
  | zero => exact triple_pure _ fun _ world h => ⟨.returned _ (hphases.weaker world h), fun _ => h⟩
  | succ count ih =>
    unfold TradeJournalWorker.tryCandidates
    refine triple_bind (hphases.tryCandidate cid newOnly) (fun authenticated => ?_)
      (fun _ _ _ h => h) (fun _ _ h => h)
    cases authenticated with
    | true => exact triple_pure _ fun _ _ h => h
    | false => exact ih.weaken (fun _ _ h => h.2 rfl) fun _ _ _ h => h

theorem Phases.wizardAfterCandidates (hphases : Phases before after) (cid : String)
    (newOnly configured : Bool) :
    Triple (fun _ => before) (TradeJournalWorker.wizardAfterCandidates cid newOnly configured)
      (Connecting before after) := by
  refine hphases.first (keeps_requireWizard configured) fun _ => ?_
  refine hphases.first keeps_operation fun _ => ?_
  refine hphases.first (hphases.working.checkpoint cid (by decide)) fun _ => ?_
  refine hphases.first (hphases.working.runBrokerWizard cid (by decide)) fun _ => ?_
  exact hphases.first keeps_operation fun _ => hphases.startFileBridgeAndSync cid newOnly

theorem Phases.connectAccount (hphases : Phases before after) (cid : String) (env : JobEnv)
    (plan : EndpointPlan) :
    Triple (fun _ => before) (TradeJournalWorker.connectAccount cid env plan)
      (fun _ _ => after) := by
  have hstart : Triple (fun _ => before)
      (TradeJournalWorker.startFileBridgeAndSync cid env.newOnly) (fun _ _ => after) :=
    (hphases.startFileBridgeAndSync cid env.newOnly).weaken (fun _ _ h => h) fun _ _ _ h => h.1
  unfold TradeJournalWorker.connectAccount
  split
  · exact hphases.authenticateAndSync cid
  · cases plan with
    | census => exact hstart
    | direct => exact hstart
    | candidates count =>
      refine triple_bind (hphases.tryCandidates cid env.newOnly count) (fun authenticated => ?_)
        (fun _ _ _ h => h.1.1) (fun _ _ h => h.1.1)
      cases authenticated with
      | true => exact triple_pure _ fun _ _ h => h.1.1
      | false =>
        refine (hphases.wizardAfterCandidates cid env.newOnly env.wizardConfigured).weaken ?_ ?_
        · exact fun _ _ h => h.2 rfl
        · exact fun _ _ _ h => h.1

theorem keeps_invalidateFailedEndpoint {inv : AccountWorld → Prop} (error : HandlerError) :
    Keeps inv (invalidateFailedEndpoint error) := by
  unfold invalidateFailedEndpoint
  split
  · exact preserves_bind (keeps_wrapping _ keeps_operation) fun _ => preserves_raise _
  · exact preserves_raise _

theorem Phases.censusIfNeeded (hphases : Phases before after) (cid : String) (env : JobEnv)
    (plan : EndpointPlan) : Keeps before (TradeJournalWorker.censusIfNeeded cid env plan) := by
  unfold TradeJournalWorker.censusIfNeeded
  split
  · exact hphases.working.censusBroker cid _ (by decide) (by decide) (by decide)
  · exact preserves_pure _

/-- Whatever way `_provision_once` ends, an account it activated is guarded. -/
theorem Phases.provisionOnce (hphases : Phases before after) (cid : String) :
    Triple (fun _ => before) (TradeJournalWorker.provisionOnce cid) (fun _ _ => after) := by
  unfold TradeJournalWorker.provisionOnce
  refine hphases.lead preserves_getEnv fun env => hphases.lead keeps_operation fun _ => ?_
  refine hphases.lead keeps_operation fun _ => hphases.lead (keeps_perform _) fun plan => ?_
  refine hphases.lead (hphases.censusIfNeeded cid env plan) fun _ => ?_
  refine hphases.lead keeps_operation fun _ => hphases.lead (keeps_perform _) fun _ => ?_
  refine hphases.lead (keeps_wrapping _ keeps_operation) fun _ => ?_
  refine hphases.lead (keeps_setSecrets hphases.working true) fun _ => ?_
  refine hphases.lead (keeps_wrapping _ hphases.working.provisionInstance) fun _ => ?_
  refine hphases.lead (hphases.working.checkpoint cid (by decide)) fun _ => ?_
  refine hphases.lead (keeps_wrapping _ keeps_operation) fun _ => ?_
  have hconnect : Triple (fun _ => before)
      (Program.tryCatch (TradeJournalWorker.connectAccount cid env plan) invalidateFailedEndpoint)
      (fun _ _ => after) := by
    refine triple_tryCatch (hphases.connectAccount cid env plan) (fun _ _ _ h => h) ?_
      (fun _ _ h => h)
    exact fun error => keeps_invalidateFailedEndpoint error
  refine triple_bind hconnect (fun _ => ?_) (fun _ _ _ h => h) (fun _ _ h => h)
  refine preserves_bind keeps_operation fun _ => preserves_bind keeps_operation fun _ => ?_
  exact hphases.settled.progress (by decide) none

end Connection

end TradeJournalWorker
