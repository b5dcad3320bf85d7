import TradeJournalWorker.HostSystem
import TradeJournalWorker.SupervisorCalls

namespace TradeJournalWorker

open ActionPrograms LauncherWorld Supervisor

/-- Every process that was found alive once is gone. -/
def LauncherWorld.SightedDown (world : LauncherWorld) : Prop :=
  ∀ (handle : Nat) (status : ProcessStatus), world.handles[handle]? = some status →
    handle ∈ world.sighted → status.up = false

/-- What a host may ask for, by its phase: launchers only once it is registered, and the removal
of the PID file only when its launchers that came up are gone. -/
def HostPhase.Permits (phase : HostPhase) (launchers : LauncherWorld) : HostAction → Prop
  | .supervise (.saveState _) => True
  | .supervise _ => phase = .registered
  | .readPid => phase = .fresh
  | .pidIsAlive pid => phase = .reading pid
  | .writePid => phase = .past
  | .unlinkPid => phase = .leaving ∨ (phase = .registered ∧ launchers.SightedDown)
  | .forceKill _ => False
  | .spawnHost => False
  | _ => True

def hostWatcher : Watcher HostAction HostAction.Answer (HostPhase × LauncherWorld) where
  allowed seen action := seen.1.Permits seen.2 action
  step seen action answer seen' :=
    seen'.1 = seen.1.next action answer ∧ Host.Answers True seen.2 action answer seen'.2

theorem LauncherWorld.SightedDown.drift {world world' : LauncherWorld} (h : world.SightedDown)
    (drift : world.Drifts world') : world'.SightedDown := by
  intro handle status' hget hsighted
  obtain ⟨status, hbefore, hdrift⟩ := drift.before hget
  rw [drift.2] at hsighted
  have hdown := h handle status hbefore hsighted
  by_contra hup
  rw [hdrift.up (by simpa using hup)] at hdown
  cases hdown

theorem LauncherWorld.OnlyUp.sightedDown {world : LauncherWorld} (h : world.OnlyUp none) :
    world.SightedDown := by
  intro handle status hget _
  by_contra hup
  cases h handle status hget (by simpa using hup)

theorem LauncherWorld.Launching.sightedDown {handle : Nat} {world : LauncherWorld}
    (h : world.Launching handle) : world.SightedDown := by
  intro other status hget hsighted
  by_contra hup
  cases Option.some.inj (h.2.1 other status hget (by simpa using hup))
  exact h.2.2 hsighted

theorem except_mapError_id {ε α : Type} (outcome : Except ε α) : outcome.mapError id = outcome := by
  cases outcome <;> rfl

/-- A registered host's supervisor calls do what they do alone. -/
theorem ensures_supervise {α : Type} {method : SupervisorMethod α}
    {pre : Supervisor → LauncherWorld → Prop}
    {post : Except LauncherError α → Supervisor → LauncherWorld → Prop}
    (h : Ensures (watcher True) pre method post) :
    Ensures hostWatcher (fun supervisor seen => seen.1 = .registered ∧ pre supervisor seen.2)
      (WorkerHost.supervise method)
      fun left supervisor seen => seen.1 = .registered ∧ post left supervisor seen.2 := by
  rintro supervisor ⟨phase, world⟩ ⟨hphase, hpre⟩
  cases hphase
  have hlift : ActionPrograms.Meets hostWatcher
      (fun left seen => ∃ world', seen = (.registered, world') ∧ post left.1 left.2 world')
      ((method supervisor).lift HostAction.supervise fun _ given => given)
      (.registered, world) := by
    refine (h supervisor world hpre).lift (fun world seen => seen = (HostPhase.registered, world)) rfl ?_ ?_
    · rintro world _ action rfl _
      cases action <;> first | exact trivial | rfl
    · rintro world _ action given ⟨phase', world'⟩ rfl ⟨hphase', hanswers⟩
      refine ⟨world', hanswers, ?_⟩
      have hregistered : phase' = .registered := hphase'
      rw [hregistered]
  refine hlift.andThen ?_
  rintro ⟨left, supervisor'⟩ seen' ⟨world', rfl, hpost⟩
  refine ⟨rfl, ?_⟩
  simpa only [except_mapError_id] using hpost

section rules

variable {α : Type} {Q : Supervisor → Prop} {seenBefore : HostPhase × LauncherWorld → Prop}
  {post : Except LauncherError α → Supervisor → HostPhase × LauncherWorld → Prop}

theorem ensures_hostAsk {action : HostAction} {f : action.Answer → HostMethod α}
    (seenAfter : action.Answer → HostPhase × LauncherWorld → Prop)
    (hpermits : ∀ seen, seenBefore seen → seen.1.Permits seen.2 action)
    (h : ∀ seen answer launchers, seenBefore seen →
      Host.Answers True seen.2 action answer launchers →
        seenAfter answer (seen.1.next action answer, launchers))
    (rest : ∀ answer, Ensures hostWatcher
      (fun supervisor seen => Q supervisor ∧ seenAfter answer seen) (f answer) post) :
    Ensures hostWatcher (fun supervisor seen => Q supervisor ∧ seenBefore seen)
      (Method.perform action >>= f) post := by
  refine ensures_ask (fun answer supervisor seen => Q supervisor ∧ seenAfter answer seen)
    (fun _ seen hpre => hpermits seen hpre.2) ?_ rest
  rintro supervisor seen answer ⟨phase', launchers'⟩ hpre ⟨hphase, hanswers⟩
  have hafter := h seen answer launchers' hpre.2 hanswers
  rw [← hphase] at hafter
  exact ⟨hpre.1, hafter⟩

/-- The worker's state file may be written in every phase. -/
theorem ensures_superviseSave (f : AccountWorker → AccountWorker)
    (hdrift : ∀ phase world world', seenBefore (phase, world) → world.Drifts world' →
      seenBefore (phase, world')) :
    Ensures hostWatcher (fun _ seen => seenBefore seen)
      (WorkerHost.supervise (Supervisor.updateWorker f))
      fun left _ seen => left = .ok () ∧ seenBefore seen := by
  rintro supervisor ⟨phase, world⟩ hseen
  refine ⟨trivial, ?_⟩
  rintro answer ⟨phase', world'⟩ ⟨hphase, drifted, hdrifts, hworld'⟩
  have hphase' : phase' = phase := hphase
  have hsame : world' = drifted := hworld'
  rw [hphase', hsame]
  exact ⟨rfl, hdrift phase world drifted hseen hdrifts⟩

end rules

/-- The worker has not failed and its newest launcher is the only one that may be up. -/
def Serving (supervisor : Supervisor) (seen : HostPhase × LauncherWorld) : Prop :=
  seen.1 = .registered ∧ ∃ state restarts max handle count, state ≠ WorkerState.failedClosed ∧
    Stands state restarts max handle supervisor ∧ seen.2.Numbered count ∧ seen.2.Tidy handle

/-- The host is done with its launchers. -/
def Served (seen : HostPhase × LauncherWorld) : Prop :=
  seen.1 = .registered ∧ seen.2.SightedDown

theorem ensures_startSupervisor {state : WorkerState} {restarts max : Nat}
    {handle : Option Nat} {count : Nat} (timeout interval polls : Nat) :
    Ensures hostWatcher (fun supervisor seen => seen.1 = .registered ∧
        Stands state restarts max handle supervisor ∧ seen.2.Numbered count ∧ seen.2.OnlyUp none)
      (WorkerHost.startSupervisor timeout interval polls)
      fun left supervisor seen =>
        (left = .ok none ∧ Serving supervisor seen) ∨
        ((left = .ok (some WorkerHost.exitStartupFailure) ∨ ∃ error, left = .error error) ∧
          Served seen) := by
  have hstart : Ensures (watcher True)
      (fun supervisor world => Stands state restarts max handle supervisor ∧
        world.Numbered count ∧ world.OnlyUp none)
      (Supervisor.start timeout interval polls)
      fun left supervisor world =>
        (left = .ok () ∧ Stands .healthy restarts max (some count) supervisor ∧
          world.Launched count) ∨ ((∃ error, left = .error error) ∧ world.SightedDown) := by
    by_cases hstate : state = .failedClosed
    · subst hstate
      have hrefused := @ensures_start_refused True (fun world => world.Numbered count ∧
        world.OnlyUp none) restarts max handle timeout interval polls
      refine hrefused.weaken (fun _ _ h => h) ?_
      exact fun left supervisor world h => .inr ⟨⟨_, h.1⟩, h.2.2.2.sightedDown⟩
    · refine (ensures_start hstate timeout interval polls).weaken (fun _ _ h => h) ?_
      rintro left supervisor world (h | ⟨herror, _, hup⟩)
      · exact .inl h
      · exact .inr ⟨herror, hup.sightedDown⟩
  refine ensures_tryExcept (fun left supervisor seen =>
    (left = .ok none ∧ Serving supervisor seen) ∨ ((∃ error, left = .error error) ∧ Served seen))
    ?_ ?_ ?_
  · refine ensures_bind _ (ensures_supervise hstart) ?_ ?_
    · rintro value supervisor seen ⟨hphase, ⟨_, hstands, hup⟩ | ⟨⟨_, hfalse⟩, _⟩⟩
      · exact .inl ⟨rfl, hphase, .healthy, _, _, _, _, by decide, hstands, hup.1, hup.2.1⟩
      · cases hfalse
    · rintro error supervisor seen ⟨hphase, ⟨hfalse, _⟩ | ⟨_, hdown⟩⟩
      · cases hfalse
      · exact .inr ⟨⟨error, rfl⟩, hphase, hdown⟩
  · rintro value supervisor seen (h | ⟨⟨_, hfalse⟩, _⟩)
    · exact .inl h
    · cases hfalse
  · rintro error supervisor seen (⟨hfalse, _⟩ | ⟨_, hserved⟩)
    · cases hfalse
    · cases error with
      | supervisorError message => exact .inr ⟨.inl rfl, hserved⟩
      | other message => exact .inr ⟨.inr ⟨_, rfl⟩, hserved⟩

section serving

variable {state : WorkerState} {restarts max count : Nat} {handle : Option Nat}

theorem ensures_markRunning (hstate : state ≠ .failedClosed) :
    Ensures hostWatcher
      (fun supervisor seen => seen.1 = .registered ∧
        Stands state restarts max handle supervisor ∧ seen.2.Numbered count ∧ seen.2.Tidy handle)
      WorkerHost.markRunning
      fun left supervisor seen => left = .ok () ∧ Serving supervisor seen := by
  refine ensures_read fun seen => ?_
  by_cases hhealthy : seen.worker.stateFile.state = .healthy
  · rw [if_pos hhealthy]
    have hrunning : Supervisor.Quiet True (Stands state restarts max handle)
        (Stands .running restarts max handle) (setState .running) := quiet_setState _
    refine (ensures_supervise (hrunning _ (steady_tidy count handle))).weaken (fun _ _ h => h.2) ?_
    exact fun _ _ _ h => ⟨h.2.1, h.1, .running, _, _, _, _, by decide, h.2.2⟩
  · rw [if_neg hhealthy]
    exact fun supervisor seen h => ⟨rfl, h.2.1, state, _, _, _, _, hstate, h.2.2⟩

theorem Serving.drift {supervisor : Supervisor} {phase : HostPhase} {world world' : LauncherWorld}
    (h : Serving supervisor (phase, world)) (hdrift : world.Drifts world') :
    Serving supervisor (phase, world') := by
  obtain ⟨hphase, state, restarts, max, handle, count, hstate, hstands, hnum, htidy⟩ := h
  exact ⟨hphase, state, restarts, max, handle, count, hstate, hstands, hnum.drift hdrift,
    htidy.drift hdrift⟩

/-- An action of a serving host that only takes time. -/
theorem ensures_askServing {α : Type} {action : HostAction} {f : action.Answer → HostMethod α}
    {post : Except LauncherError α → Supervisor → HostPhase × LauncherWorld → Prop}
    (hpermits : ∀ world, HostPhase.registered.Permits world action)
    (hphase : ∀ answer, HostPhase.registered.next action answer = .registered)
    (hdrift : ∀ world answer world', Host.Answers True world action answer world' →
      world.Drifts world')
    (rest : ∀ answer, Ensures hostWatcher Serving (f answer) post) :
    Ensures hostWatcher Serving (Method.perform action >>= f) post := by
  refine ensures_ask (fun _ => Serving) ?_ ?_ rest
  · rintro supervisor ⟨phase, world⟩ ⟨hregistered, _⟩
    cases hregistered
    exact hpermits world
  · rintro supervisor ⟨phase, world⟩ answer ⟨phase', world'⟩ hserving ⟨hphase', hanswers⟩
    have hregistered : phase = .registered := hserving.1
    have hsame : phase' = phase := by
      rw [hregistered] at hphase' ⊢
      exact hphase'.trans (hphase answer)
    rw [hsame]
    exact hserving.drift (hdrift world answer world' hanswers)

theorem ensures_launcherPidOf (asked : Option Nat) :
    Ensures hostWatcher Serving (WorkerHost.launcherPidOf asked)
      fun left supervisor seen => (∃ pid, left = .ok pid) ∧ Serving supervisor seen := by
  cases asked with
  | none => exact fun _ _ h => ⟨⟨none, rfl⟩, h⟩
  | some launcher =>
    exact ensures_askServing (fun _ => trivial) (fun _ => rfl) (fun _ _ _ h => h)
      fun pid _ _ h => ⟨⟨pid, rfl⟩, h⟩

/-- A registered host's save. -/
theorem ensures_setLauncherPid (pid : Option Nat) :
    Ensures hostWatcher Serving (WorkerHost.setLauncherPid pid)
      fun left supervisor seen => left = .ok () ∧ Serving supervisor seen := by
  rintro supervisor seen ⟨hphase, state, restarts, max, handle, count, hstate, hstands, hworld⟩
  have hquiet : Supervisor.Quiet True (Stands state restarts max handle) (Stands state restarts max handle)
      (updateWorker (·.withLauncherPid pid)) := quiet_updateWorker _ fun _ h => h
  refine (ensures_supervise (hquiet _ (steady_tidy count handle)) supervisor seen
    ⟨hphase, hstands, hworld⟩).weaken ?_
  rintro ⟨left, supervisor'⟩ seen' ⟨hphase', hleft, hserving⟩
  exact ⟨hleft, hphase', state, restarts, max, handle, count, hstate, hserving⟩

theorem ensures_sync :
    Ensures hostWatcher Serving WorkerHost.syncProcessMetadata
      fun left supervisor seen => left = .ok () ∧ Serving supervisor seen := by
  have hmark : Ensures hostWatcher Serving WorkerHost.markRunning
      fun left supervisor seen => left = .ok () ∧ Serving supervisor seen := by
    rintro supervisor seen ⟨hphase, state, restarts, max, handle, count, hstate, hserving⟩
    exact ensures_markRunning hstate supervisor seen ⟨hphase, hserving⟩
  refine ensures_bind _ hmark ?_ (fun _ _ _ h => nomatch h.1)
  intro _
  refine ensures_read fun seen => ?_
  refine Ensures.start (ensures_bind _ (ensures_launcherPidOf seen.handle) ?_ ?_)
    (fun _ _ h => h.2.2)
  · exact fun pid => (ensures_setLauncherPid pid).start fun _ _ h => h.2
  · rintro error _ _ ⟨⟨_, hfalse⟩, _⟩
    cases hfalse

theorem ensures_stopRequested :
    Ensures hostWatcher Serving WorkerHost.stopRequested
      fun left supervisor seen => (∃ requested, left = .ok requested) ∧
        Serving supervisor seen := by
  refine ensures_askServing (fun _ => trivial) (fun _ => rfl) (fun _ _ _ h => h) fun control => ?_
  cases control with
  | true => exact fun _ _ h => ⟨⟨true, rfl⟩, h⟩
  | false =>
    exact ensures_askServing (fun _ => trivial) (fun _ => rfl) (fun _ _ _ h => h)
      fun signalled _ _ h => ⟨⟨signalled, rfl⟩, h⟩

/-- An ordered stop leaves nothing up, whether it raises or not. -/
theorem ensures_orderedStop :
    Ensures hostWatcher Serving (WorkerHost.supervise Supervisor.stop)
      fun _ _ seen => Served seen := by
  rintro supervisor seen ⟨hphase, state, restarts, max, handle, count, _, hstands, hnum, htidy⟩
  refine (ensures_supervise (ensures_stop False) supervisor seen
    ⟨hphase, hstands, hnum, htidy, False.elim⟩).weaken ?_
  rintro left seen' ⟨hphase', _, ⟨_, _, hnone⟩ | ⟨_, _, _, hnone⟩⟩
  · exact ⟨hphase', hnone.sightedDown⟩
  · exact ⟨hphase', (hnone (.inl trivial)).sightedDown⟩

theorem ensures_check :
    Ensures hostWatcher Serving (WorkerHost.supervise Supervisor.checkLiveness)
      fun left supervisor seen => (left = .ok .failedClosed ∧ Served seen) ∨
        (∃ state, left = .ok state ∧ state ≠ .failedClosed ∧ Serving supervisor seen) := by
  rintro supervisor seen ⟨hphase, state, restarts, max, handle, count, hstate, hstands, hnum,
    htidy⟩
  refine (ensures_supervise (ensures_checkLiveness False hstate) supervisor seen
    ⟨hphase, hstands, hnum, htidy, False.elim⟩).weaken ?_
  rintro ⟨left, supervisor'⟩ seen' ⟨hphase', hleft, ⟨_, hstands', hnum', htidy'⟩ | hcrash⟩
  · refine .inr ⟨_, hleft, ?_, hphase', .healthy, _, _, _, _, by decide, hstands', hnum', htidy'⟩
    rw [hstands'.1]
    decide
  · obtain ⟨_, hstands', _, hnone⟩ | ⟨_, hstands', hup⟩ | ⟨_, hstands', hup⟩ := hcrash
    · exact .inl ⟨by rw [← hstands'.1]; exact hleft, hphase', hnone.sightedDown⟩
    · refine .inr ⟨_, hleft, ?_, hphase', .healthy, _, _, _, _, by decide, hstands', hup.1,
        hup.2.1⟩
      rw [hstands'.1]
      decide
    · exact .inl ⟨by rw [← hstands'.1]; exact hleft, hphase', hup.sightedDown⟩

theorem ensures_tick (interval ticks : Nat) :
    Ensures hostWatcher Serving (WorkerHost.tick interval ticks)
      fun _ _ seen => Served seen := by
  induction ticks with
  | zero => exact fun _ _ _ => trivial
  | succ ticks ih =>
    refine ensures_bind _ ensures_stopRequested ?_ ?_
    · intro requested
      cases requested with
      | true =>
        refine Ensures.start (ensures_bind _ ensures_orderedStop ?_ ?_) (fun _ _ h => h.2)
        · exact fun _ _ _ h => h
        · exact fun _ _ _ h => h
      | false =>
        refine Ensures.start (ensures_bind _ ensures_check ?_ ?_) (fun _ _ h => h.2)
        · intro state
          by_cases hfailed : state = .failedClosed
          · rw [if_pos hfailed]
            rintro supervisor seen (⟨_, hserved⟩ | ⟨_, hleft, hne, _⟩)
            · exact hserved
            · cases hleft
              exact absurd hfailed hne
          · rw [if_neg hfailed]
            refine Ensures.start (ensures_bind _ ensures_sync ?_ ?_) ?_
            · intro _
              refine Ensures.start (ensures_askServing (fun _ => rfl) (fun _ => rfl) ?_
                fun _ => ih) (fun _ _ h => h.2)
              rintro world _ world' ⟨drifted, hdrift, hworld'⟩
              rw [hworld']
              exact hdrift
            · rintro error _ _ ⟨hfalse, _⟩
              cases hfalse
            · rintro supervisor seen (⟨hleft, _⟩ | ⟨_, _, _, hserving⟩)
              · cases hleft
                exact absurd rfl hfailed
              · exact hserving
        · rintro error _ _ (⟨hfalse, _⟩ | ⟨_, hfalse, _⟩) <;> cases hfalse
    · rintro error _ _ ⟨⟨_, hfalse⟩, _⟩
      cases hfalse

theorem ensures_serve (timeout interval polls ticks : Nat) :
    Ensures hostWatcher (fun supervisor seen => seen.1 = .registered ∧
        Stands state restarts max handle supervisor ∧ seen.2.Numbered count ∧ seen.2.OnlyUp none)
      (WorkerHost.serve timeout interval polls ticks)
      fun _ _ seen => Served seen := by
  refine ensures_bind _ (ensures_startSupervisor timeout interval polls) ?_ ?_
  · intro failure
    cases failure with
    | some code =>
      rintro supervisor seen (⟨hfalse, _⟩ | ⟨_, hserved⟩)
      · cases hfalse
      · exact hserved
    | none =>
      refine Ensures.start (ensures_bind _ ensures_sync ?_ ?_) ?_
      · exact fun _ => (ensures_tick interval ticks).start fun _ _ h => h.2
      · rintro error _ _ ⟨hfalse, _⟩
        cases hfalse
      · rintro supervisor seen (⟨_, hserving⟩ | ⟨hfalse | ⟨_, hfalse⟩, _⟩)
        · exact hserving
        · cases hfalse
        · cases hfalse
  · rintro error supervisor seen (⟨hfalse, _⟩ | ⟨_, hserved⟩)
    · cases hfalse
    · exact hserved

end serving

section finishing

/-- The host removes its PID file or has done so. -/
def Closing (seen : HostPhase × LauncherWorld) : Prop := seen.1 = .leaving ∨ Served seen

theorem Closing.drift {phase : HostPhase} {world world' : LauncherWorld}
    (h : Closing (phase, world)) (hdrift : world.Drifts world') : Closing (phase, world') := by
  obtain hleaving | ⟨hphase, hdown⟩ := h
  · exact .inl hleaving
  · exact .inr ⟨hphase, hdown.drift hdrift⟩

/-- An action of a closing host that only takes time. -/
theorem ensures_askClosing {α : Type} {action : HostAction} {f : action.Answer → HostMethod α}
    {post : Except LauncherError α → Supervisor → HostPhase × LauncherWorld → Prop}
    (hpermits : ∀ phase : HostPhase, ∀ world, phase.Permits world action)
    (hphase : ∀ (phase : HostPhase) answer, phase.next action answer = phase)
    (hdrift : ∀ world answer world', Host.Answers True world action answer world' →
      world.Drifts world')
    (rest : ∀ answer, Ensures hostWatcher (fun _ => Closing) (f answer) post) :
    Ensures hostWatcher (fun _ => Closing) (Method.perform action >>= f) post := by
  refine ensures_ask (fun _ _ => Closing) (fun _ seen _ => hpermits seen.1 seen.2) ?_ rest
  rintro supervisor ⟨phase, world⟩ answer ⟨phase', world'⟩ hclosing ⟨hphase', hanswers⟩
  have hsame : phase' = phase := hphase'.trans (hphase phase answer)
  rw [hsame]
  exact hclosing.drift (hdrift world answer world' hanswers)

theorem ensures_askUnlinkPid {α : Type} {f : Bool → HostMethod α}
    {post : Except LauncherError α → Supervisor → HostPhase × LauncherWorld → Prop}
    (rest : ∀ found, Ensures hostWatcher (fun _ seen => seen.1 = .leaving) (f found) post) :
    Ensures hostWatcher (fun _ => Closing) (Method.perform HostAction.unlinkPid >>= f) post := by
  refine ensures_ask (fun _ _ seen => seen.1 = .leaving) (fun _ seen h => h) ?_ rest
  rintro supervisor ⟨phase, world⟩ answer ⟨phase', world'⟩ hclosing ⟨hphase', _⟩
  obtain hleaving | ⟨hregistered, _⟩ := hclosing
  · have hsame : phase = .leaving := hleaving
    rw [hsame] at hphase'
    exact hphase'
  · have hsame : phase = .registered := hregistered
    rw [hsame] at hphase'
    exact hphase'

theorem ensures_unlinkControl (listed : Bool) :
    Ensures hostWatcher (fun _ => Closing) (WorkerHost.unlinkListed listed .unlinkControl id)
      fun _ _ => Closing := by
  cases listed with
  | false => exact fun _ _ h => h
  | true =>
    refine ensures_askClosing (fun _ _ => trivial) (fun _ _ => rfl) (fun _ _ _ h => h) fun found => ?_
    cases found <;> exact fun _ _ h => h

theorem ensures_unlinkPid (listed : Bool) :
    Ensures hostWatcher (fun _ => Closing) (WorkerHost.unlinkListed listed .unlinkPid id)
      fun _ _ => Closing := by
  cases listed with
  | false => exact fun _ _ h => h
  | true =>
    refine ensures_askUnlinkPid fun found => ?_
    cases found <;> exact fun _ _ h => .inl h

theorem ensures_cleanup :
    Ensures hostWatcher (fun _ => Closing) WorkerHost.cleanup fun _ _ => Closing := by
  refine ensures_askClosing (fun _ _ => trivial) (fun _ _ => rfl) (fun _ _ _ h => h) fun listed => ?_
  refine ensures_askClosing (fun _ _ => trivial) (fun _ _ => rfl) (fun _ _ _ h => h)
    fun removed => ?_
  cases removed with
  | error error => exact fun _ _ h => h
  | ok value =>
    refine ensures_bind (fun _ _ => Closing) (fun _ _ h => h) (fun _ => ?_) (fun _ _ _ h => h)
    refine ensures_bind _ (ensures_unlinkControl listed.1) (fun _ => ?_) (fun _ _ _ h => h)
    refine ensures_bind _ (ensures_unlinkPid listed.2) (fun _ => ?_) (fun _ _ _ h => h)
    exact fun _ _ h => h

theorem ensures_finish :
    Ensures hostWatcher (fun _ => Closing) WorkerHost.finish
      fun left _ seen => left = .ok () ∧ seen.1 = .leaving := by
  have hcleanup : Ensures hostWatcher (fun _ => Closing)
      (WorkerHost.cleanup.tryExcept fun _ => pure ())
      fun left _ seen => left = .ok () ∧ Closing seen :=
    ensures_tryExcept (fun _ _ => Closing) ensures_cleanup (fun _ _ _ h => ⟨rfl, h⟩)
      fun _ _ _ h => ⟨rfl, h⟩
  refine ensures_bind _ hcleanup ?_ (fun _ _ _ h => nomatch h.1)
  intro _
  have hsave : Ensures hostWatcher (fun _ => Closing) (WorkerHost.setLauncherPid none)
      fun left _ seen => left = .ok () ∧ Closing seen :=
    ensures_superviseSave (·.withLauncherPid none) fun _ _ _ h hdrift => h.drift hdrift
  refine Ensures.start (ensures_bind _ hsave ?_ (fun _ _ _ h => nomatch h.1)) (fun _ _ h => h.2)
  intro _
  refine Ensures.start (ensures_askUnlinkPid fun found => ?_) (fun _ _ h => h.2)
  refine ensures_ask (fun _ _ seen => seen.1 = .leaving) (fun _ _ _ => trivial) ?_
    fun _ _ _ h => ⟨rfl, h⟩
  rintro supervisor ⟨phase, world⟩ answer ⟨phase', world'⟩ hleaving ⟨hphase', _⟩
  exact hphase'.trans hleaving

end finishing

/-- A host ends before its registration or after the removal of its PID file. -/
def HostPhase.Ended (phase : HostPhase) : Prop :=
  phase = fresh ∨ phase = refused ∨ phase = leaving

/-- A host that has launched nothing yet. -/
def Unlaunched (phase : HostPhase) (seen : HostPhase × LauncherWorld) : Prop :=
  seen.1 = phase ∧ seen.2.Numbered 0 ∧ seen.2.OnlyUp none

theorem Unlaunched.drift {phase : HostPhase} {seen : HostPhase × LauncherWorld}
    {world' : LauncherWorld} (h : Unlaunched phase seen) (hdrift : seen.2.Drifts world') :
    Unlaunched phase (seen.1, world') :=
  ⟨h.1, h.2.1.drift hdrift, h.2.2.drift hdrift⟩

/-- An action before the launch that leads from one phase to another. -/
theorem ensures_askUnlaunched {α : Type} {phase : HostPhase} {action : HostAction}
    {f : action.Answer → HostMethod α}
    {post : Except LauncherError α → Supervisor → HostPhase × LauncherWorld → Prop}
    (hpermits : ∀ world, phase.Permits world action)
    (hdrift : ∀ world answer world', Host.Answers True world action answer world' →
      world.Drifts world')
    (rest : ∀ answer, Ensures hostWatcher (fun _ => Unlaunched (phase.next action answer))
      (f answer) post) :
    Ensures hostWatcher (fun _ => Unlaunched phase) (Method.perform action >>= f) post := by
  refine ensures_ask (fun answer _ => Unlaunched (phase.next action answer)) ?_ ?_ rest
  · rintro supervisor ⟨phase', world⟩ ⟨hphase, _⟩
    have hsame : phase' = phase := hphase
    rw [hsame]
    exact hpermits world
  · rintro supervisor ⟨phase', world⟩ answer ⟨phase'', world''⟩ ⟨hphase, hworld⟩
      ⟨hphase', hanswers⟩
    have hsame : phase' = phase := hphase
    have hdrifts := hdrift world answer world'' hanswers
    refine ⟨?_, hworld.1.drift hdrifts, hworld.2.drift hdrifts⟩
    rw [hsame] at hphase'
    exact hphase'

theorem ensures_register (timeout interval polls ticks : Nat) :
    Ensures hostWatcher (fun _ => Unlaunched .past)
      (do
        let _ ← Method.perform HostAction.unlinkControl
        Method.perform HostAction.writePid
        (WorkerHost.serve timeout interval polls ticks).tryFinally WorkerHost.finish)
      fun _ _ seen => seen.1.Ended := by
  refine ensures_askUnlaunched (fun _ => trivial) (fun _ _ _ h => h) fun _ => ?_
  refine ensures_askUnlaunched (fun _ => rfl) (fun _ _ _ h => h) fun _ => ?_
  refine ensures_tryFinally (fun _ _ => Served) ?_ ?_
  · rintro supervisor seen ⟨hphase, hworld⟩
    exact ensures_serve timeout interval polls ticks supervisor seen
      ⟨hphase, ⟨rfl, rfl, rfl, rfl⟩, hworld⟩
  · intro left
    exact ensures_finish.weaken (fun _ _ h => .inr h) fun _ _ _ h => .inr (.inr h.2)

theorem ensures_runChecked (timeout interval polls ticks : Nat) :
    Ensures hostWatcher (fun _ => Unlaunched .fresh)
      (WorkerHost.runChecked timeout interval polls ticks)
      fun _ _ seen => seen.1.Ended := by
  refine ensures_askUnlaunched (fun _ => rfl) (fun _ _ _ h => h) fun existing => ?_
  cases existing with
  | none => exact ensures_register timeout interval polls ticks
  | some pid =>
    refine ensures_askUnlaunched (fun _ => rfl) (fun _ _ _ h => h) fun running => ?_
    cases running with
    | true => exact fun _ _ h => .inr (.inl h.1)
    | false => exact ensures_register timeout interval polls ticks

theorem meets_runWorkerHost (maxRestarts timeout interval polls ticks : Nat) :
    ActionPrograms.Meets hostWatcher (fun _ seen => seen.1.Ended)
      (runWorkerHost maxRestarts timeout interval polls ticks) (.fresh, {}) := by
  refine ⟨trivial, ?_⟩
  rintro answer ⟨phase, world⟩ ⟨hphase, hdrift⟩
  have hphase' : phase = .fresh := hphase
  have hnew : LauncherWorld.Numbered 0 {} := ⟨rfl, fun _ hmem => nomatch hmem⟩
  have hnone : LauncherWorld.OnlyUp none {} := by
    intro i status hi
    simp at hi
  cases answer with
  | error error => exact .inl hphase'
  | ok file =>
    refine (ensures_runChecked timeout interval polls ticks _ (phase, world)
      ⟨hphase', hnew.drift hdrift, hnone.drift hdrift⟩).andThen ?_
    exact fun _ _ h => h

end TradeJournalWorker
