import TradeJournalWorker.LauncherWorlds

namespace TradeJournalWorker

open ActionPrograms

namespace Supervisor

open LauncherWorld

variable {firm : Prop} {P : LauncherWorld → Prop}

/-- What the calls look at of the supervisor. -/
def Stands (state : WorkerState) (restarts max : Nat) (handle : Option Nat)
    (supervisor : Supervisor) : Prop :=
  supervisor.worker.stateFile.state = state ∧ supervisor.worker.stateFile.restartCount = restarts ∧
    supervisor.maxRestarts = max ∧ supervisor.handle = handle

/-- An action that only gives the processes time. -/
theorem ensures_askDrifting {α : Type} {action : SupervisorAction} {Q : Supervisor → Prop}
    {f : action.Answer → SupervisorMethod α}
    {post : Except LauncherError α → Supervisor → LauncherWorld → Prop} (hP : Steady P)
    (hquiet : ∀ world answer world', LauncherWorld.Answers firm world action answer world' → world' = world)
    (rest : ∀ answer, Ensures (watcher firm) (fun supervisor world => Q supervisor ∧ P world)
      (f answer) post) :
    Ensures (watcher firm) (fun supervisor world => Q supervisor ∧ P world)
      (Method.perform action >>= f) post := by
  refine ensures_ask (fun _ supervisor world => Q supervisor ∧ P world) ?_ ?_ rest
  · intro _ world hpre
    exact hP.one world hpre.2
  · intro supervisor world answer world' hpre hstep
    obtain ⟨drifted, hdrift, hanswer⟩ := hstep
    rw [hquiet drifted answer world' hanswer]
    exact ⟨hpre.1, hP.drift world drifted hpre.2 hdrift⟩

/-- Nothing but the supervisor's own fields and the state file changes. -/
def Quiet (firm : Prop) (Q Q' : Supervisor → Prop) (m : SupervisorMethod Unit) : Prop :=
  ∀ P, Steady P → Ensures (watcher firm) (fun supervisor world => Q supervisor ∧ P world) m
    fun left supervisor world => left = .ok () ∧ Q' supervisor ∧ P world

theorem Quiet.bind {Q Q' Q'' : Supervisor → Prop} {m m' : SupervisorMethod Unit}
    (h : Quiet firm Q Q' m) (h' : Quiet firm Q' Q'' m') :
    Quiet firm Q Q'' (m >>= fun _ => m') := by
  intro P hP
  refine ensures_bind _ (h P hP) ?_ ?_
  · intro _
    exact (h' P hP).weaken (fun _ _ hmid => hmid.2) fun _ _ _ hpost => hpost
  · intro error _ _ hmid
    cases hmid.1

theorem quiet_modify {Q Q' : Supervisor → Prop} (f : Supervisor → Supervisor)
    (h : ∀ supervisor, Q supervisor → Q' (f supervisor)) :
    Quiet firm Q Q' (Method.modifyFields f) := by
  intro P hP
  exact ensures_modify f fun supervisor world hpre => ⟨rfl, h supervisor hpre.1, hpre.2⟩

theorem quiet_saveState {Q : Supervisor → Prop} :
    Quiet firm Q Q (do
      let supervisor ← Method.readFields
      Method.perform (SupervisorAction.saveState supervisor.worker.stateFile)) := by
  intro P hP
  refine ensures_read fun seen => ensures_perform ?_ ?_
  · intro _ world hpre
    exact hP.one world hpre.2.2
  · intro supervisor world answer world' hpre hstep
    obtain ⟨drifted, hdrift, hworld'⟩ := hstep
    exact ⟨rfl, hpre.2.1, hworld' ▸ hP.drift world drifted hpre.2.2 hdrift⟩

theorem quiet_updateWorker {Q Q' : Supervisor → Prop} (f : AccountWorker → AccountWorker)
    (h : ∀ supervisor, Q supervisor →
      Q' { supervisor with worker := (f supervisor.worker).settled }) :
    Quiet firm Q Q' (updateWorker f) :=
  (quiet_modify _ h).bind quiet_saveState

variable {state : WorkerState} {restarts max : Nat} {handle : Option Nat}

theorem quiet_record (message : String) :
    Quiet firm (Stands state restarts max handle) (Stands state restarts max handle)
      (record message) :=
  quiet_modify _ fun _ h => h

theorem quiet_setState (next : WorkerState) :
    Quiet firm (Stands state restarts max handle) (Stands next restarts max handle)
      (setState next) :=
  quiet_updateWorker _ fun _ h => ⟨rfl, h.2⟩

theorem quiet_trigger (trigger : OnboardingTrigger) :
    Quiet firm (Stands state restarts max handle) (Stands state restarts max handle)
      (applyOnboardingTrigger trigger) :=
  quiet_updateWorker _ fun _ h => h

theorem quiet_heartbeat :
    Quiet firm (Stands state restarts max handle) (Stands state restarts max handle) heartbeat := by
  intro P hP
  refine ensures_askDrifting hP (fun _ _ _ h => h) fun now => ?_
  have hquiet : Quiet firm (Stands state restarts max handle) (Stands state restarts max handle)
      (updateWorker (·.withHeartbeat now)) := quiet_updateWorker _ fun _ h => h
  exact hquiet P hP

theorem quiet_failClosed (reason : FailureReason) :
    Quiet firm (Stands state restarts max handle) (Stands .failedClosed restarts max handle)
      (failClosed reason) :=
  (quiet_trigger _).bind ((quiet_setState _).bind (quiet_record _))

theorem quiet_becomeHealthy (message : String) :
    Quiet firm (Stands state restarts max handle) (Stands .healthy restarts max handle)
      (becomeHealthy message) :=
  (quiet_setState _).bind (quiet_heartbeat.bind (quiet_record _))

theorem Quiet.andThen {α : Type} {Q Q' : Supervisor → Prop} {m : SupervisorMethod Unit}
    {f : SupervisorMethod α} {post : Except LauncherError α → Supervisor → LauncherWorld → Prop}
    (h : Quiet firm Q Q' m) (hP : Steady P)
    (rest : Ensures (watcher firm) (fun supervisor world => Q' supervisor ∧ P world) f post) :
    Ensures (watcher firm) (fun supervisor world => Q supervisor ∧ P world) (m >>= fun _ => f)
      post := by
  refine ensures_bind _ (h P hP) ?_ ?_
  · intro _
    exact rest.weaken (fun _ _ hmid => hmid.2) fun _ _ _ hpost => hpost
  · intro error _ _ hmid
    cases hmid.1

theorem ensures_newHandle {count : Nat} :
    Ensures (watcher firm)
      (fun supervisor world => Stands state restarts max handle supervisor ∧
        world.Numbered count ∧ world.OnlyUp none)
      newHandle
      fun left supervisor world => left = .ok count ∧
        Stands state restarts max (some count) supervisor ∧ world.Launching count := by
  refine ensures_ask (fun answer supervisor world => answer = count ∧
    Stands state restarts max handle supervisor ∧ world.Launching count) ?_ ?_ ?_
  · intro _ world hpre
    exact hpre.2.2.atMostOneAlive
  · intro supervisor world answer world' hpre hstep
    obtain ⟨drifted, hdrift, hanswer, hworld'⟩ := hstep
    have hnum := hpre.2.1.drift hdrift
    refine ⟨by rw [hanswer]; exact hnum.1, hpre.1, ?_⟩
    rw [hworld']
    exact launching_created hnum (hpre.2.2.drift hdrift)
  · intro answer supervisor world hmid
    obtain ⟨rfl, hstands, hworld⟩ := hmid
    exact ⟨rfl, ⟨hstands.1, hstands.2.1, hstands.2.2.1, rfl⟩, hworld⟩

/-- The single question whether the newest handle is alive. -/
theorem launching_isAlive {world world' : LauncherWorld} {count : Nat} {alive : Bool}
    (h : world.Launching count)
    (hstep : (watcher firm).step world (.isAlive count) alive world') :
    if alive then world'.Launched count else world'.Launching count := by
  obtain ⟨drifted, hdrift, halive, hworld'⟩ := hstep
  have hlaunching := (steady_launching count).drift world drifted h hdrift
  cases alive with
  | true =>
    rw [hworld']
    exact hlaunching.sight (of_decide_eq_true halive.symm)
  | false =>
    rw [hworld']
    exact hlaunching

theorem ensures_startHandle {count : Nat} {Q : Supervisor → Prop} :
    Ensures (watcher firm) (fun supervisor world => Q supervisor ∧ world.Launching count)
      (startHandle count) fun _ supervisor world => Q supervisor ∧ world.Launching count := by
  refine ensures_ask (fun _ supervisor world => Q supervisor ∧ world.Launching count) ?_ ?_ ?_
  · intro _ world hpre
    exact (steady_launching count).one world hpre.2
  · intro supervisor world answer world' hpre hstep
    obtain ⟨drifted, hdrift, status, hworld'⟩ := hstep
    rw [hworld']
    exact ⟨hpre.1, ((steady_launching count).drift world drifted hpre.2 hdrift).started status⟩
  · intro answer supervisor world hmid
    cases answer with
    | ok value => exact hmid
    | error error => exact hmid

theorem ensures_pollUntilAlive {count : Nat} {Q : Supervisor → Prop} (deadline interval polls : Nat) :
    Ensures (watcher firm) (fun supervisor world => Q supervisor ∧ world.Launching count)
      (pollUntilAlive count deadline interval polls)
      fun left supervisor world => Q supervisor ∧
        ((left = .ok true ∧ world.Launched count) ∨
          (left = .ok false ∧ world.Launching count)) := by
  induction polls with
  | zero => exact fun _ _ _ => trivial
  | succ polls ih =>
    refine ensures_ask (fun (alive : Bool) supervisor world => Q supervisor ∧
      if alive then world.Launched count else world.Launching count) ?_ ?_ ?_
    · intro _ world hpre
      exact (steady_launching count).one world hpre.2
    · intro supervisor world answer world' hpre hstep
      exact ⟨hpre.1, launching_isAlive hpre.2 hstep⟩
    · intro alive
      cases alive with
      | true => exact fun supervisor world hmid => ⟨hmid.1, .inl ⟨rfl, hmid.2⟩⟩
      | false =>
        refine ensures_askDrifting (steady_launching count) (fun _ _ _ h => h) fun now => ?_
        by_cases hdeadline : deadline ≤ now
        · simp only [hdeadline, if_true]
          exact fun supervisor world hmid => ⟨hmid.1, .inr ⟨rfl, hmid.2⟩⟩
        · simp only [hdeadline, if_false]
          exact ensures_askDrifting (steady_launching count) (fun _ _ _ h => h) fun _ => ih

theorem ensures_waitUntilAlive (count : Nat) (Q : Supervisor → Prop)
    (timeout interval polls : Nat) :
    Ensures (watcher firm) (fun supervisor world => Q supervisor ∧ world.Launching count)
      (waitUntilAlive count timeout interval polls)
      fun left supervisor world => Q supervisor ∧
        ((left = .ok true ∧ world.Launched count) ∨
          (left = .ok false ∧ world.Launching count)) := by
  refine ensures_askDrifting (steady_launching count) (fun _ _ _ h => h) fun now => ?_
  exact ensures_pollUntilAlive _ interval polls

theorem ensures_start_refused (timeout interval polls : Nat) :
    Ensures (watcher firm)
      (fun supervisor world => Stands .failedClosed restarts max handle supervisor ∧ P world)
      (start timeout interval polls)
      fun left supervisor world => left = .error (.supervisorError
          "worker is FAILED_CLOSED; construct a new worker instead of restarting") ∧
        Stands .failedClosed restarts max handle supervisor ∧ P world := by
  refine ensures_bind (fun left supervisor world => left = .error (.supervisorError
      "worker is FAILED_CLOSED; construct a new worker instead of restarting") ∧
    Stands .failedClosed restarts max handle supervisor ∧ P world) ?_ ?_ ?_
  · refine ensures_read fun seen => ?_
    rintro supervisor world ⟨rfl, hstands, hworld⟩
    rw [if_pos hstands.1]
    exact ⟨rfl, hstands, hworld⟩
  · rintro _ _ _ ⟨hleft, _⟩
    cases hleft
  · rintro error supervisor world ⟨hleft, hpost⟩
    cases hleft
    exact ⟨rfl, hpost⟩

theorem quiet_refuse (hstate : state ≠ .failedClosed) :
    Quiet firm (Stands state restarts max handle) (Stands state restarts max handle)
      refuseIfFailedClosed := by
  intro P hP
  refine ensures_read fun seen => ?_
  rintro supervisor world ⟨rfl, hstands, hworld⟩
  have hne : ¬ supervisor.worker.stateFile.state = .failedClosed := by
    rw [hstands.1]
    exact hstate
  rw [if_neg hne]
  exact ⟨rfl, hstands, hworld⟩

/-- A started worker is healthy on a new handle that was found alive, or has failed closed on
a new handle that was not. -/
theorem ensures_start {count : Nat} (hstate : state ≠ .failedClosed) (timeout interval polls : Nat) :
    Ensures (watcher firm)
      (fun supervisor world => Stands state restarts max handle supervisor ∧
        world.Numbered count ∧ world.OnlyUp none)
      (start timeout interval polls)
      fun left supervisor world =>
        (left = .ok () ∧ Stands .healthy restarts max (some count) supervisor ∧
          world.Launched count) ∨
        ((∃ error, left = .error error) ∧
          Stands .failedClosed restarts max (some count) supervisor ∧ world.Launching count) := by
  have hnone := steady_onlyUp count none
  have hnew := steady_launching count
  refine (quiet_refuse hstate).andThen hnone ((quiet_setState .starting).andThen hnone ?_)
  refine ensures_bind _ ensures_newHandle ?_ (fun _ _ _ hmid => nomatch hmid.1)
  refine fun made => ensures_given fun hmade => ?_
  cases hmade
  refine (quiet_record "starting").andThen hnew ?_
  refine ensures_bind (fun left supervisor world =>
    (left = .ok () ∧ Stands .starting restarts max (some count) supervisor ∧
      world.Launching count) ∨
    ((∃ error, left = .error error) ∧
      Stands .failedClosed restarts max (some count) supervisor ∧ world.Launching count)) ?_ ?_ ?_
  · refine ensures_tryExcept _ ensures_startHandle ?_ ?_
    · intro _ supervisor world hstarted
      exact .inl ⟨rfl, hstarted⟩
    · intro error
      refine (quiet_failClosed .processDied).andThen hnew ?_
      exact fun supervisor world hfailed => .inr ⟨⟨error, rfl⟩, hfailed⟩
  · intro _
    have hhealthy : Quiet firm (Stands .starting restarts max (some count))
        (Stands .healthy restarts max (some count)) (becomeHealthy "healthy") :=
      quiet_becomeHealthy "healthy"
    have htimedOut : Quiet firm (Stands .starting restarts max (some count))
        (Stands .failedClosed restarts max (some count)) (failClosed .timeout) :=
      quiet_failClosed .timeout
    have hwait := @ensures_waitUntilAlive firm count
      (Stands .starting restarts max (some count)) timeout interval polls
    refine Ensures.start (ensures_bind _ hwait ?_ ?_) ?_
    · intro alive
      cases alive with
      | true =>
        refine Ensures.weaken (hhealthy _ (steady_launched count)) ?_ ?_
        · rintro supervisor world ⟨hstands, ⟨_, hworld⟩ | ⟨hfalse, _⟩⟩
          · exact ⟨hstands, hworld⟩
          · cases hfalse
        · exact fun _ _ _ hpost => .inl hpost
      | false =>
        refine Ensures.start (htimedOut.andThen hnew
          (ensures_raise _ fun _ _ hfailed => .inr ⟨⟨_, rfl⟩, hfailed⟩)) ?_
        rintro supervisor world ⟨hstands, ⟨htrue, _⟩ | ⟨_, hworld⟩⟩
        · cases htrue
        · exact ⟨hstands, hworld⟩
    · rintro error _ _ ⟨_, ⟨hfalse, _⟩ | ⟨hfalse, _⟩⟩ <;> cases hfalse
    · rintro supervisor world (⟨_, hstarted⟩ | ⟨⟨_, hfalse⟩, _⟩)
      · exact hstarted
      · cases hfalse
  · rintro error supervisor world (⟨hfalse, _⟩ | ⟨_, hfailed⟩)
    · cases hfalse
    · exact .inr ⟨⟨error, rfl⟩, hfailed⟩

theorem ensures_restart {count : Nat} (attempt : Nat) :
    Ensures (watcher firm)
      (fun supervisor world => Stands state restarts max handle supervisor ∧
        world.Numbered count ∧ world.OnlyUp none)
      (restart attempt)
      fun left supervisor world => left = .ok () ∧
        ((Stands .healthy (restarts + 1) max (some count) supervisor ∧ world.Launched count) ∨
          (Stands .failedClosed (restarts + 1) max (some count) supervisor ∧
            world.Launching count)) := by
  have hnone := steady_onlyUp count none
  have hnew := steady_launching count
  have hcount : Quiet firm (Stands state restarts max handle)
      (Stands state (restarts + 1) max handle)
      (Method.modifyFields fun supervisor =>
        { supervisor with worker := supervisor.worker.countRestart }) := by
    refine quiet_modify _ fun supervisor h => ⟨h.1, ?_, h.2.2⟩
    exact congrArg (· + 1) h.2.1
  have hfailed : Quiet firm (Stands .restarting (restarts + 1) max (some count))
      (Stands .failedClosed (restarts + 1) max (some count)) (failClosed .processDied) :=
    quiet_failClosed .processDied
  refine hcount.andThen hnone ((quiet_setState .restarting).andThen hnone
    ((quiet_record _).andThen hnone ?_))
  refine ensures_bind _ ensures_newHandle ?_ (fun _ _ _ hmid => nomatch hmid.1)
  refine fun made => ensures_given fun hmade => ?_
  cases hmade
  refine ensures_ask (fun _ supervisor world =>
    Stands .restarting (restarts + 1) max (some count) supervisor ∧ world.Launching count) ?_ ?_ ?_
  · intro _ world hpre
    exact hnew.one world hpre.2
  · intro supervisor world answer world' hpre hstep
    obtain ⟨drifted, hdrift, status, hworld'⟩ := hstep
    rw [hworld']
    exact ⟨hpre.1, (hnew.drift world drifted hpre.2 hdrift).started status⟩
  · intro answer
    cases answer with
    | error error =>
      exact (hfailed _ hnew).weaken (fun _ _ h => h) fun _ _ _ h => ⟨h.1, .inr h.2⟩
    | ok value =>
      refine ensures_ask (fun (alive : Bool) supervisor world =>
        Stands .restarting (restarts + 1) max (some count) supervisor ∧
          if alive then world.Launched count else world.Launching count) ?_ ?_ ?_
      · intro _ world hpre
        exact hnew.one world hpre.2
      · intro supervisor world answer world' hpre hstep
        exact ⟨hpre.1, launching_isAlive hpre.2 hstep⟩
      · intro alive
        cases alive with
        | true =>
          have hhealthy : Quiet firm (Stands .restarting (restarts + 1) max (some count))
              (Stands .healthy (restarts + 1) max (some count))
              (becomeHealthy "healthy after restart") := quiet_becomeHealthy _
          exact (hhealthy _ (steady_launched count)).weaken (fun _ _ h => h)
            fun _ _ _ h => ⟨h.1, .inl h.2⟩
        | false =>
          exact (hfailed _ hnew).weaken (fun _ _ h => h) fun _ _ _ h => ⟨h.1, .inr h.2⟩

/-- What a detected crash leads to: the end at the restart cap, or a new handle. -/
def AfterCrash (restarts max : Nat) (handle : Option Nat) (count : Nat) (supervisor : Supervisor)
    (world : LauncherWorld) : Prop :=
  (max ≤ restarts ∧ Stands .failedClosed restarts max handle supervisor ∧
    world.Numbered count ∧ world.OnlyUp none) ∨
  (restarts < max ∧ Stands .healthy (restarts + 1) max (some count) supervisor ∧
    world.Launched count) ∨
  (restarts < max ∧ Stands .failedClosed (restarts + 1) max (some count) supervisor ∧
    world.Launching count)

theorem ensures_onCrashDetected {count : Nat} :
    Ensures (watcher firm)
      (fun supervisor world => Stands state restarts max handle supervisor ∧
        world.Numbered count ∧ world.OnlyUp none)
      onCrashDetected
      fun left supervisor world => left = .ok () ∧
        AfterCrash restarts max handle count supervisor world := by
  have hnone := steady_onlyUp count none
  refine (quiet_record _).andThen hnone ?_
  refine ensures_read fun seen => ?_
  by_cases hcap : seen.maxRestarts ≤ seen.worker.stateFile.restartCount
  · rw [if_pos hcap]
    have hfailed : Quiet firm (Stands state restarts max handle)
        (Stands .failedClosed restarts max handle) (failClosed .processDied) :=
      quiet_failClosed .processDied
    rintro supervisor world ⟨rfl, hstands, hworld⟩
    have hmax : max ≤ restarts := by rw [← hstands.2.1, ← hstands.2.2.1]; exact hcap
    exact (hfailed _ hnone supervisor world ⟨hstands, hworld⟩).weaken
      fun _ _ h => ⟨h.1, .inl ⟨hmax, h.2⟩⟩
  · rw [if_neg hcap]
    rintro supervisor world ⟨rfl, hstands, hworld⟩
    have hlt : restarts < max := by rw [← hstands.2.1, ← hstands.2.2.1]; omega
    refine (ensures_restart _ supervisor world ⟨hstands, hworld⟩).weaken ?_
    rintro _ _ ⟨hleft, hhealthy | hfailed⟩
    · exact ⟨hleft, .inr (.inl ⟨hlt, hhealthy⟩)⟩
    · exact ⟨hleft, .inr (.inr ⟨hlt, hfailed⟩)⟩

/-- The current handle is alive, or else nothing is up; only the latter where `idle` holds. -/
theorem ensures_handleIsAlive {count : Nat} (idle : Prop) :
    Ensures (watcher firm)
      (fun supervisor world => Stands state restarts max handle supervisor ∧
        world.Numbered count ∧ world.Tidy handle ∧ (idle → world.OnlyUp none))
      handleIsAlive
      fun left supervisor world => Stands state restarts max handle supervisor ∧
        world.Numbered count ∧
        ((left = .ok true ∧ world.Tidy handle ∧ ¬idle) ∨ (left = .ok false ∧ world.OnlyUp none)) := by
  refine ensures_read fun seen => ?_
  rintro supervisor world ⟨rfl, hstands, hnum, htidy, hidle⟩
  cases hhandle : supervisor.handle with
  | none =>
    have hnone : handle = none := hstands.2.2.2.symm.trans hhandle
    subst hnone
    exact ⟨hstands, hnum, .inr ⟨rfl, htidy.onlyUp⟩⟩
  | some current =>
    have hsome : handle = some current := hstands.2.2.2.symm.trans hhandle
    subst hsome
    refine ⟨htidy.onlyUp.atMostOneAlive, ?_⟩
    rintro alive world' ⟨drifted, hdrift, halive, hworld'⟩
    have hnum' := hnum.drift hdrift
    have htidy' := htidy.drift hdrift
    cases alive with
    | true =>
      rw [hworld']
      have hup := of_decide_eq_true halive.symm
      have hsight := htidy'.sight hnum' hup
      refine ⟨hstands, hsight.1, .inl ⟨rfl, hsight.2, ?_⟩⟩
      intro h
      cases (hidle h).drift hdrift current _ hup rfl
    | false =>
      rw [hworld']
      exact ⟨hstands, hnum', .inr ⟨rfl, htidy'.not_alive (of_decide_eq_false halive.symm)⟩⟩

theorem ensures_checkLiveness_refused :
    Ensures (watcher firm)
      (fun supervisor world => Stands .failedClosed restarts max handle supervisor ∧ P world)
      checkLiveness
      fun left supervisor world => left = .ok .failedClosed ∧
        Stands .failedClosed restarts max handle supervisor ∧ P world := by
  refine ensures_read fun seen => ?_
  rintro supervisor world ⟨rfl, hstands, hworld⟩
  rw [if_pos hstands.1]
  exact ⟨rfl, hstands, hworld⟩

theorem ensures_checkLiveness {count : Nat} (idle : Prop) (hstate : state ≠ .failedClosed) :
    Ensures (watcher firm)
      (fun supervisor world => Stands state restarts max handle supervisor ∧
        world.Numbered count ∧ world.Tidy handle ∧ (idle → world.OnlyUp none))
      checkLiveness
      fun left supervisor world =>
        left = .ok supervisor.worker.stateFile.state ∧
          ((¬idle ∧ Stands .healthy restarts max handle supervisor ∧ world.Numbered count ∧
            world.Tidy handle) ∨ AfterCrash restarts max handle count supervisor world) := by
  have htidy := steady_tidy count handle
  refine ensures_read fun seen => ?_
  by_cases hseen : seen.worker.stateFile.state = .failedClosed
  · rintro supervisor world ⟨rfl, hstands, _⟩
    exact absurd (hstands.1.symm.trans hseen) hstate
  · rw [if_neg hseen]
    refine Ensures.start (ensures_bind _ (ensures_handleIsAlive idle) ?_ ?_) (fun _ _ h => h.2)
    · intro alive
      cases alive with
      | true =>
        have hhealthy : Quiet firm (Stands state restarts max handle)
            (Stands .healthy restarts max handle) (setState .healthy) := quiet_setState _
        by_cases hidle : idle
        · rintro supervisor world ⟨_, _, ⟨_, _, hnot⟩ | ⟨hfalse, _⟩⟩
          · exact absurd hidle hnot
          · cases hfalse
        · refine Ensures.start (hhealthy.andThen htidy (quiet_heartbeat.andThen htidy
            (ensures_pure WorkerState.healthy ?_))) ?_
          · intro supervisor world hpost
            exact ⟨by rw [hpost.1.1], .inl ⟨hidle, hpost⟩⟩
          · rintro supervisor world ⟨hleft, hnum, ⟨_, htidy, _⟩ | ⟨hfalse, _⟩⟩
            · exact ⟨hleft, hnum, htidy⟩
            · cases hfalse
      | false =>
        have hcrash := @ensures_onCrashDetected firm state restarts max handle count
        refine Ensures.start (ensures_bind _ hcrash ?_ ?_) ?_
        · intro _
          refine ensures_read fun after => ?_
          rintro supervisor world ⟨rfl, _, hcrash⟩
          exact ⟨rfl, .inr hcrash⟩
        · rintro error _ _ ⟨hfalse, _⟩
          cases hfalse
        · rintro supervisor world ⟨hleft, hnum, ⟨hfalse, _⟩ | ⟨_, hnone⟩⟩
          · cases hfalse
          · exact ⟨hleft, hnum, hnone⟩
    · rintro error _ _ ⟨_, _, ⟨hfalse, _⟩ | ⟨hfalse, _⟩⟩ <;> cases hfalse

/-- Either nothing is up any more, or `stop` has raised. -/
theorem ensures_terminateHandle {count : Nat} (idle : Prop) :
    Ensures (watcher firm)
      (fun supervisor world => Stands state restarts max handle supervisor ∧
        world.Numbered count ∧ world.Tidy handle ∧ (idle → world.OnlyUp none))
      terminateHandle
      fun left supervisor world => Stands state restarts max handle supervisor ∧
        world.Numbered count ∧
        ((left = .ok () ∧ world.OnlyUp none) ∨
          ((∃ error, left = .error error) ∧ world.Tidy handle ∧ (firm ∨ idle → world.OnlyUp none))) := by
  refine ensures_read fun seen => ?_
  rintro supervisor world ⟨rfl, hstands, hnum, htidy, hidle⟩
  cases hhandle : supervisor.handle with
  | none =>
    have hnone : handle = none := hstands.2.2.2.symm.trans hhandle
    subst hnone
    exact ⟨hstands, hnum, .inl ⟨rfl, htidy.onlyUp⟩⟩
  | some current =>
    have hsome : handle = some current := hstands.2.2.2.symm.trans hhandle
    subst hsome
    refine ⟨htidy.onlyUp.atMostOneAlive, ?_⟩
    rintro answer world' ⟨drifted, hdrift, hworld', hfirm⟩
    rw [hworld']
    have hnum' := hnum.drift hdrift
    have htidy' := htidy.drift hdrift
    have hdown : firm ∨ idle → drifted.OnlyUp none := by
      rintro (h | h) i status hi hup
      swap
      · exact (hidle h).drift hdrift i status hi hup
      obtain ⟨hcurrent, _⟩ := htidy' i status hi hup
      cases Option.some.inj hcurrent
      rw [hfirm h status hi] at hup
      cases hup
    cases answer with
    | error error => exact ⟨hstands, hnum', .inr ⟨⟨error, rfl⟩, htidy', hdown⟩⟩
    | ok value =>
      refine ⟨htidy'.onlyUp.atMostOneAlive, ?_⟩
      rintro alive world'' ⟨last, hlast, halive, hworld''⟩
      have hnum'' := hnum'.drift hlast
      have htidy'' := htidy'.drift hlast
      cases alive with
      | true =>
        rw [hworld'']
        have hsight := htidy''.sight hnum'' (of_decide_eq_true halive.symm)
        have hdown' : firm ∨ idle → last.OnlyUp none := fun h => (hdown h).drift hlast
        exact ⟨hstands, hsight.1, .inr ⟨⟨_, rfl⟩, hsight.2, hdown'⟩⟩
      | false =>
        rw [hworld'']
        exact ⟨hstands, hnum'', .inl ⟨rfl, htidy''.not_alive (of_decide_eq_false halive.symm)⟩⟩

theorem ensures_stop {count : Nat} (idle : Prop) :
    Ensures (watcher firm)
      (fun supervisor world => Stands state restarts max handle supervisor ∧
        world.Numbered count ∧ world.Tidy handle ∧ (idle → world.OnlyUp none))
      stop
      fun left supervisor world => world.Numbered count ∧
        ((left = .ok () ∧ Stands .stopped restarts max handle supervisor ∧ world.OnlyUp none) ∨
          ((∃ error, left = .error error) ∧ Stands state restarts max handle supervisor ∧
            world.Tidy handle ∧ (firm ∨ idle → world.OnlyUp none))) := by
  have hnone := steady_onlyUp count none
  have hstopped : Quiet firm (Stands state restarts max handle) (Stands .stopped restarts max handle)
      (do applyOnboardingTrigger .stop; setState .stopped; record "stopped") :=
    (quiet_trigger _).bind ((quiet_setState _).bind (quiet_record _))
  refine (quiet_record "stopping").andThen (steady_idle count handle idle) ?_
  refine ensures_bind _ (ensures_terminateHandle idle) ?_ ?_
  · intro _
    refine Ensures.weaken (hstopped _ hnone) ?_ ?_
    · rintro supervisor world ⟨hstands, hnum, ⟨_, hworld⟩ | ⟨⟨_, hfalse⟩, _⟩⟩
      · exact ⟨hstands, hnum, hworld⟩
      · cases hfalse
    · exact fun _ _ _ h => ⟨h.2.2.1, .inl ⟨h.1, h.2.1, h.2.2.2⟩⟩
  · rintro error supervisor world ⟨hstands, hnum, ⟨hfalse, _⟩ | ⟨_, hraised⟩⟩
    · cases hfalse
    · exact ⟨hnum, .inr ⟨⟨error, rfl⟩, hstands, hraised⟩⟩

end Supervisor

end TradeJournalWorker
