import TradeJournalWorker.HostSystem

namespace TradeJournalWorker

open ActionPrograms

/-- A stop call kills only the host that it watches, and removes the PID file only once that one
is gone. -/
def StopPhase.Permits (phase : StopPhase) : HostAction → Prop
  | .forceKill pid => phase = .watching pid
  | .unlinkPid => phase = .clear
  | .writePid => False
  | .spawnHost => False
  | _ => True

def stopWatcher : Watcher HostAction HostAction.Answer StopPhase where
  allowed := StopPhase.Permits
  step phase action answer phase' := phase' = phase.next action answer

/-- A start call leaves the PID file and the other processes alone. -/
def startWatcher : Watcher HostAction HostAction.Answer Unit where
  allowed _
    | .forceKill _ => False
    | .unlinkPid => False
    | .writePid => False
    | _ => True
  step _ _ _ _ := True

section stopping

variable {α : Type} {phase : StopPhase}

/-- An action that a stop call may always take, from one phase to another. -/
theorem ensures_askStop {action : HostAction} {f : action.Answer → CallerMethod α}
    {post : Except LauncherError α → AccountWorker → StopPhase → Prop}
    (hpermits : phase.Permits action)
    (rest : ∀ answer, Ensures stopWatcher (fun _ now => now = phase.next action answer)
      (f answer) post) :
    Ensures stopWatcher (fun _ now => now = phase) (Method.perform action >>= f) post := by
  refine ensures_ask (fun answer _ now => now = phase.next action answer) ?_ ?_ rest
  · rintro _ _ rfl
    exact hpermits
  · rintro _ _ answer now' rfl hstep
    exact hstep

theorem ensures_stopStatus :
    Ensures stopWatcher (fun _ now => now = .clear) WorkerCaller.readPersistentStatus
      fun _ _ now => now = .clear := by
  have hlauncher : ∀ (launcher : Option Nat) (status : Bool → PersistentStatus),
      Ensures stopWatcher (fun _ now => now = .clear)
        (do
          let alive ← WorkerCaller.launcherIsAlive launcher
          pure (status alive))
        fun _ _ now => now = .clear := by
    intro launcher status
    cases launcher with
    | none => exact fun _ _ h => h
    | some launcher => exact ensures_askStop trivial fun _ _ _ h => h
  refine ensures_read fun worker => Ensures.start ?_ (fun _ _ h => h.2)
  refine ensures_askStop trivial fun pid => ?_
  cases pid with
  | none => exact hlauncher _ _
  | some pid => exact ensures_askStop trivial fun alive => hlauncher _ _

theorem ensures_stopResume :
    Ensures stopWatcher (fun _ now => now = phase) WorkerCaller.resume
      fun _ _ now => now = phase := by
  refine ensures_askStop trivial fun file => ?_
  cases file with
  | error error => exact fun _ _ h => h
  | ok file => exact fun _ _ h => h

theorem ensures_stopSave (f : AccountWorker → AccountWorker) :
    Ensures stopWatcher (fun _ now => now = phase) (WorkerCaller.updateWorker f)
      fun left _ now => left = .ok () ∧ now = phase := by
  rintro worker now rfl
  exact ⟨trivial, fun _ _ hstep => ⟨rfl, hstep⟩⟩

/-- The wait ends with the watched process gone or at the deadline. -/
theorem ensures_waitUntilGone (pid deadline interval polls : Nat) :
    Ensures stopWatcher (fun _ now => now = .watching pid)
      (WorkerCaller.waitUntilGone pid deadline interval polls)
      fun left _ now => (left = .ok true ∧ now = .clear) ∨
        (left = .ok false ∧ now = .watching pid) := by
  induction polls with
  | zero => exact fun _ _ _ => trivial
  | succ polls ih =>
    refine ensures_askStop trivial fun time => ?_
    by_cases hdeadline : time < deadline
    · rw [if_pos hdeadline]
      refine ensures_askStop trivial fun alive => ?_
      cases alive with
      | true => exact ensures_askStop trivial fun _ => ih
      | false =>
        rintro _ now hnow
        refine .inl ⟨rfl, ?_⟩
        rw [hnow]
        simp [StopPhase.next]
    · rw [if_neg hdeadline]
      exact fun _ _ hnow => .inr ⟨rfl, hnow⟩

theorem ensures_forceStop (pid : Nat) (graceful : Bool) :
    Ensures stopWatcher
      (fun _ now => now = if graceful then .clear else .watching pid)
      (WorkerCaller.forceStop pid graceful) fun _ _ now => now = .clear := by
  cases graceful with
  | true => exact fun _ _ h => h
  | false =>
    have hkilled : (StopPhase.watching pid).next (.forceKill pid) () = .clear := by
      simp [StopPhase.next]
    refine ensures_askStop rfl fun _ => Ensures.start ?_ fun _ _ h => h.trans hkilled
    refine ensures_bind _ (ensures_stopSave (·.withState .stopped)) ?_ (fun _ _ _ h => nomatch h.1)
    intro _
    refine Ensures.start (ensures_bind _ (ensures_stopSave (·.withLauncherPid none)) ?_
      (fun _ _ _ h => nomatch h.1)) (fun _ _ h => h.2)
    intro _
    refine Ensures.start (ensures_askStop rfl fun _ => ?_) (fun _ _ h => h.2)
    exact ensures_askStop trivial fun _ _ _ h => h

theorem ensures_stopRunning (pid timeout interval polls : Nat) :
    Ensures stopWatcher (fun _ now => now = .watching pid)
      (WorkerCaller.stopRunning pid timeout interval polls)
      fun left _ now => (∃ error, left = .error error) ∨ now = .clear := by
  refine ensures_askStop trivial fun _ => ensures_askStop trivial fun time => ?_
  refine ensures_bind _ (ensures_waitUntilGone pid _ interval polls) ?_ ?_
  · intro graceful
    have hphase : Ensures stopWatcher
        (fun _ now => now = if graceful then .clear else .watching pid)
        (do
          WorkerCaller.resume
          WorkerCaller.forceStop pid graceful
          WorkerCaller.readPersistentStatus)
        fun left _ now => (∃ error, left = .error error) ∨ now = .clear := by
      refine ensures_bind _ ensures_stopResume (fun _ => ?_) (fun error _ _ _ => .inl ⟨error, rfl⟩)
      refine ensures_bind _ (ensures_forceStop pid graceful) (fun _ => ?_)
        (fun _ _ _ h => .inr h)
      exact ensures_stopStatus.weaken (fun _ _ h => h) fun _ _ _ h => .inr h
    refine hphase.start ?_
    rintro _ now (⟨hleft, hnow⟩ | ⟨hleft, hnow⟩) <;> cases hleft <;> exact hnow
  · rintro error _ _ (⟨hfalse, _⟩ | ⟨hfalse, _⟩) <;> cases hfalse

/-- A stop call that returns has seen the host that it found to be gone. -/
theorem ensures_requestStopAndWait (timeout interval polls : Nat) :
    Ensures stopWatcher (fun _ now => now = .idle)
      (WorkerCaller.requestStopAndWait timeout interval polls)
      fun left _ now => (∃ error, left = .error error) ∨ now = .clear := by
  have hstatus : Ensures stopWatcher (fun _ now => now = .clear)
      WorkerCaller.readPersistentStatus
      fun left _ now => (∃ error, left = .error error) ∨ now = .clear :=
    ensures_stopStatus.weaken (fun _ _ h => h) fun _ _ _ h => .inr h
  refine ensures_askStop trivial fun pid => ?_
  cases pid with
  | none => exact hstatus
  | some pid =>
    refine ensures_askStop trivial fun alive => ?_
    cases alive with
    | true => exact ensures_stopRunning pid timeout interval polls
    | false =>
      have hgone : (StopPhase.watching pid).next (.pidIsAlive pid) false = .clear := by
        simp [StopPhase.next]
      refine hstatus.start fun _ now hnow => ?_
      rw [← hgone]
      exact hnow

end stopping

section starting

variable {α β : Type}

/-- Everything that the method asks for leaves the PID file and the other processes alone. -/
def Harmless (method : CallerMethod α) : Prop :=
  Ensures startWatcher (fun _ _ => True) method fun _ _ _ => True

theorem Harmless.bind {method : CallerMethod α} {rest : α → CallerMethod β} (h : Harmless method)
    (hrest : ∀ value, Harmless (rest value)) : Harmless (method >>= rest) :=
  ensures_bind _ h hrest fun _ _ _ _ => trivial

theorem harmless_perform {action : HostAction} (h : startWatcher.allowed () action) :
    Harmless (Method.perform action : CallerMethod action.Answer) :=
  fun _ _ _ => ⟨h, fun _ _ _ => trivial⟩

theorem harmless_ask {action : HostAction} {rest : action.Answer → CallerMethod β}
    (h : startWatcher.allowed () action) (hrest : ∀ answer, Harmless (rest answer)) :
    Harmless (Method.perform action >>= rest) := (harmless_perform h).bind hrest

theorem harmless_pure (value : α) : Harmless (pure value : CallerMethod α) :=
  fun _ _ _ => trivial

theorem harmless_read {rest : AccountWorker → CallerMethod β} (h : ∀ worker, Harmless (rest worker)) :
    Harmless (Method.readFields >>= rest) :=
  fun worker seen _ => h worker worker seen trivial

theorem harmless_pidIsAlive (pid : Option Nat) :
    Harmless (WorkerHost.pidIsAlive pid : CallerMethod Bool) := by
  cases pid with
  | none => exact harmless_pure false
  | some pid => exact harmless_perform trivial

theorem harmless_status : Harmless WorkerCaller.readPersistentStatus := by
  refine harmless_read fun worker => harmless_ask trivial fun pid => ?_
  refine (harmless_pidIsAlive pid).bind fun alive => ?_
  have hlauncher : Harmless (WorkerCaller.launcherIsAlive worker.stateFile.launcherPid) := by
    cases worker.stateFile.launcherPid with
    | none => exact harmless_pure false
    | some launcher => exact harmless_perform trivial
  exact hlauncher.bind fun _ => harmless_pure _

theorem harmless_resume : Harmless WorkerCaller.resume := by
  refine harmless_ask trivial fun file => ?_
  cases file <;> exact fun _ _ _ => trivial

theorem harmless_waitUntilSynced (deadline polls : Nat) :
    Harmless (WorkerCaller.waitUntilSynced deadline polls) := by
  induction polls with
  | zero => exact fun _ _ _ => trivial
  | succ polls ih =>
    have hagain : Harmless (do
        Method.perform (HostAction.supervise (.sleep 1))
        WorkerCaller.waitUntilSynced deadline polls) := harmless_ask trivial fun _ => ih
    refine harmless_ask trivial fun now => ?_
    by_cases hdeadline : now < deadline
    · rw [if_pos hdeadline]
      refine harmless_ask trivial fun pid => ?_
      refine (harmless_pidIsAlive pid).bind fun alive => ?_
      cases alive with
      | false => exact hagain
      | true =>
        refine harmless_resume.bind fun _ => harmless_read fun fresh => ?_
        split
        · exact harmless_status
        · exact hagain
    · rw [if_neg hdeadline]
      exact harmless_resume.bind fun _ => harmless_status

theorem harmless_startPersistentWorker (timeout polls : Nat) :
    Harmless (WorkerCaller.startPersistentWorker timeout polls) := by
  refine harmless_read fun worker => ?_
  split
  · exact fun _ _ _ => trivial
  · refine harmless_ask trivial fun pid => ?_
    refine (harmless_pidIsAlive pid).bind fun alive => ?_
    cases alive with
    | true => exact harmless_status
    | false =>
      refine harmless_ask trivial fun _ => harmless_ask trivial fun now => ?_
      exact harmless_waitUntilSynced _ polls

end starting

end TradeJournalWorker
