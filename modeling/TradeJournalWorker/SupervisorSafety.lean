import Mathlib.Logic.Relation
import TradeJournalWorker.SupervisorCalls

namespace TradeJournalWorker

open ActionPrograms LauncherWorld Supervisor

def freshSupervisor (worker : AccountWorker) (maxRestarts : Nat) : Supervisor :=
  { worker := worker, maxRestarts := maxRestarts }

inductive SupervisorCall where
  | start (timeout interval polls : Nat)
  | checkLiveness
  | stop
  deriving DecidableEq, Repr

/-- What the object is left as, whatever the call returns or raises. -/
def SupervisorCall.program (call : SupervisorCall) (supervisor : Supervisor) :
    ActionProgram SupervisorAction SupervisorAction.Answer Supervisor :=
  match call with
  | .start timeout interval polls =>
    (Supervisor.start timeout interval polls supervisor).andThen fun left => .ret left.2
  | .checkLiveness => (Supervisor.checkLiveness supervisor).andThen fun left => .ret left.2
  | .stop => (Supervisor.stop supervisor).andThen fun left => .ret left.2

/-- `restarts` counts the handles that liveness checks made. -/
structure SupervisorSystem where
  supervisor : Supervisor
  world : LauncherWorld := {}
  restarts : Nat := 0
  deriving DecidableEq, Repr

namespace SupervisorSystem

def state (system : SupervisorSystem) : WorkerState := system.supervisor.worker.stateFile.state

def handlesMade (system : SupervisorSystem) : Nat := system.world.handles.length

def Over (system : SupervisorSystem) : Prop :=
  system.state = .failedClosed ∨ system.state = .stopped

end SupervisorSystem

def SupervisorCall.restartsMade (call : SupervisorCall) (before after : SupervisorSystem) : Nat :=
  match call with
  | .checkLiveness => after.handlesMade - before.handlesMade
  | _ => 0

/-- The states from which a call keeps to what the worker stands for: no start of a stopped
worker or over a process that is up, no liveness check of a stopped worker below the cap. -/
def SupervisorCall.Timely (call : SupervisorCall) (system : SupervisorSystem) : Prop :=
  match call with
  | .start _ _ _ => system.state = .failedClosed ∨
    (system.state ≠ .stopped ∧ system.world.OnlyUp none)
  | .checkLiveness => system.state = .stopped →
    system.supervisor.maxRestarts ≤ system.supervisor.worker.stateFile.restartCount
  | .stop => True

/-- A launcher that is not found alive leaves no process behind. -/
def LeavesNothing (before after : SupervisorSystem) : Prop :=
  ∀ handle status, before.handlesMade ≤ handle →
    after.world.handles[handle]? = some status → handle ∉ after.world.sighted → status.up = false

/-- A step of any kind, or, where `careful` holds, one in which the call is timely and a failed
launcher leaves nothing. -/
inductive SupervisorStep (careful : Prop) : SupervisorSystem → SupervisorSystem → Prop where
  | drift {system : SupervisorSystem} {world : LauncherWorld} (h : system.world.Drifts world) :
      SupervisorStep careful system { system with world := world }
  | call (made : SupervisorCall) {before after : SupervisorSystem}
      (ends : Ends (watcher False) (made.program before.supervisor) before.world
        after.supervisor after.world)
      (counted : after.restarts = before.restarts + made.restartsMade before after)
      (timely : careful → made.Timely before) (leaves : careful → LeavesNothing before after) :
      SupervisorStep careful before after

/-- One that starts from a worker in any state, resumed or new. -/
def SupervisorRun (careful : Prop) (worker : AccountWorker) (maxRestarts : Nat) :
    SupervisorSystem → Prop :=
  Relation.ReflTransGen (SupervisorStep careful) ⟨freshSupervisor worker maxRestarts, {}, 0⟩

structure SupervisorSafe (maxRestarts : Nat) (system : SupervisorSystem) : Prop where
  capped : system.restarts ≤ maxRestarts
  oneAlive : system.world.AtMostOneAlive
  noResidual : system.Over → ∀ handle : Nat,
    system.world.handles[handle]? ≠ some ProcessStatus.alive

/-- What carries the guarantee over the calls. -/
def Kept (maxRestarts : Nat) (system : SupervisorSystem) : Prop :=
  ∃ restarts handle, Stands system.state restarts maxRestarts handle system.supervisor ∧
    system.world.Numbered system.handlesMade ∧ system.world.Tidy handle ∧
    (system.Over → system.world.OnlyUp none) ∧
    (system.restarts = 0 ∨ restarts ≤ maxRestarts) ∧ system.restarts ≤ restarts

theorem Kept.safe {maxRestarts : Nat} {system : SupervisorSystem} (h : Kept maxRestarts system) :
    SupervisorSafe maxRestarts system := by
  obtain ⟨restarts, handle, _, _, htidy, hover, hcap, hcount⟩ := h
  refine ⟨by omega, htidy.onlyUp.atMostOneAlive, ?_⟩
  intro hdone i hi
  cases hover hdone i .alive hi rfl

theorem kept_fresh (worker : AccountWorker) (maxRestarts : Nat) :
    Kept maxRestarts ⟨freshSupervisor worker maxRestarts, {}, 0⟩ := by
  refine ⟨worker.stateFile.restartCount, none, ⟨rfl, rfl, rfl, rfl⟩, ⟨rfl, ?_⟩, ?_, ?_, .inl rfl,
    Nat.zero_le _⟩
  · intro handle hmem
    cases hmem
  · intro i status hi
    simp at hi
  · intro _ i status hi
    simp at hi

theorem Kept.drift {maxRestarts : Nat} {system : SupervisorSystem} {world : LauncherWorld}
    (h : Kept maxRestarts system) (hdrift : system.world.Drifts world) :
    Kept maxRestarts { system with world := world } := by
  obtain ⟨restarts, handle, hstands, hnum, htidy, hover, hcap, hcount⟩ := h
  have hnum' := hnum.drift hdrift
  refine ⟨restarts, handle, hstands, ?_, htidy.drift hdrift, fun hdone => (hover hdone).drift hdrift,
    hcap, hcount⟩
  exact ⟨rfl, by rw [SupervisorSystem.handlesMade, hnum'.1]; exact hnum'.2⟩

theorem call_meets {α : Type} {firm : Prop} {m : SupervisorMethod α}
    {pre : Supervisor → LauncherWorld → Prop}
    {post : Except LauncherError α → Supervisor → LauncherWorld → Prop}
    (h : Ensures (watcher firm) pre m post) {supervisor : Supervisor} {world : LauncherWorld}
    (hpre : pre supervisor world) :
    ActionPrograms.Meets (watcher firm)
      (fun supervisor' world' => ∃ left, post left supervisor' world')
      ((m supervisor).andThen fun left => .ret left.2) world :=
  (h supervisor world hpre).andThen fun left _ hpost => ⟨left.1, hpost⟩

/-- What a call leaves of the state, the restart count and the processes; `extra` is what a new
handle counts for. -/
inductive CallLeaves (state : WorkerState) (restarts max : Nat) (handle : Option Nat)
    (count extra : Nat) (supervisor : Supervisor) (world : LauncherWorld) : Prop where
  | unchanged (stands : Stands state restarts max handle supervisor)
      (numbered : world.Numbered count) (tidy : world.Tidy handle)
      (idle : state = .failedClosed ∨ state = .stopped → world.OnlyUp none)
  | healthy (stands : Stands .healthy restarts max handle supervisor)
      (numbered : world.Numbered count) (tidy : world.Tidy handle)
      (live : ¬(state = .failedClosed ∨ state = .stopped))
  | ended (next : WorkerState) (stands : Stands next restarts max handle supervisor)
      (numbered : world.Numbered count) (nothing : world.OnlyUp none)
      (final : next = .failedClosed ∨ next = .stopped)
  | launched (stands : Stands .healthy (restarts + extra) max (some count) supervisor)
      (up : world.Launched count) (below : extra = 0 ∨ restarts + extra ≤ max)
      (live : ¬(state = .failedClosed ∨ state = .stopped))
  | failed (stands : Stands .failedClosed (restarts + extra) max (some count) supervisor)
      (up : world.Launching count) (below : extra = 0 ∨ restarts + extra ≤ max)
      (live : ¬(state = .failedClosed ∨ state = .stopped))

/-- What a new handle counts for. -/
def SupervisorCall.extra : SupervisorCall → Nat
  | checkLiveness => 1
  | _ => 0

section

variable {state : WorkerState} {restarts max count : Nat} {handle : Option Nat}
  {supervisor : Supervisor} {world : LauncherWorld}

theorem start_leaves (timeout interval polls : Nat)
    (hstands : Stands state restarts max handle supervisor) (hnum : world.Numbered count)
    (hover : state = .failedClosed ∨ state = .stopped → world.OnlyUp none)
    (htimely : state = .failedClosed ∨ (state ≠ .stopped ∧ world.OnlyUp none)) :
    ActionPrograms.Meets (watcher False)
      (fun supervisor' world' => CallLeaves state restarts max handle count 0 supervisor' world')
      ((SupervisorCall.start timeout interval polls).program supervisor) world := by
  by_cases hstate : state = .failedClosed
  · subst hstate
    have hrefused := @ensures_start_refused False (fun world => world.Numbered count ∧
      world.OnlyUp none) restarts max handle timeout interval polls
    refine (call_meets hrefused ⟨hstands, hnum, hover (.inl rfl)⟩).weaken ?_
    rintro supervisor' world' ⟨left, _, hstands', hnum', hnone'⟩
    exact .unchanged hstands' hnum' (Tidy.of_none hnone') fun _ => hnone'
  · obtain ⟨hne, hnone⟩ := htimely.resolve_left hstate
    have hlive : ¬(state = .failedClosed ∨ state = .stopped) := fun h => h.elim hstate hne
    refine (call_meets (ensures_start hstate timeout interval polls)
      ⟨hstands, hnum, hnone⟩).weaken ?_
    rintro supervisor' world' ⟨left, ⟨_, hstands', hup⟩ | ⟨_, hstands', hup⟩⟩
    · exact .launched hstands' hup (.inl rfl) hlive
    · exact .failed hstands' hup (.inl rfl) hlive

theorem checkLiveness_leaves (hstands : Stands state restarts max handle supervisor)
    (hnum : world.Numbered count) (htidy : world.Tidy handle)
    (hover : state = .failedClosed ∨ state = .stopped → world.OnlyUp none)
    (htimely : state = .stopped → max ≤ restarts) :
    ActionPrograms.Meets (watcher False)
      (fun supervisor' world' => CallLeaves state restarts max handle count 1 supervisor' world')
      (SupervisorCall.checkLiveness.program supervisor) world := by
  by_cases hstate : state = .failedClosed
  · subst hstate
    have hrefused := @ensures_checkLiveness_refused False (fun world => world.Numbered count ∧
      world.OnlyUp none) restarts max handle
    refine (call_meets hrefused ⟨hstands, hnum, hover (.inl rfl)⟩).weaken ?_
    rintro supervisor' world' ⟨left, _, hstands', hnum', hnone'⟩
    exact .unchanged hstands' hnum' (Tidy.of_none hnone') fun _ => hnone'
  · have hlive : restarts < max → ¬(state = .failedClosed ∨ state = .stopped) := by
      rintro hlt (h | h)
      · exact hstate h
      · have hmax := htimely h
        omega
    refine (call_meets (ensures_checkLiveness (state = .stopped) hstate)
      ⟨hstands, hnum, htidy, fun h => hover (.inr h)⟩).weaken ?_
    rintro supervisor' world' ⟨left, _, ⟨hne, hstands', hnum', htidy'⟩ | hcrash⟩
    · exact .healthy hstands' hnum' htidy' fun h => h.elim hstate hne
    · obtain ⟨_, hstands', hnum', hnone'⟩ | ⟨hlt, hstands', hup⟩ | ⟨hlt, hstands', hup⟩ := hcrash
      · exact .ended .failedClosed hstands' hnum' hnone' (.inl rfl)
      · exact .launched hstands' hup (.inr hlt) (hlive hlt)
      · exact .failed hstands' hup (.inr hlt) (hlive hlt)

theorem stop_leaves (hstands : Stands state restarts max handle supervisor)
    (hnum : world.Numbered count) (htidy : world.Tidy handle)
    (hover : state = .failedClosed ∨ state = .stopped → world.OnlyUp none) :
    ActionPrograms.Meets (watcher False)
      (fun supervisor' world' => CallLeaves state restarts max handle count 0 supervisor' world')
      (SupervisorCall.stop.program supervisor) world := by
  refine (call_meets (ensures_stop (state = .failedClosed ∨ state = .stopped))
    ⟨hstands, hnum, htidy, hover⟩).weaken ?_
  rintro supervisor' world' ⟨left, hnum', ⟨_, hstands', hnone'⟩ | ⟨_, hstands', htidy', hidle'⟩⟩
  · exact .ended .stopped hstands' hnum' hnone' (.inr rfl)
  · exact .unchanged hstands' hnum' htidy' fun h => hidle' (.inr h)

end

/-- A handle that failed and leaves nothing. -/
theorem launching_down {count : Nat} {world : LauncherWorld} (h : world.Launching count)
    (hdown : ∀ status, world.handles[count]? = some status → status.up = false) :
    world.OnlyUp none := by
  intro i status hi hup
  cases Option.some.inj (h.2.1 i status hi hup)
  rw [hdown status hi] at hup
  cases hup

theorem Kept.meets {maxRestarts : Nat} {system : SupervisorSystem} (h : Kept maxRestarts system)
    (made : SupervisorCall) (htimely : made.Timely system) :
    ∃ restarts handle, (system.restarts = 0 ∨ restarts ≤ maxRestarts) ∧
      system.restarts ≤ restarts ∧
      ActionPrograms.Meets (watcher False) (fun supervisor' world' =>
          CallLeaves system.state restarts maxRestarts handle system.handlesMade made.extra
            supervisor' world')
        (made.program system.supervisor) system.world := by
  obtain ⟨restarts, handle, hstands, hnum, htidy, hover, hcap, hcount⟩ := h
  refine ⟨restarts, handle, hcap, hcount, ?_⟩
  cases made with
  | start timeout interval polls =>
    exact start_leaves timeout interval polls hstands hnum hover htimely
  | checkLiveness =>
    refine checkLiveness_leaves hstands hnum htidy hover fun h => ?_
    have hmax := htimely h
    rw [hstands.2.1, hstands.2.2.1] at hmax
    exact hmax
  | stop => exact stop_leaves hstands hnum htidy hover

theorem kept_of_stands {system : SupervisorSystem} {state : WorkerState} {restarts max count : Nat}
    {handle : Option Nat} (hstands : Stands state restarts max handle system.supervisor)
    (hnum : system.world.Numbered count) (htidy : system.world.Tidy handle)
    (hover : state = .failedClosed ∨ state = .stopped → system.world.OnlyUp none)
    (hcap : system.restarts = 0 ∨ restarts ≤ max) (hcount : system.restarts ≤ restarts) :
    Kept max system := by
  obtain ⟨hstate, hrestarts, hmax, hhandle⟩ := hstands
  subst hstate
  refine ⟨restarts, handle, ⟨rfl, hrestarts, hmax, hhandle⟩, ?_, htidy, hover, hcap, hcount⟩
  exact ⟨rfl, by rw [SupervisorSystem.handlesMade, hnum.1]; exact hnum.2⟩

theorem restartsMade_same (made : SupervisorCall) {before after : SupervisorSystem}
    (h : after.handlesMade = before.handlesMade) : made.restartsMade before after = 0 := by
  cases made <;> simp [SupervisorCall.restartsMade, h]

theorem restartsMade_next (made : SupervisorCall) {before after : SupervisorSystem}
    (h : after.handlesMade = before.handlesMade + 1) :
    made.restartsMade before after = made.extra := by
  cases made <;> simp [SupervisorCall.restartsMade, SupervisorCall.extra, h]

theorem Kept.call {maxRestarts : Nat} {before after : SupervisorSystem}
    (h : Kept maxRestarts before) (made : SupervisorCall)
    (ends : Ends (watcher False) (made.program before.supervisor) before.world
      after.supervisor after.world)
    (counted : after.restarts = before.restarts + made.restartsMade before after)
    (timely : made.Timely before) (leaves : LeavesNothing before after) :
    Kept maxRestarts after ∧ (before.Over → after.Over ∧ after.handlesMade = before.handlesMade) := by
  obtain ⟨restarts, handle, hcap, hcount, hmeets⟩ := h.meets made timely
  cases hmeets.ends ends with
  | unchanged stands numbered tidy idle =>
    rw [restartsMade_same made numbered.1] at counted
    refine ⟨kept_of_stands stands numbered tidy idle (by omega) (by omega), fun hover => ?_⟩
    have hstate : after.state = before.state := stands.1
    exact ⟨by rw [SupervisorSystem.Over, hstate]; exact hover, numbered.1⟩
  | healthy stands numbered tidy live =>
    rw [restartsMade_same made numbered.1] at counted
    refine ⟨kept_of_stands stands numbered tidy ?_ (by omega) (by omega),
      fun hover => absurd hover live⟩
    rintro (h | h) <;> cases h
  | ended next stands numbered nothing final =>
    rw [restartsMade_same made numbered.1] at counted
    refine ⟨kept_of_stands stands numbered (Tidy.of_none nothing) (fun _ => nothing) (by omega)
      (by omega), fun _ => ⟨?_, numbered.1⟩⟩
    have hstate : after.state = next := stands.1
    rw [SupervisorSystem.Over, hstate]
    exact final
  | launched stands up below live =>
    rw [restartsMade_next made up.1.1] at counted
    refine ⟨kept_of_stands stands up.1 up.2.1 ?_ (by omega) (by omega),
      fun hover => absurd hover live⟩
    rintro (h | h) <;> cases h
  | failed stands up below live =>
    rw [restartsMade_next made up.1.1] at counted
    have hnone : after.world.OnlyUp none := launching_down up fun status hstatus =>
      leaves _ status (Nat.le_refl _) hstatus up.2.2
    exact ⟨kept_of_stands stands up.1 (Tidy.of_none hnone) (fun _ => hnone) (by omega) (by omega),
      fun hover => absurd hover live⟩

theorem Kept.step {maxRestarts : Nat} {before after : SupervisorSystem}
    (h : Kept maxRestarts before) (step : SupervisorStep True before after) :
    Kept maxRestarts after ∧ (before.Over → after.Over ∧ after.handlesMade = before.handlesMade) := by
  cases step with
  | drift hdrift => exact ⟨h.drift hdrift, fun hover => ⟨hover, hdrift.1.length_eq.symm⟩⟩
  | call made ends counted timely leaves =>
    exact h.call made ends counted (timely trivial) (leaves trivial)

/-- From a kept state on, a worker that is over stays over and gets no handle. -/
theorem Kept.run {maxRestarts : Nat} {before after : SupervisorSystem}
    (h : Kept maxRestarts before)
    (run : Relation.ReflTransGen (SupervisorStep True) before after) :
    Kept maxRestarts after ∧ (before.Over → after.Over ∧ after.handlesMade = before.handlesMade) := by
  induction run with
  | refl => exact ⟨h, fun hover => ⟨hover, rfl⟩⟩
  | tail _ step ih =>
    obtain ⟨hkept, hover⟩ := ih.1.step step
    refine ⟨hkept, fun hdone => ?_⟩
    obtain ⟨hmid, hmade⟩ := ih.2 hdone
    exact ⟨(hover hmid).1, (hover hmid).2.trans hmade⟩

/-- Timely calls to launchers that leave nothing behind when they fail keep the supervisor safe,
also in the midst of a call, and make both ends final. -/
theorem supervisor_safe (worker : AccountWorker) (maxRestarts : Nat) {system : SupervisorSystem}
    (run : SupervisorRun True worker maxRestarts system) :
    SupervisorSafe maxRestarts system ∧
      (∀ call : SupervisorCall, call.Timely system → ∀ action world,
        Passes (watcher False) (call.program system.supervisor) system.world action world →
          world.AtMostOneAlive) ∧
      ∀ later, Relation.ReflTransGen (SupervisorStep True) system later → system.Over →
        later.Over ∧ later.handlesMade = system.handlesMade := by
  have hkept := ((kept_fresh worker maxRestarts).run run).1
  refine ⟨hkept.safe, ?_, fun later hlater => (hkept.run hlater).2⟩
  intro call htimely action world hpasses
  obtain ⟨_, _, _, _, hmeets⟩ := hkept.meets call htimely
  exact hmeets.passes hpasses

def newWorker : AccountWorker := AccountWorker.resume { workerId := "worker-1", state := .starting }

def startedSupervisor : Supervisor where
  worker := ((newWorker.withState .healthy).withHeartbeat 1000).settled
  maxRestarts := 3
  handle := some 0
  log := ["worker=worker-1 starting", "worker=worker-1 healthy"]

theorem start_runs (careful : Prop) :
    SupervisorStep careful ⟨freshSupervisor newWorker 3, {}, 0⟩
      ⟨startedSupervisor, ⟨[.alive], [0]⟩, 0⟩ := by
  have still := drifts_refl
  refine .call (.start 10 1 1) ?_ rfl (fun _ => .inr ⟨by decide, ?_⟩) ?_
  · refine .act () ⟨_, still _, rfl⟩ (.act 0 ⟨_, still _, rfl, rfl⟩ ?_)
    refine .act (.ok ()) ⟨_, still _, .alive, rfl⟩ (.act 0 ⟨_, still _, rfl⟩ ?_)
    refine .act true ⟨_, still _, by decide, rfl⟩ (.act () ⟨_, still _, rfl⟩ ?_)
    exact .act 1000 ⟨_, still _, rfl⟩ (.act () ⟨_, still _, rfl⟩ (.ret _ _))
  · intro i status hi
    simp at hi
  · intro _ handle status _ hstatus hsighted
    have hlt := (List.getElem?_eq_some_iff.mp hstatus).1
    simp only [List.length_singleton, List.mem_singleton] at hlt hsighted
    omega

theorem supervisor_safe_started : SupervisorSafe 3 ⟨startedSupervisor, ⟨[.alive], [0]⟩, 0⟩ :=
  (supervisor_safe newWorker 3 (.single (start_runs True))).1

def stoppedSupervisor : Supervisor where
  worker := ((startedSupervisor.worker.afterTrigger .stop).withState .stopped).settled
  maxRestarts := 3
  handle := some 0
  log := startedSupervisor.log ++ ["worker=worker-1 stopping", "worker=worker-1 stopped"]

theorem stop_runs :
    SupervisorStep False ⟨startedSupervisor, ⟨[.alive], [0]⟩, 0⟩
      ⟨stoppedSupervisor, ⟨[.dead], [0]⟩, 0⟩ := by
  have still := drifts_refl
  have dies : Drifts ⟨[.alive], [0]⟩ ⟨[.dead], [0]⟩ := ⟨.cons (.dies rfl) .nil, rfl⟩
  refine .call .stop ?_ rfl False.elim False.elim
  refine .act (.ok ()) ⟨_, dies, rfl, False.elim⟩ (.act false ⟨_, still _, by decide, rfl⟩ ?_)
  exact .act () ⟨_, still _, rfl⟩ (.act () ⟨_, still _, rfl⟩ (.ret _ _))

def revivedSupervisor : Supervisor where
  worker := ((stoppedSupervisor.worker.countRestart.withState .healthy).withHeartbeat 2000).settled
  maxRestarts := 3
  handle := some 1
  log := stoppedSupervisor.log ++ ["worker=worker-1 crash detected",
    "worker=worker-1 restarting attempt=1", "worker=worker-1 healthy after restart"]

theorem checkLiveness_revives :
    SupervisorStep False ⟨stoppedSupervisor, ⟨[.dead], [0]⟩, 0⟩
      ⟨revivedSupervisor, ⟨[.dead, .alive], [1, 0]⟩, 1⟩ := by
  have still := drifts_refl
  refine .call .checkLiveness ?_ rfl False.elim False.elim
  refine .act false ⟨_, still _, by decide, rfl⟩ (.act () ⟨_, still _, rfl⟩ ?_)
  refine .act 1 ⟨_, still _, rfl, rfl⟩ (.act (.ok ()) ⟨_, still _, .alive, rfl⟩ ?_)
  refine .act true ⟨_, still _, by decide, rfl⟩ (.act () ⟨_, still _, rfl⟩ ?_)
  exact .act 2000 ⟨_, still _, rfl⟩ (.act () ⟨_, still _, rfl⟩ (.ret _ _))

/-- A liveness check brings a stopped worker back. -/
theorem stopped_not_absorbing :
    ¬ ∀ (worker : AccountWorker) (maxRestarts : Nat) (system : SupervisorSystem),
      SupervisorRun False worker maxRestarts system → SupervisorSafe maxRestarts system ∧
        ∀ later, Relation.ReflTransGen (SupervisorStep False) system later → system.Over →
          later.handlesMade = system.handlesMade := by
  intro h
  have hstopped : SupervisorRun False newWorker 3 ⟨stoppedSupervisor, ⟨[.dead], [0]⟩, 0⟩ :=
    (Relation.ReflTransGen.single (start_runs False)).tail stop_runs
  have hmade := (h _ _ _ hstopped).2 _ (.single checkLiveness_revives) (.inr rfl)
  cases hmade

end TradeJournalWorker
