import Mathlib.Logic.Relation
import TradeJournalWorker.CallerProtocol
import TradeJournalWorker.HostProtocol
import TradeJournalWorker.HostTurns

namespace TradeJournalWorker

open ActionPrograms LauncherWorld

theorem ProcessStatus.Drifts.trans {first second third : ProcessStatus}
    (h : first.Drifts second) (h' : second.Drifts third) : first.Drifts third := by
  cases h with
  | stays => exact h'
  | comesUp =>
    cases h' with
    | stays => exact .comesUp
    | dies => exact .dies rfl
  | dies hup =>
    cases h' with
    | stays => exact .dies hup
    | dies hdead => cases hdead

theorem LauncherWorld.Drifts.trans {first second third : LauncherWorld}
    (h : first.Drifts second) (h' : second.Drifts third) : first.Drifts third := by
  refine ⟨?_, h'.2.trans h.2⟩
  have hlen := h.1.length_eq
  have hlen' := h'.1.length_eq
  refine List.forall₂_iff_get.mpr ⟨hlen.trans hlen', fun i h₁ h₃ => ?_⟩
  have h₂ : i < second.handles.length := by omega
  exact ((List.forall₂_iff_get.mp h.1).2 i h₁ h₂).trans ((List.forall₂_iff_get.mp h'.1).2 i h₂ h₃)

/-- What happens to a host's launchers first takes nothing from what it keeps to. -/
theorem hostAnswers_drift {firm : Prop} {world world' after : LauncherWorld} {action : HostAction}
    {answer : action.Answer} (hdrift : world.Drifts world')
    (h : Host.Answers firm world' action answer after) : Host.Answers firm world action answer after := by
  cases action with
  | supervise action =>
    obtain ⟨drifted, hdrifted, hanswers⟩ := h
    exact ⟨drifted, hdrift.trans hdrifted, hanswers⟩
  | _ => exact hdrift.trans h

theorem permits_drift {phase : HostPhase} {world world' : LauncherWorld} {action : HostAction}
    (hdrift : world.Drifts world') (h : phase.Permits world action) :
    phase.Permits world' action := by
  cases action with
  | supervise action => cases action <;> exact h
  | unlinkPid => exact h.imp_right fun hregistered => ⟨hregistered.1, hregistered.2.drift hdrift⟩
  | _ => exact h

theorem meets_drift {phase : HostPhase} {world world' : LauncherWorld}
    {program : HostProgram (Except LauncherError Nat)} (hdrift : world.Drifts world')
    (h : ActionPrograms.Meets hostWatcher (fun _ seen => seen.1.Ended) program (phase, world)) :
    ActionPrograms.Meets hostWatcher (fun _ seen => seen.1.Ended) program (phase, world') := by
  cases program with
  | ret value => exact h
  | hang => trivial
  | act action next =>
    refine ⟨permits_drift hdrift h.1, fun answer seen hstep => ?_⟩
    exact h.2 answer seen ⟨hstep.1, hostAnswers_drift hdrift hstep.2⟩

/-- Before and after its registration a host lets its launchers only drift. -/
theorem launchers_drift {phase : HostPhase} {world world' : LauncherWorld} {action : HostAction}
    {answer : action.Answer} (hphase : phase ≠ .registered ∨ action = .unlinkPid)
    (hpermits : phase.Permits world action) (h : Host.Answers True world action answer world') :
    world.Drifts world' := by
  cases action with
  | supervise action =>
    have hne := hphase.resolve_right (by simp)
    cases action with
    | saveState file =>
      obtain ⟨drifted, hdrift, hsame⟩ := h
      have heq : world' = drifted := hsame
      rw [heq]
      exact hdrift
    | _ => exact absurd hpermits hne
  | _ => exact h

/-- What a host that runs does next and what it may leave up. -/
structure Host.InOrder (host : Host) : Prop where
  meets : host.running = true →
    ActionPrograms.Meets hostWatcher (fun _ seen => seen.1.Ended) host.program
      (host.phase, host.launchers)
  down : host.running = false ∨ host.phase ≠ .registered → host.launchers.OnlyUp none

namespace AccountSystem

def phaseOf (system : AccountSystem) (pid : Nat) : Option HostPhase :=
  (system.hosts pid).bind fun host => if host.running then some host.phase else none

def openStops (system : AccountSystem) (phase : StopPhase) : Prop :=
  ∃ number call, system.stops number = some call ∧ call.finished = false ∧ call.phase = phase

/-- What every reachable account keeps. -/
structure InOrder (system : AccountSystem) : Prop where
  hosts : ∀ pid host, system.hosts pid = some host → host.InOrder
  exclusive : Exclusive system.phaseOf system.files.pidFile system.openStops
  stops : ∀ number call, system.stops number = some call → call.finished = false →
    ActionPrograms.Meets stopWatcher
      (fun left phase => (∃ error, left.1 = .error error) ∨ phase = .clear) call.program call.phase
  starts : ∀ number program, system.starts number = some program →
    ActionPrograms.Meets startWatcher (fun _ _ => True) program ()

theorem phaseOf_host {system : AccountSystem} {pid : Nat} {host : Host}
    (h : system.hosts pid = some host) (hrun : host.running = true) :
    system.phaseOf pid = some host.phase := by
  simp [phaseOf, h, hrun]

theorem phaseOf_setHost (system : AccountSystem) (pid : Nat) (host : Host) :
    (system.setHost pid host).phaseOf =
      Function.update system.phaseOf pid (if host.running then some host.phase else none) := by
  funext other
  by_cases h : other = pid
  · subst h
    simp [phaseOf, setHost]
  · simp [phaseOf, setHost, h]

theorem has_iff {system : AccountSystem} {kind : HostPhase → Prop} {pid : Nat} :
    system.Has kind pid ↔ ∃ phase, system.phaseOf pid = some phase ∧ kind phase := by
  unfold Has phaseOf
  constructor
  · rintro ⟨host, hhost, hrun, hkind⟩
    exact ⟨host.phase, by simp [hhost, hrun], hkind⟩
  · rintro ⟨phase, hphase, hkind⟩
    obtain ⟨host, hhost, hfound⟩ := Option.bind_eq_some_iff.mp hphase
    split at hfound
    next hrun =>
      cases hfound
      exact ⟨host, hhost, hrun, hkind⟩
    next => cases hfound

theorem runs_iff {system : AccountSystem} {pid : Nat} :
    system.Runs pid ↔ system.phaseOf pid ≠ none := by
  constructor
  · rintro ⟨host, hhost, hrun⟩
    rw [phaseOf_host hhost hrun]
    exact Option.some_ne_none _
  · intro h
    obtain ⟨phase, hphase⟩ := Option.ne_none_iff_exists'.mp h
    have hhas : system.Has (fun _ => True) pid := has_iff.mpr ⟨phase, hphase, trivial⟩
    obtain ⟨host, hhost, hrun, _⟩ := hhas
    exact ⟨host, hhost, hrun⟩

theorem setHost_cases {system : AccountSystem} {pid other : Nat} {host found : Host}
    (h : (system.setHost pid host).hosts other = some found) :
    (other = pid ∧ found = host) ∨ (other ≠ pid ∧ system.hosts other = some found) := by
  by_cases heq : other = pid
  · subst heq
    simp only [setHost, Function.update_self, Option.some.injEq] at h
    exact .inl ⟨rfl, h.symm⟩
  · have hold : Function.update system.hosts pid (some host) other = some found := h
    rw [Function.update_of_ne heq] at hold
    exact .inr ⟨heq, hold⟩

/-- One host changes in a way that keeps the phases in order. -/
theorem InOrder.setHost {system : AccountSystem} (h : system.InOrder) {pid : Nat} {host : Host}
    (hhost : host.InOrder)
    (hexclusive : Exclusive (Function.update system.phaseOf pid
      (if host.running then some host.phase else none)) system.files.pidFile system.openStops) :
    (system.setHost pid host).InOrder where
  hosts other found hfound := by
    obtain ⟨_, rfl⟩ | ⟨_, hold⟩ := setHost_cases hfound
    · exact hhost
    · exact h.hosts other found hold
  exclusive := by
    rw [phaseOf_setHost]
    exact hexclusive
  stops := h.stops
  starts := h.starts

/-- The files change; what the PID file says stays in order. -/
theorem InOrder.withFiles {system : AccountSystem} (h : system.InOrder) {files : AccountFiles}
    (hexclusive : Exclusive system.phaseOf files.pidFile system.openStops) :
    (system.withFiles files).InOrder := ⟨h.hosts, hexclusive, h.stops, h.starts⟩

/-- A host that dies or whose launchers drift. -/
theorem InOrder.fade {system : AccountSystem} (h : system.InOrder) {pid : Nat} {host host' : Host}
    (hat : system.hosts pid = some host) (hphase : host'.phase = host.phase)
    (hrun : host'.running = true → host.running = true) (hhost : host'.InOrder) :
    (system.setHost pid host').InOrder := by
  refine h.setHost hhost ?_
  by_cases hrunning : host'.running = true
  · rw [if_pos hrunning, hphase, ← phaseOf_host hat (hrun hrunning), Function.update_eq_self]
    exact h.exclusive
  · rw [if_neg hrunning]
    exact h.exclusive.calm fun found hfound => nomatch hfound

theorem InOrder.drift {system : AccountSystem} (h : system.InOrder) {pid : Nat} {host : Host}
    {launchers : LauncherWorld} (hat : system.hosts pid = some host)
    (hdrift : host.launchers.Drifts launchers) :
    (system.setHost pid { host with launchers := launchers }).InOrder := by
  have hhost := h.hosts pid host hat
  refine h.fade hat rfl (fun hrun => hrun) ⟨fun hrun => meets_drift hdrift (hhost.meets hrun), ?_⟩
  exact fun hdown => (hhost.down hdown).drift hdrift

theorem hostInOrder_gone {host : Host} (hdown : host.launchers.OnlyUp none) :
    Host.InOrder { host with running := false } :=
  ⟨fun hrun => (nomatch hrun), fun _ => hdown⟩

/-- A process tree that was killed has nothing up. -/
theorem killed_down (host : Host) : (host.killed true).launchers.OnlyUp none := by
  intro i status hi hup
  simp only [Host.killed, if_true, List.getElem?_map, Option.map_eq_some_iff] at hi
  obtain ⟨before, _, rfl⟩ := hi
  split at hup
  next => cases hup
  next hnot => exact absurd hup hnot

theorem InOrder.spawn {system : AccountSystem} (h : system.InOrder) {pid : Nat}
    (maxRestarts timeout interval polls ticks : Nat) :
    (system.setHost pid
      { program := runWorkerHost maxRestarts timeout interval polls ticks }).InOrder := by
  refine h.setHost ⟨fun _ => meets_runWorkerHost maxRestarts timeout interval polls ticks, ?_⟩ ?_
  · intro _ i status hi
    simp at hi
  · refine h.exclusive.calm fun found hfound => ?_
    cases hfound
    refine ⟨?_, ?_⟩
    · rintro (hfalse | ⟨_, hfalse⟩) <;> cases hfalse
    · rintro (hfalse | hfalse | hfalse) <;> cases hfalse

theorem answers_pidFile {files files' : AccountFiles} {self : Nat} {runs : Nat → Prop}
    {action : HostAction} {answer : action.Answer} (hwrite : action ≠ .writePid)
    (hunlink : action ≠ .unlinkPid) (h : files.Answers self runs action answer files') :
    files'.pidFile = files.pidFile := by
  cases action with
  | supervise action => cases action <;> rw [h]
  | writePid => exact absurd rfl hwrite
  | unlinkPid => exact absurd rfl hunlink
  | loadState => rw [h.1]
  | readPid | pidIsAlive | controlExists | unlinkControl | listSession => rw [h.2]
  | _ => rw [h]

theorem mayStart_free {system : AccountSystem} {pid : Nat} (h : MayStart system pid) :
    Exclusive.Free system.phaseOf system.openStops pid where
  others other phase hne hphase hbad := h.1 other hne (has_iff.mpr ⟨phase, hphase, hbad⟩)
  stops stop hstop := by
    obtain ⟨number, call, hcall, hopen, rfl⟩ := hstop
    by_contra hidle
    exact h.2 ⟨number, call, hcall, hopen, hidle⟩

/-- One action of a host keeps the phases in order. -/
theorem InOrder.hostPhases {system : AccountSystem} (h : system.InOrder) {pid : Nat} {host : Host}
    {action : HostAction} {answer : action.Answer} {files : AccountFiles}
    (hat : system.hosts pid = some host) (hrun : host.running = true)
    (hpermits : host.phase.Permits host.launchers action)
    (hanswered : system.files.Answers pid system.Runs action answer files)
    (horder : host.Orderly system pid action) :
    Exclusive (Function.update system.phaseOf pid (some (host.phase.next action answer)))
      files.pidFile system.openStops := by
  have hphase := phaseOf_host hat hrun
  have hsame : Function.update system.phaseOf pid (some host.phase) = system.phaseOf := by
    rw [← hphase, Function.update_eq_self]
  have hex := h.exclusive
  have hother : action ≠ .writePid → action ≠ .unlinkPid →
      host.phase.next action answer = host.phase →
      Exclusive (Function.update system.phaseOf pid (some (host.phase.next action answer)))
        files.pidFile system.openStops := by
    intro hwrite hunlink hnext
    rw [hnext, hsame, answers_pidFile hwrite hunlink hanswered]
    exact hex
  cases action with
  | readPid =>
    have hfresh : host.phase = .fresh := hpermits
    obtain ⟨hpid, hfiles⟩ := hanswered
    have hfree := mayStart_free (horder hfresh)
    rw [hfiles, hfresh]
    cases hfile : system.files.pidFile with
    | none =>
      rw [hfile] at hex hpid
      rw [hpid]
      exact hex.read_none hfree
    | some read =>
      rw [hfile] at hex hpid
      rw [hpid]
      exact hex.read_some hfree
  | pidIsAlive read =>
    have hreading : host.phase = .reading read := hpermits
    obtain ⟨halive, hfiles⟩ := hanswered
    rw [hfiles, hreading]
    rw [hreading] at hphase
    cases answer with
    | true =>
      refine hex.calm fun found hfound => ?_
      cases hfound
      refine ⟨?_, ?_⟩
      · rintro (hfalse | ⟨_, hfalse⟩) <;> cases hfalse
      · rintro (hfalse | hfalse | hfalse) <;> cases hfalse
    | false =>
      refine hex.pass hphase ?_
      by_contra hruns
      cases halive.mpr (runs_iff.mpr hruns)
  | writePid =>
    have hpast : host.phase = .past := hpermits
    have hfiles : files = { system.files with pidFile := some pid } := hanswered
    rw [hfiles, hpast]
    rw [hpast] at hphase
    exact hex.register hphase
  | unlinkPid =>
    obtain ⟨_, hfiles⟩ := hanswered
    rw [hfiles]
    rcases hpermits with hleaving | ⟨hregistered, _⟩
    · rw [hleaving] at hphase ⊢
      exact hex.unlink (.inr hphase)
    · rw [hregistered] at hphase ⊢
      exact hex.unlink (.inl hphase)
  | _ => exact hother (by simp) (by simp) rfl

/-- One action of a host keeps what it may leave up. -/
theorem hostStep_down {system : AccountSystem} {pid : Nat} {host : Host} {action : HostAction}
    {answer : action.Answer} {launchers : LauncherWorld} (hhost : host.InOrder)
    (hpermits : host.phase.Permits host.launchers action)
    (hlaunched : Host.Answers True host.launchers action answer launchers)
    (horder : host.Orderly system pid action)
    (hnext : host.phase.next action answer ≠ .registered) : launchers.OnlyUp none := by
  by_cases hphase : host.phase = .registered
  · have hunlink : action = .unlinkPid := by
      rw [hphase] at hnext
      cases action <;> first | rfl | exact absurd rfl hnext
    subst hunlink
    have hdrift := launchers_drift (.inr rfl) hpermits hlaunched
    rcases hpermits with hleaving | ⟨_, hdown⟩
    · rw [hphase] at hleaving
      cases hleaving
    · have hnone : host.launchers.OnlyUp none := by
        intro i status hi hup
        by_cases hsighted : i ∈ host.launchers.sighted
        · rw [hdown i status hi hsighted] at hup
          cases hup
        · rw [horder hphase i status hi hsighted] at hup
          cases hup
      exact hnone.drift hdrift
  · exact (hhost.down (.inr hphase)).drift (launchers_drift (.inl hphase) hpermits hlaunched)

theorem InOrder.hostStep {system : AccountSystem} (h : system.InOrder) {pid : Nat} {host : Host}
    {action : HostAction} {next : action.Answer → HostProgram (Except LauncherError Nat)}
    {answer : action.Answer} {files : AccountFiles} {launchers : LauncherWorld}
    (hat : system.hosts pid = some host) (hrun : host.running = true)
    (hasks : host.program = .act action next)
    (hanswered : system.files.Answers pid system.Runs action answer files)
    (hlaunched : Host.Answers True host.launchers action answer launchers)
    (horder : host.Orderly system pid action) :
    ((system.withFiles files).setHost pid
      { host with
        program := next answer, phase := host.phase.next action answer,
        launchers := launchers }).InOrder := by
  have hhost := h.hosts pid host hat
  have hmeets := hhost.meets hrun
  rw [hasks] at hmeets
  obtain ⟨hpermits, hrest⟩ := hmeets
  have hex := h.hostPhases hat hrun hpermits hanswered horder
  refine ⟨?_, ?_, h.stops, h.starts⟩
  · intro other found hfound
    obtain ⟨_, rfl⟩ | ⟨_, hold⟩ := setHost_cases hfound
    · refine ⟨fun _ => hrest answer _ ⟨rfl, hlaunched⟩, ?_⟩
      rintro (hgone | hnext)
      · have hgone' : host.running = false := hgone
        rw [hrun] at hgone'
        cases hgone'
      · exact hostStep_down hhost hpermits hlaunched horder hnext
    · exact h.hosts other found hold
  · rw [phaseOf_setHost, if_pos hrun]
    exact hex

theorem openStops_setStop {system : AccountSystem} {number : Nat} {call : StopCall}
    {phase : StopPhase} (h : (system.setStop number call).openStops phase) :
    system.openStops phase ∨ (call.finished = false ∧ call.phase = phase) := by
  obtain ⟨other, found, hfound, hopen, hphase⟩ := h
  have hfound' : Function.update system.stops number (some call) other = some found := hfound
  by_cases heq : other = number
  · subst heq
    rw [Function.update_self] at hfound'
    cases hfound'
    exact .inr ⟨hopen, hphase⟩
  · rw [Function.update_of_ne heq] at hfound'
    exact .inl ⟨other, found, hfound', hopen, hphase⟩

/-- A stop call comes, goes on or goes. -/
theorem InOrder.setStop {system : AccountSystem} (h : system.InOrder) {number : Nat}
    {call : StopCall} (hmeets : call.finished = false →
      ActionPrograms.Meets stopWatcher
        (fun left phase => (∃ error, left.1 = .error error) ∨ phase = .clear)
        call.program call.phase)
    (hwatch : call.finished = false → call.phase ≠ .idle → ∀ other phase,
      system.phaseOf other = some phase →
        ¬phase.Starting ∧ (phase = .registered → call.phase = .watching other)) :
    (system.setStop number call).InOrder := by
  refine ⟨h.hosts, h.exclusive.stops ?_, ?_, h.starts⟩
  · intro stop hstop
    rcases openStops_setStop hstop with hold | ⟨hopen, rfl⟩
    · exact .inl hold
    · exact .inr (hwatch hopen)
  · intro other found hfound hopen
    have hfound' : Function.update system.stops number (some call) other = some found := hfound
    by_cases heq : other = number
    · subst heq
      rw [Function.update_self] at hfound'
      cases hfound'
      exact hmeets hopen
    · rw [Function.update_of_ne heq] at hfound'
      exact h.stops other found hfound' hopen

theorem InOrder.stopFiles {system : AccountSystem} (h : system.InOrder) {number : Nat}
    {call : StopCall} {action : HostAction} {answer : action.Answer} {files : AccountFiles}
    (hat : system.stops number = some call) (hopen : call.finished = false)
    (hpermits : call.phase.Permits action)
    (hanswered : system.files.Answers number system.Runs action answer files) :
    (system.withFiles files).InOrder := by
  refine h.withFiles ?_
  by_cases hunlink : action = .unlinkPid
  · subst hunlink
    have hclear : call.phase = .clear := hpermits
    rw [hanswered.2]
    refine h.exclusive.clearFile fun other hother => ?_
    have hwatched := (h.exclusive.watched call.phase ⟨number, call, hat, hopen, rfl⟩
      (by rw [hclear]; decide) other _ hother).2 rfl
    rw [hclear] at hwatched
    cases hwatched
  · have hwrite : action ≠ .writePid := by
      rintro rfl
      exact hpermits
    rw [answers_pidFile hwrite hunlink hanswered]
    exact h.exclusive

/-- The watched host is named by the file when it is read, and gone when the call is clear. -/
theorem InOrder.stopWatch {system : AccountSystem} {tree : Bool} (h : system.InOrder)
    {number : Nat} {call : StopCall} {action : HostAction} {answer : action.Answer}
    {files : AccountFiles} (hat : system.stops number = some call) (hopen : call.finished = false)
    (hkills : ∀ pid, action ≠ .forceKill pid)
    (hanswered : system.files.Answers number system.Runs action answer files)
    (horder : call.Orderly system tree action) (hidle : call.phase.next action answer ≠ .idle)
    {other : Nat} {phase : HostPhase} (hother : system.phaseOf other = some phase) :
    ¬phase.Starting ∧ (phase = .registered → call.phase.next action answer = .watching other) := by
  have hold (hne : call.phase ≠ .idle) :=
    h.exclusive.watched call.phase ⟨number, call, hat, hopen, rfl⟩ hne other phase hother
  have hsame : call.phase.next action answer = call.phase → ¬phase.Starting ∧
      (phase = .registered → call.phase.next action answer = .watching other) := by
    intro hnext
    rw [hnext] at hidle ⊢
    exact hold hidle
  cases action with
  | readPid =>
    by_cases hphase : call.phase = .idle
    · refine ⟨fun hstarting => horder hphase other (has_iff.mpr ⟨phase, hother, hstarting⟩), ?_⟩
      rintro rfl
      have hpid : answer = some other := by
        rw [hanswered.1]
        exact h.exclusive.registered other hother
      rw [hphase, hpid]
      rfl
    · refine hsame ?_
      cases hcall : call.phase with
      | idle => exact absurd hcall hphase
      | watching => rfl
      | clear => rfl
  | pidIsAlive asked =>
    cases answer with
    | true => exact hsame (by cases call.phase <;> rfl)
    | false =>
      cases hcall : call.phase with
      | idle =>
        rw [← hcall]
        exact hsame (by rw [hcall]; rfl)
      | clear =>
        rw [← hcall]
        exact hsame (by rw [hcall]; rfl)
      | watching pid =>
        by_cases hasked : asked = pid
        · have hwatched := hold (by rw [hcall]; exact fun hfalse => nomatch hfalse)
          refine ⟨hwatched.1, fun hregistered => ?_⟩
          have hpid := hwatched.2 hregistered
          rw [hcall] at hpid
          cases hpid
          have hruns : system.Runs asked := by
            rw [hasked]
            exact runs_iff.mpr (by rw [hother]; exact Option.some_ne_none _)
          cases hanswered.1.mpr hruns
        · rw [← hcall]
          refine hsame ?_
          rw [hcall]
          simp [StopPhase.next, hasked]
  | forceKill pid => exact absurd rfl (hkills pid)
  | _ => exact hsame (by cases call.phase <;> rfl)

theorem InOrder.stopStep {system : AccountSystem} {tree : Bool} (h : system.InOrder)
    {number : Nat} {call : StopCall} {action : HostAction}
    {next : action.Answer → HostProgram (Except LauncherError PersistentStatus × AccountWorker)}
    {answer : action.Answer} {files : AccountFiles} (hat : system.stops number = some call)
    (hopen : call.finished = false) (hasks : call.program = .act action next)
    (hkills : ∀ pid, action ≠ .forceKill pid)
    (hanswered : system.files.Answers number system.Runs action answer files)
    (horder : call.Orderly system tree action) :
    ((system.withFiles files).setStop number
      { call with program := next answer, phase := call.phase.next action answer }).InOrder := by
  have hmeets := h.stops number call hat hopen
  rw [hasks] at hmeets
  refine (h.stopFiles hat hopen hmeets.1 hanswered).setStop (fun _ => hmeets.2 answer _ rfl) ?_
  exact fun _ hidle other phase hother =>
    h.stopWatch hat hopen hkills hanswered horder hidle hother

theorem InOrder.stopKill {system : AccountSystem} {tree : Bool} (h : system.InOrder)
    {number pid : Nat} {call : StopCall} {host : Host}
    {next : Unit → HostProgram (Except LauncherError PersistentStatus × AccountWorker)}
    (hat : system.stops number = some call) (hopen : call.finished = false)
    (hasks : call.program = .act (.forceKill pid) next) (hvictim : system.hosts pid = some host)
    (horder : call.Orderly system tree (.forceKill pid)) :
    ((system.setHost pid (host.killed tree)).setStop number
      { call with program := next (), phase := call.phase.next (.forceKill pid) () }).InOrder := by
  have hmeets := h.stops number call hat hopen
  rw [hasks] at hmeets
  have hphase : call.phase = .watching pid := hmeets.1
  have hdown : (host.killed tree).launchers.OnlyUp none := by
    cases tree with
    | true => exact killed_down host
    | false => exact horder rfl host hvictim
  have hkilled : (system.setHost pid (host.killed tree)).InOrder :=
    h.fade hvictim rfl (fun hfalse => nomatch hfalse)
      ⟨fun hfalse => (nomatch hfalse), fun _ => hdown⟩
  refine hkilled.setStop (fun _ => hmeets.2 () _ rfl) fun _ _ other phase hother => ?_
  rw [phaseOf_setHost] at hother
  obtain ⟨_, hfalse⟩ | ⟨hne, hold⟩ := Exclusive.update_cases hother
  · cases hfalse
  · have hwatched := h.exclusive.watched call.phase ⟨number, call, hat, hopen, rfl⟩
      (by rw [hphase]; exact fun hfalse => nomatch hfalse) other phase hold
    refine ⟨hwatched.1, fun hregistered => ?_⟩
    have hpid := hwatched.2 hregistered
    rw [hphase] at hpid
    cases hpid
    exact absurd rfl hne

theorem InOrder.setStart {system : AccountSystem} (h : system.InOrder) (number : Nat)
    {program : HostProgram (Except LauncherError PersistentStatus × AccountWorker)}
    (hmeets : ActionPrograms.Meets startWatcher (fun _ _ => True) program ()) :
    InOrder { system with starts := Function.update system.starts number (some program) } := by
  refine ⟨h.hosts, h.exclusive, h.stops, fun other found hfound => ?_⟩
  have hfound' : Function.update system.starts number (some program) other = some found := hfound
  by_cases heq : other = number
  · subst heq
    rw [Function.update_self] at hfound'
    cases hfound'
    exact hmeets
  · rw [Function.update_of_ne heq] at hfound'
    exact h.starts other found hfound'

theorem InOrder.startFiles {system : AccountSystem} (h : system.InOrder) {number : Nat}
    {action : HostAction} {answer : action.Answer} {files : AccountFiles}
    (hpermits : startWatcher.allowed () action)
    (hanswered : system.files.Answers number system.Runs action answer files) :
    (system.withFiles files).InOrder := by
  refine h.withFiles ?_
  have hwrite : action ≠ .writePid := by
    rintro rfl
    exact hpermits
  have hunlink : action ≠ .unlinkPid := by
    rintro rfl
    exact hpermits
  rw [answers_pidFile hwrite hunlink hanswered]
  exact h.exclusive

/-- A host that has ended by itself has nothing up. -/
theorem InOrder.hostEnd {system : AccountSystem} (h : system.InOrder) {pid : Nat} {host : Host}
    {outcome : Except LauncherError Nat} (hat : system.hosts pid = some host)
    (hends : host.program = .ret outcome) :
    (system.setHost pid { host with running := false }).InOrder := by
  have hhost := h.hosts pid host hat
  refine h.fade hat rfl (fun hfalse => nomatch hfalse) (hostInOrder_gone (hhost.down ?_))
  by_cases hrun : host.running = true
  · have hended := hhost.meets hrun
    rw [hends] at hended
    refine .inr fun hregistered => ?_
    have hphase : host.phase.Ended := hended
    rw [hregistered] at hphase
    rcases hphase with hfalse | hfalse | hfalse <;> cases hfalse
  · exact .inl (by simpa using hrun)

/-- Every orderly step keeps the account in order. -/
theorem InOrder.step {tree : Bool} {system system' : AccountSystem} (h : system.InOrder)
    (step : AccountStep tree True system system') : system'.InOrder := by
  cases step with
  | drift at_ hdrift => exact h.drift at_ hdrift
  | spawn pid free maxRestarts timeout interval polls ticks =>
    exact h.spawn maxRestarts timeout interval polls ticks
  | host pid action answer at_ running asks answered launched order =>
    exact h.hostStep at_ running asks answered launched (order trivial)
  | hostEnds at_ ends => exact h.hostEnd at_ ends
  | hostCrashes at_ order =>
    exact h.fade at_ rfl (fun hfalse => nomatch hfalse) (hostInOrder_gone (order trivial))
  | stopBegins free worker timeout interval polls =>
    refine h.setStop (fun _ => ?_) fun _ hidle => absurd rfl hidle
    exact ensures_requestStopAndWait timeout interval polls worker .idle rfl
  | stop answer at_ open_ asks kills answered order =>
    exact h.stopStep at_ open_ asks kills answered (order trivial)
  | stopKills at_ open_ asks victim order =>
    exact h.stopKill at_ open_ asks victim (order trivial)
  | stopGone at_ =>
    exact h.setStop (fun hfalse => nomatch hfalse) fun hfalse => nomatch hfalse
  | startBegins free worker timeout polls =>
    exact h.setStart _ (harmless_startPersistentWorker timeout polls worker () trivial)
  | start answer asks spawns answered =>
    have hmeets := h.starts _ _ asks
    exact (h.startFiles hmeets.1 answered).setStart _ (hmeets.2 answer () trivial)
  | startSpawns asks free maxRestarts timeout interval polls ticks =>
    have hmeets := h.starts _ _ asks
    exact (h.spawn maxRestarts timeout interval polls ticks).setStart _ (hmeets.2 () () trivial)

theorem inOrder_idle (files : AccountFiles) : (idleAccount files).InOrder where
  hosts _ _ h := nomatch h
  exclusive :=
    { registered := fun _ h => nomatch h
      alone := fun _ _ _ _ _ h => nomatch h
      reading := fun _ _ _ _ _ h => nomatch h
      watched := fun _ _ _ _ _ h => nomatch h }
  stops _ _ h := nomatch h
  starts _ _ h := nomatch h

end AccountSystem

/-- A run of any number of hosts, start calls and stop calls for one account. -/
def AccountRun (tree : Bool) (orderly : Prop) (files : AccountFiles) : AccountSystem → Prop :=
  Relation.ReflTransGen (AccountStep tree orderly) (idleAccount files)

theorem inOrder_of_run {tree : Bool} {files : AccountFiles} {system : AccountSystem}
    (run : AccountRun tree True files system) : system.InOrder := by
  induction run with
  | refl => exact AccountSystem.inOrder_idle files
  | tail _ step ih => exact ih.step step

/-- One host is past its check, and a stop call that returns leaves no launcher alive. -/
structure OneHost (system : AccountSystem) : Prop where
  alone : ∀ pid pid', system.Has HostPhase.InFlight pid → system.Has HostPhase.InFlight pid' →
    pid = pid'
  noResidual : ∀ number, system.StopReturned number → ∀ pid host, system.hosts pid = some host →
    ∀ handle : Nat, host.launchers.handles[handle]? ≠ some ProcessStatus.alive

/-- Orderly runs have one host at a time and leave nothing behind a stop. -/
theorem one_host {tree : Bool} {files : AccountFiles} {system : AccountSystem}
    (run : AccountRun tree True files system) : OneHost system := by
  have h := inOrder_of_run run
  constructor
  · intro pid pid' hpid hpid'
    by_contra hne
    obtain ⟨phase, hphase, hflight⟩ := AccountSystem.has_iff.mp hpid
    obtain ⟨phase', hphase', hflight'⟩ := AccountSystem.has_iff.mp hpid'
    exact h.exclusive.alone pid pid' phase phase' hne hphase hphase' hflight hflight'
  · rintro number ⟨call, status, worker, hcall, hopen, hends⟩ pid host hhost handle halive
    have hmeets := h.stops number call hcall hopen
    rw [hends] at hmeets
    have hclear : call.phase = .clear := by
      rcases hmeets with ⟨error, herror⟩ | hclear
      · cases herror
      · exact hclear
    refine nomatch (h.hosts pid host hhost).down ?_ handle .alive halive rfl
    by_cases hrun : host.running = true
    · refine .inr fun hregistered => ?_
      have hphase := AccountSystem.phaseOf_host hhost hrun
      have hwatched := (h.exclusive.watched call.phase ⟨number, call, hcall, hopen, rfl⟩
        (by rw [hclear]; decide) pid _ hphase).2 hregistered
      rw [hclear] at hwatched
      cases hwatched
    · exact .inl (by simpa using hrun)

def newFiles : AccountFiles := { stateFile := { workerId := "worker-1", state := .starting } }

/-- One host resumes the worker and finds no PID file. -/
theorem one_host_started : ∃ system, AccountRun false True newFiles system ∧
    system.Has HostPhase.InFlight 1 ∧ OneHost system := by
  have h0 : AccountRun false True newFiles (idleAccount newFiles) := .refl
  have h1 := h0.tail (.spawn 1 rfl 3 10 1 1 1)
  have h2 := h1.tail (.host 1 .loadState (.ok newFiles.stateFile) rfl rfl rfl ⟨rfl, .inl rfl⟩ (drifts_refl _)
    fun _ => trivial)
  have hfree : ∀ system : AccountSystem, (∀ other, other ≠ 1 → system.hosts other = none) →
      system.stops = (fun _ => none) → MayStart system 1 := by
    intro system hhosts hstops
    refine ⟨?_, ?_⟩
    · rintro other hne ⟨host, hhost, _⟩
      rw [hhosts other hne] at hhost
      cases hhost
    · rintro ⟨number, call, hcall, _⟩
      rw [hstops] at hcall
      cases hcall
  have h3 := h2.tail (.host 1 .readPid none rfl rfl rfl ⟨rfl, rfl⟩ (drifts_refl _) fun _ _ =>
    hfree _ (fun other hne => by simp [AccountSystem.setHost, AccountSystem.withFiles, idleAccount, hne])
      rfl)
  exact ⟨_, h3, ⟨_, rfl, rfl, .inl rfl⟩, one_host h3⟩

/-- Two hosts that look for the PID file before either has written it both go on. -/
theorem two_hosts_race :
    ¬ ∀ (tree : Bool) (files : AccountFiles) (system : AccountSystem),
      AccountRun tree False files system → OneHost system := by
  intro h
  have h0 : AccountRun false False newFiles (idleAccount newFiles) := .refl
  have h1 := (h0.tail (.spawn 1 rfl 3 10 1 1 1)).tail (.spawn 2 rfl 3 10 1 1 1)
  have h2 := h1.tail (.host 1 .loadState (.ok newFiles.stateFile) rfl rfl rfl ⟨rfl, .inl rfl⟩ (drifts_refl _)
    False.elim)
  have h3 := h2.tail (.host 2 .loadState (.ok newFiles.stateFile) rfl rfl rfl ⟨rfl, .inl rfl⟩ (drifts_refl _)
    False.elim)
  have h4 := h3.tail (.host 1 .readPid none rfl rfl rfl ⟨rfl, rfl⟩ (drifts_refl _) False.elim)
  have h5 := h4.tail (.host 2 .readPid none rfl rfl rfl ⟨rfl, rfl⟩ (drifts_refl _) False.elim)
  have hsame := (h _ _ _ h5).alone 1 2 ⟨_, rfl, rfl, .inl rfl⟩ ⟨_, rfl, rfl, .inl rfl⟩
  cases hsame

end TradeJournalWorker
