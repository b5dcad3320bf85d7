import Mathlib.Logic.Function.Basic
import TradeJournalWorker.LauncherWorlds
import TradeJournalWorker.WorkerHost

namespace TradeJournalWorker

open ActionPrograms LauncherWorld

/-- How far a host has come. It is `reading` with the PID that it has to ask about, `past` its
already-running check before its PID is written, and `leaving` once it has removed the file. -/
inductive HostPhase where
  | fresh
  | reading (pid : Nat)
  | refused
  | past
  | registered
  | leaving
  deriving DecidableEq, Repr

namespace HostPhase

def next (phase : HostPhase) : (action : HostAction) → action.Answer → HostPhase
  | .readPid, pid => match phase, pid with
    | fresh, none => past
    | fresh, some pid => reading pid
    | _, _ => phase
  | .pidIsAlive _, alive => match phase, alive with
    | reading _, true => refused
    | reading _, false => past
    | _, _ => phase
  | .writePid, _ => match phase with
    | past => registered
    | _ => phase
  | .unlinkPid, _ => match phase with
    | registered => leaving
    | _ => phase
  | _, _ => phase

/-- Past the already-running check. -/
def InFlight (phase : HostPhase) : Prop := phase = past ∨ phase = registered ∨ phase = leaving

/-- Between the read of the PID file and the write of its own PID. -/
def Starting (phase : HostPhase) : Prop := phase = past ∨ ∃ pid, phase = reading pid

end HostPhase

/-- How far a call of `request_stop_and_wait` has come. It is `clear` once the host that it
found is known to be gone. -/
inductive StopPhase where
  | idle
  | watching (pid : Nat)
  | clear
  deriving DecidableEq, Repr

def StopPhase.next (phase : StopPhase) : (action : HostAction) → action.Answer → StopPhase
  | .readPid, pid => match phase, pid with
    | idle, none => clear
    | idle, some pid => watching pid
    | _, _ => phase
  | .pidIsAlive asked, alive => match phase, alive with
    | watching pid, false => if asked = pid then clear else phase
    | _, _ => phase
  | .forceKill killed, _ => match phase with
    | watching pid => if killed = pid then clear else phase
    | _ => phase
  | _, _ => phase

structure AccountFiles where
  pidFile : Option Nat := none
  control : Bool := false
  stateFile : WorkerStateFile
  deriving DecidableEq, Repr

/-- What the files and the process table answer and how the files change. -/
def AccountFiles.Answers (files : AccountFiles) (self : Nat) (runs : Nat → Prop) :
    (action : HostAction) → action.Answer → AccountFiles → Prop
  | .supervise (.saveState file), _, files' => files' = { files with stateFile := file }
  | .loadState, file, files' =>
    files' = files ∧ (file = .ok files.stateFile ∨ ∃ error, file = .error error)
  | .readPid, pid, files' => pid = files.pidFile ∧ files' = files
  | .writePid, _, files' => files' = { files with pidFile := some self }
  | .unlinkPid, found, files' =>
    found = files.pidFile.isSome ∧ files' = { files with pidFile := none }
  | .pidIsAlive pid, alive, files' => (alive = true ↔ runs pid) ∧ files' = files
  | .controlExists, found, files' => found = files.control ∧ files' = files
  | .writeControl, _, files' => files' = { files with control := true }
  | .unlinkControl, found, files' =>
    found = files.control ∧ files' = { files with control := false }
  | .listSession, listed, files' =>
    listed = (files.control, files.pidFile.isSome) ∧ files' = files
  | _, _, files' => files' = files

structure Host where
  program : HostProgram (Except LauncherError Nat)
  phase : HostPhase := .fresh
  launchers : LauncherWorld := {}
  running : Bool := true

structure StopCall where
  program : HostProgram (Except LauncherError PersistentStatus × AccountWorker)
  phase : StopPhase := .idle
  finished : Bool := false

/-- Hosts are known by their PIDs; the calls of the command line are numbered. -/
structure AccountSystem where
  files : AccountFiles
  hosts : Nat → Option Host := fun _ => none
  stops : Nat → Option StopCall := fun _ => none
  starts : Nat → Option (HostProgram (Except LauncherError PersistentStatus × AccountWorker)) :=
    fun _ => none

namespace AccountSystem

def Runs (system : AccountSystem) (pid : Nat) : Prop :=
  ∃ host, system.hosts pid = some host ∧ host.running = true

/-- A running host in a phase of the kind. -/
def Has (system : AccountSystem) (kind : HostPhase → Prop) (pid : Nat) : Prop :=
  ∃ host, system.hosts pid = some host ∧ host.running = true ∧ kind host.phase

/-- A stop call between its read of the PID file and its end. -/
def Stopping (system : AccountSystem) : Prop :=
  ∃ number call, system.stops number = some call ∧ call.finished = false ∧ call.phase ≠ .idle

def setHost (system : AccountSystem) (pid : Nat) (host : Host) : AccountSystem :=
  { system with hosts := Function.update system.hosts pid (some host) }

def setStop (system : AccountSystem) (number : Nat) (call : StopCall) : AccountSystem :=
  { system with stops := Function.update system.stops number (some call) }

def withFiles (system : AccountSystem) (files : AccountFiles) : AccountSystem :=
  { system with files := files }

end AccountSystem

/-- A host's own launchers answer to its supervisor, and have time to change before anything
the host does. -/
def Host.Answers (firm : Prop) (launchers : LauncherWorld) :
    (action : HostAction) → action.Answer → LauncherWorld → Prop
  | .supervise action, answer, launchers' =>
    ∃ drifted, launchers.Drifts drifted ∧ LauncherWorld.Answers firm drifted action answer launchers'
  | _, _, launchers' => launchers.Drifts launchers'

/-- Killed from outside; with its process tree where `tree` holds. -/
def Host.killed (host : Host) (tree : Bool) : Host :=
  { host with
    running := false
    launchers := if tree then
      { host.launchers with
        handles := host.launchers.handles.map fun status => if status.up then .dead else status }
    else host.launchers }

/-- When a host starts: nobody else is between reading the PID file and writing it, nobody is
leaving, and nobody is being stopped. -/
def MayStart (system : AccountSystem) (pid : Nat) : Prop :=
  (∀ other, other ≠ pid →
    ¬system.Has (fun phase => phase.Starting ∨ phase = .leaving) other) ∧ ¬system.Stopping

/-- When a host's next action is one that keeps the account in order: it starts when it may, and
a launcher that it never found alive is gone by the time it removes its PID file. -/
def Host.Orderly (system : AccountSystem) (pid : Nat) (host : Host) : HostAction → Prop
  | .readPid => host.phase = .fresh → MayStart system pid
  | .unlinkPid => host.phase = .registered → ∀ (handle : Nat) (status : ProcessStatus),
    host.launchers.handles[handle]? = some status → handle ∉ host.launchers.sighted →
      status.up = false
  | _ => True

/-- When a stop call's next action is one that keeps the account in order: it reads the PID file
while no host is starting, and kills a host without its process tree only if nothing is up
behind it. -/
def StopCall.Orderly (system : AccountSystem) (tree : Bool) (call : StopCall) :
    HostAction → Prop
  | .readPid => call.phase = .idle → ∀ pid, ¬system.Has HostPhase.Starting pid
  | .forceKill pid => tree = false → ∀ host, system.hosts pid = some host →
    host.launchers.OnlyUp none
  | _ => True

/-- Some process of the account takes one action, begins or ends. `tree` tells whether a forced
kill takes the process tree along, and `orderly` restricts the steps to those that keep the
account in order. -/
inductive AccountStep (tree : Bool) (orderly : Prop) : AccountSystem → AccountSystem → Prop where
  | drift {system : AccountSystem} {pid : Nat} {host : Host} {launchers : LauncherWorld}
      (at_ : system.hosts pid = some host) (h : host.launchers.Drifts launchers) :
      AccountStep tree orderly system (system.setHost pid { host with launchers := launchers })
  | spawn {system : AccountSystem} (pid : Nat) (free : system.hosts pid = none)
      (maxRestarts timeout interval polls ticks : Nat) :
      AccountStep tree orderly system (system.setHost pid
        { program := runWorkerHost maxRestarts timeout interval polls ticks })
  | host {system : AccountSystem} (pid : Nat) {host : Host} (action : HostAction)
      {next : action.Answer → HostProgram (Except LauncherError Nat)}
      (answer : action.Answer) {files : AccountFiles} {launchers : LauncherWorld}
      (at_ : system.hosts pid = some host) (running : host.running = true)
      (asks : host.program = .act action next)
      (answered : system.files.Answers pid system.Runs action answer files)
      (launched : Host.Answers orderly host.launchers action answer launchers)
      (order : orderly → host.Orderly system pid action) :
      AccountStep tree orderly system ((system.withFiles files).setHost pid
        { host with
          program := next answer, phase := host.phase.next action answer,
          launchers := launchers })
  | hostEnds {system : AccountSystem} {pid : Nat} {host : Host}
      {outcome : Except LauncherError Nat} (at_ : system.hosts pid = some host)
      (ends : host.program = .ret outcome) :
      AccountStep tree orderly system (system.setHost pid { host with running := false })
  | hostCrashes {system : AccountSystem} {pid : Nat} {host : Host}
      (at_ : system.hosts pid = some host) (order : orderly → host.launchers.OnlyUp none) :
      AccountStep tree orderly system (system.setHost pid { host with running := false })
  | stopBegins {system : AccountSystem} {number : Nat} (free : system.stops number = none)
      (worker : AccountWorker) (timeout interval polls : Nat) :
      AccountStep tree orderly system (system.setStop number
        { program := WorkerCaller.requestStopAndWait timeout interval polls worker })
  | stop {system : AccountSystem} {number : Nat} {call : StopCall} {action : HostAction}
      {next : action.Answer → HostProgram (Except LauncherError PersistentStatus × AccountWorker)}
      (answer : action.Answer) {files : AccountFiles}
      (at_ : system.stops number = some call) (open_ : call.finished = false)
      (asks : call.program = .act action next) (kills : ∀ pid, action ≠ .forceKill pid)
      (answered : system.files.Answers number system.Runs action answer files)
      (order : orderly → call.Orderly system tree action) :
      AccountStep tree orderly system ((system.withFiles files).setStop number
        { call with program := next answer, phase := call.phase.next action answer })
  | stopKills {system : AccountSystem} {number : Nat} {call : StopCall} {pid : Nat} {host : Host}
      {next : Unit → HostProgram (Except LauncherError PersistentStatus × AccountWorker)}
      (at_ : system.stops number = some call) (open_ : call.finished = false)
      (asks : call.program = .act (.forceKill pid) next) (victim : system.hosts pid = some host)
      (order : orderly → call.Orderly system tree (.forceKill pid)) :
      AccountStep tree orderly system ((system.setHost pid (host.killed tree)).setStop number
        { call with program := next (), phase := call.phase.next (.forceKill pid) () })
  | stopGone {system : AccountSystem} {number : Nat} {call : StopCall}
      (at_ : system.stops number = some call) :
      AccountStep tree orderly system (system.setStop number { call with finished := true })
  | startBegins {system : AccountSystem} {number : Nat} (free : system.starts number = none)
      (worker : AccountWorker) (timeout polls : Nat) :
      AccountStep tree orderly system { system with
        starts := Function.update system.starts number
          (some (WorkerCaller.startPersistentWorker timeout polls worker)) }
  | start {system : AccountSystem} {number : Nat} {action : HostAction}
      {next : action.Answer → HostProgram (Except LauncherError PersistentStatus × AccountWorker)}
      (answer : action.Answer) {files : AccountFiles}
      (asks : system.starts number = some (.act action next)) (spawns : action ≠ .spawnHost)
      (answered : system.files.Answers number system.Runs action answer files) :
      AccountStep tree orderly system { system with
        files := files, starts := Function.update system.starts number (some (next answer)) }
  | startSpawns {system : AccountSystem} {number pid : Nat}
      {next : Unit → HostProgram (Except LauncherError PersistentStatus × AccountWorker)}
      (asks : system.starts number = some (.act .spawnHost next)) (free : system.hosts pid = none)
      (maxRestarts timeout interval polls ticks : Nat) :
      AccountStep tree orderly system { system.setHost pid
          { program := runWorkerHost maxRestarts timeout interval polls ticks } with
        starts := Function.update system.starts number (some (next ())) }

/-- The end of a stop call with a status. -/
def AccountSystem.StopReturned (system : AccountSystem) (number : Nat) : Prop :=
  ∃ call status worker, system.stops number = some call ∧ call.finished = false ∧
    call.program = .ret (.ok status, worker)

/-- An account that nobody uses yet, with any files left over. -/
def idleAccount (files : AccountFiles) : AccountSystem := { files := files }

end TradeJournalWorker
