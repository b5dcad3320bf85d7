import Mathlib.Data.List.Basic
import Mathlib.Data.List.Forall2
import TradeJournalWorker.WorkerSupervisor

namespace TradeJournalWorker

open ActionPrograms

/-- The process behind a handle. A `pending` one exists without being reported alive yet. -/
inductive ProcessStatus where
  | absent
  | pending
  | alive
  | dead
  deriving DecidableEq, Repr

def ProcessStatus.up : ProcessStatus → Bool
  | pending => true
  | alive => true
  | _ => false

/-- What becomes of a process that nobody touches. -/
inductive ProcessStatus.Drifts : ProcessStatus → ProcessStatus → Prop where
  | stays (status : ProcessStatus) : Drifts status status
  | comesUp : Drifts .pending .alive
  | dies {status : ProcessStatus} (h : status.up = true) : Drifts status .dead

theorem ProcessStatus.Drifts.up {status status' : ProcessStatus} (h : status.Drifts status')
    (hup : status'.up = true) : status.up = true := by
  cases h with
  | stays => exact hup
  | comesUp => rfl
  | dies => cases hup

theorem ProcessStatus.Drifts.alive {status status' : ProcessStatus} (h : status.Drifts status')
    (halive : status = .alive) (hup : status'.up = true) : status' = .alive := by
  cases h with
  | stays => exact halive
  | comesUp => cases halive
  | dies => cases hup

/-- The processes of all handles ever made, and the handles that `is_alive` was true of. -/
structure LauncherWorld where
  handles : List ProcessStatus := []
  sighted : List Nat := []
  deriving DecidableEq, Repr

namespace LauncherWorld

def Drifts (world world' : LauncherWorld) : Prop :=
  List.Forall₂ ProcessStatus.Drifts world.handles world'.handles ∧
    world'.sighted = world.sighted

/-- The launcher is free in what it does; a `firm` one takes a process down when told to. -/
def Answers (firm : Prop) (world : LauncherWorld) :
    (action : SupervisorAction) → action.Answer → LauncherWorld → Prop
  | .createHandle, handle, world' =>
    handle = world.handles.length ∧ world' = { world with handles := world.handles ++ [.absent] }
  | .startHandle handle, _, world' =>
    ∃ status, world' = { world with handles := world.handles.set handle status }
  | .isAlive handle, alive, world' =>
    alive = decide (world.handles[handle]? = some ProcessStatus.alive) ∧
      world' = if alive then { world with sighted := handle :: world.sighted } else world
  | .terminate handle, _, world' =>
    world' = world ∧ (firm → ∀ status, world.handles[handle]? = some status → status.up = false)
  | _, _, world' => world' = world

def AtMostOneAlive (world : LauncherWorld) : Prop :=
  ∀ i j : Nat, world.handles[i]? = some ProcessStatus.alive →
    world.handles[j]? = some ProcessStatus.alive → i = j

/-- Processes may die or come up before each action. -/
def watcher (firm : Prop) : Watcher SupervisorAction SupervisorAction.Answer LauncherWorld where
  allowed world _ := world.AtMostOneAlive
  step world action answer world' := ∃ drifted, world.Drifts drifted ∧
    Answers firm drifted action answer world'

/-- No process is up but that of the handle. -/
def OnlyUp (handle : Option Nat) (world : LauncherWorld) : Prop :=
  ∀ i status, world.handles[i]? = some status → status.up = true → handle = some i

/-- Besides, the handle's process is not just coming up. -/
def Tidy (handle : Option Nat) (world : LauncherWorld) : Prop :=
  ∀ i status, world.handles[i]? = some status → status.up = true →
    handle = some i ∧ status = .alive

/-- The handles of a world that has made `count` of them. -/
def Numbered (count : Nat) (world : LauncherWorld) : Prop :=
  world.handles.length = count ∧ ∀ handle ∈ world.sighted, handle < count

theorem drifts_refl (world : LauncherWorld) : world.Drifts world :=
  ⟨List.forall₂_same.mpr fun status _ => .stays status, rfl⟩

theorem Drifts.before {world world' : LauncherWorld} (h : world.Drifts world') {i : Nat}
    {status' : ProcessStatus} (hi : world'.handles[i]? = some status') :
    ∃ status, world.handles[i]? = some status ∧ status.Drifts status' := by
  have hlen := h.1.length_eq
  obtain ⟨hlt, heq⟩ := List.getElem?_eq_some_iff.mp hi
  have hlt' : i < world.handles.length := by omega
  have hget := (List.forall₂_iff_get.mp h.1).2 i hlt' hlt
  refine ⟨world.handles[i], by simp [hlt'], ?_⟩
  rw [← heq]
  exact hget

theorem OnlyUp.drift {handle : Option Nat} {world world' : LauncherWorld}
    (h : world.OnlyUp handle) (drift : world.Drifts world') : world'.OnlyUp handle := by
  intro i status' hi hup
  obtain ⟨status, hget, hdrift⟩ := drift.before hi
  exact h i status hget (hdrift.up hup)

theorem Tidy.drift {handle : Option Nat} {world world' : LauncherWorld}
    (h : world.Tidy handle) (drift : world.Drifts world') : world'.Tidy handle := by
  intro i status' hi hup
  obtain ⟨status, hget, hdrift⟩ := drift.before hi
  obtain ⟨hhandle, halive⟩ := h i status hget (hdrift.up hup)
  exact ⟨hhandle, hdrift.alive halive hup⟩

theorem Numbered.drift {count : Nat} {world world' : LauncherWorld}
    (h : world.Numbered count) (drift : world.Drifts world') : world'.Numbered count := by
  refine ⟨by rw [← drift.1.length_eq]; exact h.1, ?_⟩
  rw [drift.2]
  exact h.2

theorem Tidy.onlyUp {handle : Option Nat} {world : LauncherWorld} (h : world.Tidy handle) :
    world.OnlyUp handle := fun i status hi hup => (h i status hi hup).1

theorem Tidy.of_none {handle : Option Nat} {world : LauncherWorld} (h : world.OnlyUp none) :
    world.Tidy handle := by
  intro i status hi hup
  cases h i status hi hup

theorem OnlyUp.of_none {handle : Option Nat} {world : LauncherWorld} (h : world.OnlyUp none) :
    world.OnlyUp handle := (Tidy.of_none h).onlyUp

theorem OnlyUp.atMostOneAlive {handle : Option Nat} {world : LauncherWorld}
    (h : world.OnlyUp handle) : world.AtMostOneAlive := by
  intro i j hi hj
  have hi' := h i ProcessStatus.alive hi rfl
  have hj' := h j ProcessStatus.alive hj rfl
  exact Option.some.inj (hi'.symm.trans hj')

/-- A handle that is found not alive has nothing up behind it. -/
theorem Tidy.not_alive {handle : Nat} {world : LauncherWorld} (h : world.Tidy (some handle))
    (halive : world.handles[handle]? ≠ some ProcessStatus.alive) : world.OnlyUp none := by
  intro i status hi hup
  obtain ⟨hhandle, hstatus⟩ := h i status hi hup
  cases Option.some.inj hhandle
  rw [hstatus] at hi
  exact absurd hi halive

/-- The newest handle, number `handle`, has not been found alive. -/
def Launching (handle : Nat) (world : LauncherWorld) : Prop :=
  world.Numbered (handle + 1) ∧ world.OnlyUp (some handle) ∧ handle ∉ world.sighted

def Launched (handle : Nat) (world : LauncherWorld) : Prop :=
  world.Numbered (handle + 1) ∧ world.Tidy (some handle) ∧ handle ∈ world.sighted

/-- The drift keeps it, and it leaves at most one process alive. -/
structure Steady (P : LauncherWorld → Prop) : Prop where
  drift : ∀ world world', P world → world.Drifts world' → P world'
  one : ∀ world, P world → world.AtMostOneAlive

theorem steady_tidy (count : Nat) (handle : Option Nat) :
    Steady fun world => world.Numbered count ∧ world.Tidy handle where
  drift _ _ h hdrift := ⟨h.1.drift hdrift, h.2.drift hdrift⟩
  one _ h := h.2.onlyUp.atMostOneAlive

theorem steady_idle (count : Nat) (handle : Option Nat) (idle : Prop) :
    Steady fun world => world.Numbered count ∧ world.Tidy handle ∧ (idle → world.OnlyUp none) where
  drift _ _ h hdrift :=
    ⟨h.1.drift hdrift, h.2.1.drift hdrift, fun hidle => (h.2.2 hidle).drift hdrift⟩
  one _ h := h.2.1.onlyUp.atMostOneAlive

theorem steady_onlyUp (count : Nat) (handle : Option Nat) :
    Steady fun world => world.Numbered count ∧ world.OnlyUp handle where
  drift _ _ h hdrift := ⟨h.1.drift hdrift, h.2.drift hdrift⟩
  one _ h := h.2.atMostOneAlive

theorem steady_launching (handle : Nat) : Steady (Launching handle) where
  drift _ _ h hdrift := ⟨h.1.drift hdrift, h.2.1.drift hdrift, by rw [hdrift.2]; exact h.2.2⟩
  one _ h := h.2.1.atMostOneAlive

theorem steady_launched (handle : Nat) : Steady (Launched handle) where
  drift _ _ h hdrift := ⟨h.1.drift hdrift, h.2.1.drift hdrift, by rw [hdrift.2]; exact h.2.2⟩
  one _ h := h.2.1.onlyUp.atMostOneAlive

theorem launching_created {count : Nat} {world : LauncherWorld} (hnum : world.Numbered count)
    (hup : world.OnlyUp none) :
    Launching count { world with handles := world.handles ++ [.absent] } := by
  refine ⟨⟨by simp [hnum.1], fun handle h => Nat.lt_succ_of_lt (hnum.2 handle h)⟩, ?_,
    fun h => Nat.lt_irrefl _ (hnum.2 _ h)⟩
  intro i status hi hstatus
  rcases Nat.lt_or_ge i world.handles.length with hlt | hge
  · rw [List.getElem?_append_left hlt] at hi
    cases hup i status hi hstatus
  · rw [List.getElem?_append_right hge, List.getElem?_singleton] at hi
    split at hi
    · cases hi
      cases hstatus
    · cases hi

theorem Launching.started {handle : Nat} {world : LauncherWorld} (h : world.Launching handle)
    (status : ProcessStatus) :
    Launching handle { world with handles := world.handles.set handle status } := by
  refine ⟨⟨by simp [h.1.1], h.1.2⟩, ?_, h.2.2⟩
  intro i found hi hup
  rw [List.getElem?_set] at hi
  split at hi
  next heq => rw [heq]
  next => exact h.2.1 i found hi hup

theorem Launching.sight {handle : Nat} {world : LauncherWorld} (h : world.Launching handle)
    (halive : world.handles[handle]? = some ProcessStatus.alive) :
    Launched handle { world with sighted := handle :: world.sighted } := by
  refine ⟨⟨h.1.1, ?_⟩, ?_, List.mem_cons_self⟩
  · intro other hmem
    rcases List.mem_cons.mp hmem with rfl | hmem
    · exact Nat.lt_succ_self _
    · exact h.1.2 other hmem
  · intro i status hi hup
    have hhandle := h.2.1 i status hi hup
    cases Option.some.inj hhandle
    exact ⟨rfl, Option.some.inj (hi.symm.trans halive)⟩

theorem Tidy.sight {handle count : Nat} {world : LauncherWorld} (hnum : world.Numbered count)
    (h : world.Tidy (some handle)) (halive : world.handles[handle]? = some ProcessStatus.alive) :
    Numbered count { world with sighted := handle :: world.sighted } ∧
      Tidy (some handle) { world with sighted := handle :: world.sighted } := by
  refine ⟨⟨hnum.1, ?_⟩, h⟩
  intro other hmem
  rcases List.mem_cons.mp hmem with rfl | hmem
  · have hlt := (List.getElem?_eq_some_iff.mp halive).1
    rw [← hnum.1]
    exact hlt
  · exact hnum.2 other hmem

end LauncherWorld

end TradeJournalWorker
