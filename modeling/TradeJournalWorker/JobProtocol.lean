import TradeJournalWorker.JobRunner

namespace TradeJournalWorker

open FaultProgram

variable {ρ : Type}

namespace JobEvent

def acksTerminal : JobEvent ρ → Bool
  | acknowledged request => request.isTerminal
  | requested _ _ => false

def acksComplete : JobEvent ρ → Bool
  | acknowledged request => request.isComplete
  | requested _ _ => false

def acksFail : JobEvent ρ → Bool
  | acknowledged request => request.isFail
  | requested _ _ => false

def requestsFail : JobEvent ρ → Bool
  | requested request _ => request.isFail
  | acknowledged _ => false

/-- A terminal request made although the keeper had reported the loss. -/
def requestsLost : JobEvent ρ → Bool
  | requested request lossSeen => request.isTerminal && lossSeen
  | acknowledged _ => false

def isQuiet : JobEvent ρ → Bool
  | requested request _ => !request.isTerminal
  | acknowledged request => !request.isTerminal

end JobEvent

/-- What the control plane relies on: the exchange of one run and the local state it
leaves behind. -/
structure JobProtocol (trace : List (JobEvent ρ)) (file : Option LocalJobState) : Prop where
  oneTerminal : (trace.filter JobEvent.acksTerminal).length ≤ 1
  noFailAfterComplete :
    trace.Pairwise fun earlier later => earlier.acksComplete → ¬ later.requestsFail
  noTerminalAfterLoss : ∀ event ∈ trace, ¬ event.requestsLost
  completeAcked : ∀ state, file = some state → state.status = .complete →
    ∃ event ∈ trace, event.acksComplete
  failedAcked : ∀ state, file = some state → state.status = .failed →
    ∃ event ∈ trace, event.acksFail

/-- `_require_transition` accepts the answer. -/
def acknowledges (answer : Exit Failure TransitionResponse) (expected : String) : Bool :=
  match answer with
  | .returned (.object status errorCode) =>
    errorCode != some "lease_lost" && status == some expected
  | _ => false

def raises {α : Type} : Exit Failure α → Bool
  | .raised _ => true
  | _ => false

def writeRaises : WriteAnswer Failure → Bool
  | .failed _ => true
  | .failedLate _ => true
  | _ => false

namespace JobBehaviour

/-- A job is claimed and its running state written. -/
def TakesUp (b : JobBehaviour ρ) : Prop :=
  ∃ job, b.claim = .returned (some job) ∧ b.runningWrite = .done ∧
    ¬ ({ job, status := .running } : LocalJobState).texts.any startsSecret

def Starts (b : JobBehaviour ρ) : Prop :=
  acknowledges b.runningResponse "running" ∧ b.keeperStart = .returned ()

def lossBy (b : JobBehaviour ρ) (moment : Moment) : Bool :=
  b.lossSeen.any (fun seen => seen.index ≤ moment.index)

/-- The handler returned and the lease survived the check after it. -/
def Handled (b : JobBehaviour ρ) : Prop :=
  b.Starts ∧ (∃ result, b.handler = .returned result) ∧ ¬ b.lossBy .handling

/-- The run gets as far as the request of `complete`. -/
def ReportsResult (b : JobBehaviour ρ) : Prop :=
  b.Handled ∧ b.finalHeartbeat = .returned true

/-- The handler or the heartbeat after it raises anything but `LeaseLost`. -/
def FailsAtWork (b : JobBehaviour ρ) : Prop :=
  (b.Starts ∧ ∃ exc, b.handler = .raised (.failure exc)) ∨ (b.Handled ∧ raises b.finalHeartbeat)

/-- The server acknowledges `complete` and the local write of it raises. -/
def CompleteNotRecorded (b : JobBehaviour ρ) : Prop :=
  b.TakesUp ∧ b.ReportsResult ∧ acknowledges b.completeResponse "complete" ∧
    writeRaises b.completeWrite

/-- The keeper reports the loss between the check after the handler and `complete`. -/
def LossBeforeComplete (b : JobBehaviour ρ) : Prop :=
  b.TakesUp ∧ b.ReportsResult ∧ b.lossBy .confirming

/-- An exception stands between the loss the keeper reports and the request of `fail`. -/
def LossBeforeFail (b : JobBehaviour ρ) : Prop :=
  b.TakesUp ∧ b.FailsAtWork ∧ b.lossBy .failing

end JobBehaviour

def Quiet (trace : List (JobEvent ρ)) : Prop := ∀ event ∈ trace, event.isQuiet

section Runs

variable (b : JobBehaviour ρ) (w : JobWorld ρ)

theorem run_callApi {α : Type} (answer : JobBehaviour ρ → Exit Failure α) :
    callApi answer b w = ((answer b).mapError JobError.failure, b, w) := rfl

theorem run_atomicJson (answer : JobBehaviour ρ → WriteAnswer Failure) (state : LocalJobState)
    (hguard : ¬ state.texts.any startsSecret) :
    atomicJson answer state b w =
      (((answer b).mapError JobError.failure).exit, b,
        ((answer b).mapError JobError.failure).apply
          (fun world => { world with file := some state }) w) := by
  unfold atomicJson
  rw [if_neg hguard]
  rfl

/-- Whatever the disk answers, the file is the old one or the new state. -/
theorem run_atomicJson_file (answer : JobBehaviour ρ → WriteAnswer Failure) (state : LocalJobState) :
    ∃ exit w', atomicJson answer state b w = (exit, b, w') ∧ w'.trace = w.trace ∧
      (w'.file = w.file ∨ w'.file = some state) := by
  unfold atomicJson
  by_cases hguard : state.texts.any startsSecret
  · rw [if_pos hguard]
    exact ⟨_, _, rfl, rfl, Or.inl rfl⟩
  · refine ⟨_, _, run_atomicJson b w answer state hguard, ?_⟩
    cases answer b with
    | done => exact ⟨rfl, Or.inr rfl⟩
    | failed error => exact ⟨rfl, Or.inl rfl⟩
    | failedLate error => exact ⟨rfl, Or.inr rfl⟩
    | crash => exact ⟨rfl, Or.inl rfl⟩

theorem requireTransition_ok {status errorCode : Option String} {expected : String}
    (hlost : errorCode ≠ some "lease_lost") (hstatus : status = some expected) :
    requireTransition (.object status errorCode) expected b w = (.returned (), b, w) := by
  have hpure : requireTransition (.object status errorCode) expected =
      (pure () : JobProgram ρ Unit) := by
    unfold requireTransition
    simp only [hlost, hstatus, ne_eq, not_true_eq_false, if_false]
  rw [hpure]
  rfl

/-- An acknowledged transition returns and is on the trace with its answer. -/
theorem run_transition_acked (answer : JobBehaviour ρ → Exit Failure TransitionResponse)
    (moment : Moment) (request : TransitionRequest ρ)
    (hack : acknowledges (answer b) request.expected) :
    transition answer moment request b w = (.returned (), b, { w with
      trace := w.trace ++ [.requested request (leaseLostAt b w moment), .acknowledged request] }) := by
  unfold acknowledges at hack
  split at hack
  next status errorCode hanswer =>
    simp only [Bool.and_eq_true, bne_iff_ne, ne_eq, beq_iff_eq] at hack
    simp [transition, Program.run_bind, Program.getEnv, Program.modifyWorld, Program.tryCatch,
      callApi, Program.perform, hanswer, Exit.mapError, requireTransition_ok _ _ hack.1 hack.2]
  next => cases hack

/-- Any other answer ends in a lost lease or a crash after the request. -/
theorem run_transition_refused (answer : JobBehaviour ρ → Exit Failure TransitionResponse)
    (moment : Moment) (request : TransitionRequest ρ)
    (hack : ¬ acknowledges (answer b) request.expected) :
    ∃ exit, (exit = .crashed ∨ exit = .raised .leaseLost) ∧
      transition answer moment request b w = (exit, b, { w with
        trace := w.trace ++ [.requested request (leaseLostAt b w moment)] }) := by
  cases hanswer : answer b with
  | crashed =>
    refine ⟨.crashed, Or.inl rfl, ?_⟩
    simp [transition, Program.run_bind, Program.getEnv, Program.modifyWorld, Program.tryCatch,
      callApi, Program.perform, hanswer, Exit.mapError]
  | raised exc =>
    refine ⟨.raised .leaseLost, Or.inr rfl, ?_⟩
    simp [transition, Program.run_bind, Program.getEnv, Program.modifyWorld, Program.tryCatch,
      callApi, Program.perform, hanswer, Exit.mapError, Program.raise]
  | returned response =>
    refine ⟨.raised .leaseLost, Or.inr rfl, ?_⟩
    rw [hanswer] at hack
    have hrefused : ∀ world : JobWorld ρ,
        requireTransition response request.expected b world = (.raised .leaseLost, b, world) := by
      intro world
      unfold requireTransition
      cases response with
      | notObject => rfl
      | object status errorCode =>
        by_cases hlost : errorCode = some "lease_lost"
        · simp only [hlost, if_true]
          rfl
        · have hstatus : status ≠ some request.expected := by
            intro hs
            apply hack
            simp [acknowledges, hlost, hs]
          simp only [hlost, hstatus, ne_eq, not_false_eq_true, if_true, if_false]
          rfl
    simp [transition, Program.run_bind, Program.getEnv, Program.modifyWorld, Program.tryCatch,
      callApi, Program.perform, hanswer, Exit.mapError, hrefused]

end Runs

end TradeJournalWorker
