import Mathlib.Data.List.Basic

namespace TradeJournalWorker

/-- Lifecycle of one `C012_SINGLE_PROCESS_SESSION`. -/
inductive C012State where
  | notStarted
  | c0JobCreating
  | c0RootLaunching
  | c0Retained
  | c1DiscoveryRunning
  | c1Retained
  | c2Submitting
  | c2LoginWindow
  | c2Teardown
  | terminated
  | failedClosed
  deriving DecidableEq, Repr

inductive C012Trigger where
  | beginC0
  | c0JobCreated
  | c0RootLaunched
  | beginC1
  | c1DiscoveryComplete
  | beginC2
  | c2SubmitterAssigned
  | c2LoginWindowComplete
  | c2TeardownComplete
  | timeout
  | rootProcessDied
  | operationFailed
  deriving DecidableEq, Repr

inductive C012RejectionReason where
  | none
  | illegalTransition
  | terminalState
  | sessionMismatch
  | sequenceOutOfOrder
  | invalidRequest
  | operationFailed
  | rootProcessDied
  deriving DecidableEq, Repr

structure C012Transition where
  source : C012State
  trigger : C012Trigger
  target : C012State
  deriving DecidableEq, Repr

structure C012TransitionResult where
  accepted : Bool
  resultingState : C012State
  reason : C012RejectionReason
  deriving DecidableEq, Repr

def C012TransitionResult.accept (resultingState : C012State) : C012TransitionResult :=
  ⟨true, resultingState, .none⟩

def C012TransitionResult.reject (currentState : C012State) (reason : C012RejectionReason) :
    C012TransitionResult :=
  ⟨false, currentState, reason⟩

inductive C012Control where
  | c0
  | c1
  | c2
  deriving DecidableEq, Repr

inductive C012RequestType where
  | start
  | query
  | submitConfig
  deriving DecidableEq, Repr

abbrev Guid := BitVec 128

structure C012RequestEnvelope where
  sessionId : Guid
  sequenceNumber : Int
  control : C012Control
  requestType : C012RequestType
  deriving DecidableEq, Repr

namespace C012StateMachine

def happyPath : List C012Transition :=
  [⟨.notStarted, .beginC0, .c0JobCreating⟩,
    ⟨.c0JobCreating, .c0JobCreated, .c0RootLaunching⟩,
    ⟨.c0RootLaunching, .c0RootLaunched, .c0Retained⟩,
    ⟨.c0Retained, .beginC1, .c1DiscoveryRunning⟩,
    ⟨.c1DiscoveryRunning, .c1DiscoveryComplete, .c1Retained⟩,
    ⟨.c1Retained, .beginC2, .c2Submitting⟩,
    ⟨.c2Submitting, .c2SubmitterAssigned, .c2LoginWindow⟩,
    ⟨.c2LoginWindow, .c2LoginWindowComplete, .c2Teardown⟩,
    ⟨.c2Teardown, .c2TeardownComplete, .terminated⟩]

def terminalStates : List C012State := [.terminated, .failedClosed]

def allStates : List C012State :=
  [.notStarted, .c0JobCreating, .c0RootLaunching, .c0Retained, .c1DiscoveryRunning, .c1Retained,
    .c2Submitting, .c2LoginWindow, .c2Teardown, .terminated, .failedClosed]

/-- `BuildAllTransitions`: the happy path and the fail-closed edges of every other state. -/
def allTransitions : List C012Transition :=
  happyPath ++ (allStates.filter (fun state => state ∉ terminalStates)).flatMap fun state =>
    [⟨state, .timeout, .failedClosed⟩, ⟨state, .rootProcessDied, .failedClosed⟩,
      ⟨state, .operationFailed, .failedClosed⟩]

def table (source : C012State) (trigger : C012Trigger) : Option C012State :=
  (allTransitions.find? fun t => t.source = source ∧ t.trigger = trigger).map (·.target)

/-- `Apply`: the answer and the state afterwards. -/
def apply (currentState : C012State) (trigger : C012Trigger) : C012TransitionResult × C012State :=
  if currentState ∈ terminalStates then (.reject currentState .terminalState, currentState)
  else
    match table currentState trigger with
    | none => (.reject currentState .illegalTransition, currentState)
    | some next => (.accept next, next)

end C012StateMachine

/-- The trigger stands for a failure that ends the session from every state. -/
def C012Trigger.isFailure : C012Trigger → Bool
  | .timeout => true
  | .rootProcessDied => true
  | .operationFailed => true
  | _ => false

/-- `trigger is BeginC0 or BeginC1 or BeginC2`. -/
def C012Trigger.isClientOriginated : C012Trigger → Bool
  | .beginC0 => true
  | .beginC1 => true
  | .beginC2 => true
  | _ => false

def C012State.IsTerminal (state : C012State) : Prop := state ∈ C012StateMachine.terminalStates

instance (state : C012State) : Decidable state.IsTerminal :=
  inferInstanceAs (Decidable (state ∈ C012StateMachine.terminalStates))

theorem C012StateMachine.apply_failure {state : C012State} {trigger : C012Trigger}
    (hfailure : trigger.isFailure = true) (hstate : ¬ state.IsTerminal) :
    apply state trigger = (.accept .failedClosed, .failedClosed) := by
  revert hfailure hstate
  cases trigger <;> cases state <;> decide

theorem C012StateMachine.apply_terminal {state : C012State} (hstate : state.IsTerminal)
    (trigger : C012Trigger) : apply state trigger = (.reject state .terminalState, state) := by
  exact if_pos hstate

theorem C012StateMachine.apply_cases (state : C012State) (trigger : C012Trigger) :
    (∃ reason, apply state trigger = (.reject state reason, state)) ∨
      ∃ next, table state trigger = some next ∧ ¬ state.IsTerminal ∧
        apply state trigger = (.accept next, next) := by
  unfold apply
  split
  next h => exact .inl ⟨.terminalState, rfl⟩
  next h =>
    split
    next => exact .inl ⟨.illegalTransition, rfl⟩
    next next hnext => exact .inr ⟨next, hnext, h, rfl⟩

/-- The clients' triggers each start one command from one state. -/
theorem C012StateMachine.table_client {state next : C012State} {trigger : C012Trigger}
    (h : table state trigger = some next) (hclient : trigger.isClientOriginated = true) :
    (trigger = .beginC0 ∧ state = .notStarted ∧ next = .c0JobCreating) ∨
      (trigger = .beginC1 ∧ state = .c0Retained ∧ next = .c1DiscoveryRunning) ∨
      (trigger = .beginC2 ∧ state = .c1Retained ∧ next = .c2Submitting) := by
  revert h hclient
  revert next
  cases trigger <;> cases state <;> decide

/-- `C012RequestSequencer`: one session id, its machine and the accepted sequence. -/
structure C012RequestSequencer where
  sessionId : Guid
  currentState : C012State := .notStarted
  lastAcceptedSequence : Int := 0
  deriving DecidableEq, Repr

namespace C012RequestSequencer

def mapToTrigger (request : C012RequestEnvelope) : Option C012Trigger :=
  match request.control, request.requestType with
  | .c0, .start => some .beginC0
  | .c1, .query => some .beginC1
  | .c2, .submitConfig => some .beginC2
  | _, _ => none

def apply (sequencer : C012RequestSequencer) (request : C012RequestEnvelope) :
    C012TransitionResult × C012RequestSequencer :=
  if request.sessionId ≠ sequencer.sessionId then
    (.reject sequencer.currentState .sessionMismatch, sequencer)
  else if request.sequenceNumber ≠ sequencer.lastAcceptedSequence + 1 then
    (.reject sequencer.currentState .sequenceOutOfOrder, sequencer)
  else
    match mapToTrigger request with
    | none => (.reject sequencer.currentState .invalidRequest, sequencer)
    | some trigger =>
      let (result, state) := C012StateMachine.apply sequencer.currentState trigger
      if result.accepted then
        (result, { sequencer with
          currentState := state, lastAcceptedSequence := request.sequenceNumber })
      else (result, { sequencer with currentState := state })

theorem mapToTrigger_client {request : C012RequestEnvelope} {trigger : C012Trigger}
    (h : mapToTrigger request = some trigger) : trigger.isClientOriginated = true := by
  unfold mapToTrigger at h
  split at h <;> cases h <;> rfl

/-- A rejected request changes nothing; an accepted one advances sequence and state. -/
theorem apply_cases (sequencer : C012RequestSequencer) (request : C012RequestEnvelope) :
    (∃ reason, sequencer.apply request = (.reject sequencer.currentState reason, sequencer)) ∨
      ∃ trigger next, request.sessionId = sequencer.sessionId ∧
        request.sequenceNumber = sequencer.lastAcceptedSequence + 1 ∧
        mapToTrigger request = some trigger ∧
        C012StateMachine.table sequencer.currentState trigger = some next ∧
        ¬ sequencer.currentState.IsTerminal ∧
        sequencer.apply request = (.accept next, { sequencer with
          currentState := next, lastAcceptedSequence := request.sequenceNumber }) := by
  by_cases hsession : request.sessionId = sequencer.sessionId
  · by_cases hsequence : request.sequenceNumber = sequencer.lastAcceptedSequence + 1
    · cases htrigger : mapToTrigger request with
      | none =>
        refine .inl ⟨.invalidRequest, ?_⟩
        simp [apply, hsession, hsequence, htrigger]
      | some trigger =>
        obtain ⟨reason, hrejected⟩ | ⟨next, htable, hterminal, haccepted⟩ :=
          C012StateMachine.apply_cases sequencer.currentState trigger
        · refine .inl ⟨reason, ?_⟩
          simp [apply, hsession, hsequence, htrigger, hrejected, C012TransitionResult.reject]
        · refine .inr ⟨trigger, next, hsession, hsequence, rfl, htable, hterminal, ?_⟩
          simp [apply, hsession, hsequence, htrigger, haccepted, C012TransitionResult.accept]
    · refine .inl ⟨.sequenceOutOfOrder, ?_⟩
      simp [apply, hsession, hsequence]
  · refine .inl ⟨.sessionMismatch, ?_⟩
    simp [apply, hsession]

/-- `ApplyInternal` for a trigger that is not client-originated. -/
def applyInternal (sequencer : C012RequestSequencer) (trigger : C012Trigger) :
    C012TransitionResult × C012RequestSequencer :=
  ((C012StateMachine.apply sequencer.currentState trigger).1,
    { sequencer with currentState := (C012StateMachine.apply sequencer.currentState trigger).2 })

end C012RequestSequencer

end TradeJournalWorker
