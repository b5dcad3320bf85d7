import Mathlib.Logic.Basic

namespace TradeJournalWorker

inductive OnboardingState where
  | new
  | portableDirectoryCreated
  | brokerEndpointRequired
  | brokerEndpointVerified
  | credentialsPending
  | loginValidation
  | active
  | failedClosed
  | stopped
  deriving DecidableEq, Repr

/-- The names that the state machine reports a failure under. -/
inductive FailureReason where
  | missingEndpoint
  | unreachableEndpoint
  | wrongCredentials
  | serverRejected
  | processDied
  | timeout
  | invalidConfig
  deriving DecidableEq, Repr

def FailureReason.name : FailureReason → String
  | missingEndpoint => "MISSING_ENDPOINT"
  | unreachableEndpoint => "UNREACHABLE_ENDPOINT"
  | wrongCredentials => "WRONG_CREDENTIALS"
  | serverRejected => "SERVER_REJECTED"
  | processDied => "PROCESS_DIED"
  | timeout => "TIMEOUT"
  | invalidConfig => "INVALID_CONFIG"

/-- Each failure trigger maps onto the reason of the same name. -/
inductive OnboardingTrigger where
  | createPortableDirectory
  | requireBrokerEndpoint
  | endpointVerified
  | supplyCredentials
  | beginLoginValidation
  | loginAccepted
  | stop
  | failure (reason : FailureReason)
  deriving DecidableEq, Repr

inductive OnboardingRejection where
  | terminalState
  | illegalTransition
  deriving DecidableEq, Repr

structure OnboardingResult where
  accepted : Bool
  state : OnboardingState
  failureReason : Option FailureReason
  rejectionReason : Option OnboardingRejection
  deriving DecidableEq, Repr

namespace OnboardingState

def isTerminal : OnboardingState → Bool
  | failedClosed => true
  | stopped => true
  | _ => false

def happyPath : OnboardingState → OnboardingTrigger → Option OnboardingState
  | new, .createPortableDirectory => some portableDirectoryCreated
  | portableDirectoryCreated, .requireBrokerEndpoint => some brokerEndpointRequired
  | brokerEndpointRequired, .endpointVerified => some brokerEndpointVerified
  | brokerEndpointVerified, .supplyCredentials => some credentialsPending
  | credentialsPending, .beginLoginValidation => some loginValidation
  | loginValidation, .loginAccepted => some active
  | _, _ => none

/-- Stopping and every failure are legal from each state in flight. -/
def table (state : OnboardingState) : OnboardingTrigger → Option OnboardingState
  | .stop => if state.isTerminal then none else some stopped
  | .failure _ => if state.isTerminal then none else some failedClosed
  | trigger => state.happyPath trigger

end OnboardingState

structure OnboardingStateMachine where
  currentState : OnboardingState := .new
  lastFailureReason : Option FailureReason := none
  deriving DecidableEq, Repr

namespace OnboardingStateMachine

def apply (machine : OnboardingStateMachine) (trigger : OnboardingTrigger) :
    OnboardingResult × OnboardingStateMachine :=
  if machine.currentState.isTerminal then
    (⟨false, machine.currentState, none, some .terminalState⟩, machine)
  else match machine.currentState.table trigger with
    | none => (⟨false, machine.currentState, none, some .illegalTransition⟩, machine)
    | some next =>
      match trigger with
      | .failure reason => (⟨true, next, some reason, none⟩, ⟨next, some reason⟩)
      | _ => (⟨true, next, none, none⟩, ⟨next, machine.lastFailureReason⟩)

/-- A terminal state keeps the machine as it is. -/
theorem apply_terminal {machine : OnboardingStateMachine} (trigger : OnboardingTrigger)
    (h : machine.currentState.isTerminal = true) : (machine.apply trigger).2 = machine := by
  simp [apply, h]

theorem apply_failure {machine : OnboardingStateMachine} (reason : FailureReason)
    (h : machine.currentState.isTerminal = false) :
    (machine.apply (.failure reason)).2 = ⟨.failedClosed, some reason⟩ := by
  simp [apply, OnboardingState.table, h]

theorem apply_stop {machine : OnboardingStateMachine}
    (h : machine.currentState.isTerminal = false) :
    (machine.apply .stop).2 = ⟨.stopped, machine.lastFailureReason⟩ := by
  simp [apply, OnboardingState.table, h]

end OnboardingStateMachine

end TradeJournalWorker
