import Mathlib.Data.List.Lex
import TradeJournalWorker.ActionPrograms
import TradeJournalWorker.StableSorting

namespace TradeJournalWorker.BrokerWizard

open ActionPrograms StableSorting

/-- A text as its UTF-16 code units. -/
abbrev Utf16 := List UInt16

/-- `char.IsWhiteSpace`. -/
def isWhiteSpace (unit : UInt16) : Bool :=
  (9 ≤ unit.toNat && unit.toNat ≤ 13) || (0x2000 ≤ unit.toNat && unit.toNat ≤ 0x200a) ||
    [0x20, 0x85, 0xa0, 0x1680, 0x2028, 0x2029, 0x202f, 0x205f, 0x3000].contains unit.toNat

/-- `char.IsControl`. -/
def isControl (unit : UInt16) : Bool :=
  unit.toNat < 32 || (127 ≤ unit.toNat && unit.toNat < 160)

/-- `string.Trim`. -/
def trim (text : Utf16) : Utf16 :=
  ((text.dropWhile isWhiteSpace).reverse.dropWhile isWhiteSpace).reverse

def maximumLabelLength : Nat := 256

def isValidLabel (value : Utf16) : Bool :=
  !value.all isWhiteSpace && value.length ≤ maximumLabelLength &&
    value.all fun unit => !isControl unit

/-- A text that is neither null nor refused by `IsValidLabel`. -/
def validLabel (value : Option Utf16) : Option Utf16 := value.filter isValidLabel

inductive BrokerWizardState where
  | notStarted
  | waitingForTerminal
  | openingBrokerWizard
  | searchingBroker
  | selectingBroker
  | confirmingSelection
  | readingCensusedServers
  | completed
  | failedClosed
  deriving DecidableEq, Repr

inductive BrokerWizardFailureReason where
  | none
  | invalidRequest
  | brokerNotFound
  | serverNotFound
  | ambiguousBroker
  | noCensusedServers
  | timeout
  | cancelled
  | driverFailure
  | verificationFailure
  deriving DecidableEq, Repr

/-- The time of a step is in ticks of 100 ns. -/
structure BrokerWizardRequest where
  searchText : Option Utf16
  suggestedBrokerLabel : Option Utf16
  expectedServerName : Option Utf16
  stepTimeout : Int

def minimumStepTimeout : Int := 100000

def maximumStepTimeout : Int := 3000000000

/-- A candidate as the driver gives it, with nulls where the driver leaves them. -/
structure ReportedCandidate where
  stableId : Option Utf16
  brokerLabel : Option Utf16
  serverNames : Option (List (Option Utf16))
  deriving DecidableEq

structure BrokerWizardCandidate where
  stableId : Utf16
  brokerLabel : Utf16
  serverNames : List Utf16
  deriving DecidableEq

structure BrokerWizardTransition where
  fromState : BrokerWizardState
  toState : BrokerWizardState
  deriving DecidableEq, Repr

structure BrokerWizardOutcome where
  succeeded : Bool
  finalState : BrokerWizardState
  failureReason : BrokerWizardFailureReason
  selectedBrokerLabel : Option Utf16
  censusedServerNames : List Utf16
  transitions : List BrokerWizardTransition

def BrokerWizardOutcome.success (selectedBrokerLabel : Utf16) (censusedServerNames : List Utf16)
    (transitions : List BrokerWizardTransition) : BrokerWizardOutcome :=
  ⟨true, .completed, .none, some selectedBrokerLabel, censusedServerNames, transitions⟩

def BrokerWizardOutcome.failure (reason : BrokerWizardFailureReason)
    (transitions : List BrokerWizardTransition) : BrokerWizardOutcome :=
  ⟨false, .failedClosed, reason, none, [], transitions⟩

/-- The valid parts of a candidate; null and everything invalid is `none`. -/
def checkedCandidate (reported : Option ReportedCandidate) : Option BrokerWizardCandidate := do
  let candidate ← reported
  let stableId ← validLabel candidate.stableId
  let brokerLabel ← validLabel candidate.brokerLabel
  let names ← candidate.serverNames
  let serverNames ← names.mapM validLabel
  return ⟨stableId, brokerLabel, serverNames⟩

section Names

-- `fold` is what `StringComparer.OrdinalIgnoreCase` compares of a text.
variable (fold : Utf16 → List Nat)

def BrokerWizardCandidate.lists (server : Utf16) (candidate : BrokerWizardCandidate) : Bool :=
  candidate.serverNames.any fun name => fold (trim name) = fold server

def selectUniqueServerCandidate (reported : Option (List (Option ReportedCandidate)))
    (expectedServerName : Utf16) : Except BrokerWizardFailureReason BrokerWizardCandidate :=
  match reported with
  | none => .error .verificationFailure
  | some reported =>
    match reported.mapM checkedCandidate with
    | none => .error .ambiguousBroker
    | some [] => .error .brokerNotFound
    | some candidates =>
      match candidates.filter (·.lists fold (trim expectedServerName)) with
      | [] => .error .serverNotFound
      | [exact] => .ok exact
      | _ => .error .ambiguousBroker

/-- `Distinct` keeps the first of the names that compare as equal. -/
def distinctNames (names : List Utf16) : List Utf16 :=
  names.foldl (fun seen name =>
    if seen.any fun other => fold other = fold name then seen else seen ++ [name]) []

/-- `NormalizeServerNames` of a list that is not null. -/
def normalizeServerNames (reported : List (Option Utf16)) : Option (List Utf16) :=
  (reported.mapM validLabel).map fun names => stableSort fold (distinctNames fold (names.map trim))

end Names

/-- The calls of `IMt5BrokerWizardDriver`. -/
inductive DriverCall where
  | waitForTerminal
  | openFindBroker
  | searchBroker (text : Utf16)
  | readBrokerCandidates
  | selectBroker (candidate : BrokerWizardCandidate)
  | confirmBrokerSelection
  | readCensusedServerNames
  | abort
  deriving DecidableEq

def DriverResult : DriverCall → Type
  | .readBrokerCandidates => Option (List (Option ReportedCandidate))
  | .readCensusedServerNames => Option (List (Option Utf16))
  | _ => Unit

/-- An `OperationCanceledException`, with the caller's token as it then is, or another one. -/
inductive DriverException where
  | cancelled (byCaller : Bool)
  | other
  deriving DecidableEq, Repr

/-- What leaves `RunAsync` when it does not return. -/
inductive RunException where
  | argumentNull
  | invalidOperation
  | driver (exception : DriverException)
  deriving DecidableEq, Repr

abbrev DriverAnswer (call : DriverCall) := Except DriverException (DriverResult call)

structure BrokerWizardOrchestrator where
  state : BrokerWizardState := .notStarted
  transitions : List BrokerWizardTransition := []
  deriving DecidableEq

/-- A method of the orchestrator; the driver answers its calls, or a call never ends. -/
abbrev Wizard := Method DriverCall DriverAnswer BrokerWizardOrchestrator RunException

def moveTo (next : BrokerWizardState) : Wizard Unit :=
  Method.modifyFields fun orchestrator =>
    ⟨next, orchestrator.transitions ++ [⟨orchestrator.state, next⟩]⟩

def raised {α : Type} : Except DriverException α → Wizard α
  | .ok value => Method.ret value
  | .error exception => Method.raise (.driver exception)

def executeStep (call : DriverCall) : Wizard (DriverResult call) := do
  let answer ← Method.perform call
  raised answer

/-- An exception of `AbortAsync` changes nothing. -/
def failAndAbort (reason : BrokerWizardFailureReason) : Wizard BrokerWizardOutcome := do
  moveTo .failedClosed
  let _ ← Method.perform .abort
  let orchestrator ← Method.readFields
  return .failure reason orchestrator.transitions

def failWithoutDriver (reason : BrokerWizardFailureReason) : Wizard BrokerWizardOutcome := do
  moveTo .failedClosed
  let orchestrator ← Method.readFields
  return .failure reason orchestrator.transitions

section Run

variable (fold : Utf16 → List Nat)

/-- What the list of a census leads to; a null list throws where its entries are counted. -/
def judgeCensus (expectedServerName brokerLabel : Utf16) (reported : Option (List (Option Utf16))) :
    Wizard BrokerWizardOutcome :=
  match reported with
  | none => Method.raise (.driver .other)
  | some [] => failAndAbort .noCensusedServers
  | some reported =>
    match normalizeServerNames fold reported with
    | none => failAndAbort .verificationFailure
    | some names =>
      if names.any fun name => fold name = fold (trim expectedServerName) then do
        moveTo .completed
        let orchestrator ← Method.readFields
        return .success (trim brokerLabel) names orchestrator.transitions
      else failAndAbort .verificationFailure

/-- The steps once a candidate is selected. -/
def confirmCandidate (expectedServerName : Utf16) (selected : BrokerWizardCandidate) :
    Wizard BrokerWizardOutcome := do
  moveTo .selectingBroker
  let _ ← executeStep (.selectBroker selected)
  moveTo .confirmingSelection
  let _ ← executeStep .confirmBrokerSelection
  moveTo .readingCensusedServers
  let reported ← executeStep .readCensusedServerNames
  judgeCensus fold expectedServerName selected.brokerLabel reported

def chooseCandidate (expectedServerName : Utf16)
    (reported : Option (List (Option ReportedCandidate))) : Wizard BrokerWizardOutcome :=
  match selectUniqueServerCandidate fold reported expectedServerName with
  | .error reason => failAndAbort reason
  | .ok selected => confirmCandidate fold expectedServerName selected

/-- The body of the `try`. -/
def runSteps (searchText expectedServerName : Utf16) : Wizard BrokerWizardOutcome := do
  moveTo .waitingForTerminal
  let _ ← executeStep .waitForTerminal
  moveTo .openingBrokerWizard
  let _ ← executeStep .openFindBroker
  moveTo .searchingBroker
  let _ ← executeStep (.searchBroker (trim searchText))
  let reported ← executeStep .readBrokerCandidates
  chooseCandidate fold expectedServerName reported

def reasonOf : RunException → BrokerWizardFailureReason
  | .driver (.cancelled true) => .cancelled
  | .driver (.cancelled false) => .timeout
  | _ => .driverFailure

/-- The search text and the server name of a request that is accepted. -/
def acceptedRequest (request : BrokerWizardRequest) : Option (Utf16 × Utf16) := do
  let searchText ← validLabel request.searchText
  let expectedServerName ← validLabel request.expectedServerName
  if (request.suggestedBrokerLabel.all isValidLabel && minimumStepTimeout ≤ request.stepTimeout &&
      request.stepTimeout ≤ maximumStepTimeout) = true then
    return (searchText, expectedServerName)
  else none

/-- A run of an orchestrator that has not run yet. -/
def startRun (request : BrokerWizardRequest) : Wizard BrokerWizardOutcome :=
  match acceptedRequest request with
  | none => failWithoutDriver .invalidRequest
  | some (searchText, expectedServerName) =>
    (runSteps fold searchText expectedServerName).tryExcept fun exception =>
      failAndAbort (reasonOf exception)

/-- `RunAsync`; a null request is `none`. -/
def runAsync (request : Option BrokerWizardRequest) : Wizard BrokerWizardOutcome :=
  match request with
  | none => Method.raise .argumentNull
  | some request => do
    let orchestrator ← Method.readFields
    if orchestrator.state ≠ .notStarted then Method.raise .invalidOperation
    else startRun fold request

end Run

end TradeJournalWorker.BrokerWizard
