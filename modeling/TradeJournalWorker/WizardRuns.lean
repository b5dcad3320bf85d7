import TradeJournalWorker.BrokerWizard

namespace TradeJournalWorker.BrokerWizard

open ActionPrograms StableSorting

/-- One answered call. -/
abbrev DriverEvent := (call : DriverCall) × DriverAnswer call

/-- Everything may be asked; the log keeps each call with its answer. -/
def driverLog : Watcher DriverCall DriverAnswer (List DriverEvent) where
  allowed := fun _ _ => True
  step := fun log call answer after => after = log ++ [⟨call, answer⟩]

def abortCalls (log : List DriverEvent) : Nat := log.countP fun event => event.1 = .abort

/-- Each transition starts where the one before it ended. -/
def Chained : BrokerWizardState → List BrokerWizardTransition → BrokerWizardState → Prop
  | start, [], last => start = last
  | start, transition :: rest, last =>
    transition.fromState = start ∧ Chained transition.toState rest last

theorem chained_concat {start middle : BrokerWizardState}
    {transitions : List BrokerWizardTransition} (h : Chained start transitions middle)
    (last : BrokerWizardState) : Chained start (transitions ++ [⟨middle, last⟩]) last := by
  induction transitions generalizing start with
  | nil => exact ⟨h.symm, rfl⟩
  | cons transition rest ih => exact ⟨h.1, ih h.2⟩

/-- Nothing is aborted yet, and the given answers are in the log. -/
structure Underway (facts : List DriverEvent) (orchestrator : BrokerWizardOrchestrator)
    (log : List DriverEvent) : Prop where
  chained : Chained .notStarted orchestrator.transitions orchestrator.state
  unaborted : abortCalls log = 0
  answered : ∀ event ∈ facts, event ∈ log

/-- A returned outcome tells the orchestrator's own transitions and state. -/
structure Reported (outcome : BrokerWizardOutcome) (orchestrator : BrokerWizardOrchestrator) :
    Prop where
  chained : Chained .notStarted outcome.transitions outcome.finalState
  same : outcome.transitions = orchestrator.transitions
  final : outcome.finalState = orchestrator.state

/-- What a failure leaves behind. -/
structure FailedClosed (outcome : BrokerWizardOutcome) (orchestrator : BrokerWizardOrchestrator) :
    Prop extends Reported outcome orchestrator where
  failed : outcome.succeeded = false
  closed : outcome.finalState = .failedClosed

section Rules

variable {facts : List DriverEvent}

theorem ensures_moveTo (next : BrokerWizardState) :
    Ensures driverLog (Underway facts) (moveTo next)
      fun left orchestrator log => left = .ok () ∧ orchestrator.state = next ∧
        Underway facts orchestrator log := by
  refine ensures_modify _ fun orchestrator log h => ⟨rfl, rfl, ?_⟩
  exact ⟨chained_concat h.chained next, h.unaborted, h.answered⟩

/-- A step of the driver leaves its answer in the log and moves nothing. -/
theorem ensures_executeStep {call : DriverCall} (hcall : call ≠ .abort) :
    Ensures driverLog (Underway facts) (executeStep call) fun left orchestrator log =>
      match left with
      | .ok value => Underway (⟨call, .ok value⟩ :: facts) orchestrator log
      | .error _ => Underway facts orchestrator log := by
  refine ensures_ask (fun answer => Underway (⟨call, answer⟩ :: facts)) (fun _ _ _ => trivial)
    ?_ fun answer => ?_
  · rintro orchestrator log answer after h rfl
    have hcount : abortCalls (log ++ [⟨call, answer⟩]) = 0 := by
      have hbefore := h.unaborted
      unfold abortCalls at hbefore ⊢
      simp [hbefore, hcall]
    refine ⟨h.chained, hcount, fun event hmem => ?_⟩
    rcases List.mem_cons.mp hmem with rfl | hmem
    · simp
    · exact List.mem_append_left _ (h.answered event hmem)
  · intro orchestrator log h
    cases answer with
    | ok value => exact h
    | error exception => exact ⟨h.chained, h.unaborted, fun event hmem =>
        h.answered event (List.mem_cons_of_mem _ hmem)⟩

theorem ensures_failAndAbort (reason : BrokerWizardFailureReason) :
    Ensures driverLog (Underway facts) (failAndAbort reason) fun left orchestrator log =>
      ∃ outcome, left = .ok outcome ∧ FailedClosed outcome orchestrator ∧ abortCalls log = 1 := by
  refine ensures_bind _ (ensures_moveTo .failedClosed) (fun value => ?_) fun error _ _ h => ?_
  · refine ensures_ask (fun _ orchestrator log => orchestrator.state = .failedClosed ∧
      Chained .notStarted orchestrator.transitions orchestrator.state ∧ abortCalls log = 1)
      (fun _ _ _ => trivial) ?_ fun answer => ?_
    · rintro orchestrator log answer after ⟨-, hstate, h⟩ rfl
      have hbefore := h.unaborted
      refine ⟨hstate, h.chained, ?_⟩
      unfold abortCalls at hbefore ⊢
      simp [hbefore]
    · refine ensures_read fun seen => ensures_pure _ ?_
      rintro orchestrator log ⟨rfl, hstate, hchained, hcount⟩
      rw [hstate] at hchained
      exact ⟨_, rfl, ⟨⟨hchained, rfl, hstate.symm⟩, rfl, rfl⟩, hcount⟩
  · cases h.1

theorem ensures_failWithoutDriver (reason : BrokerWizardFailureReason) :
    Ensures driverLog (fun orchestrator log => orchestrator = {} ∧ log = [])
      (failWithoutDriver reason) fun left orchestrator log =>
        ∃ outcome, left = .ok outcome ∧ FailedClosed outcome orchestrator ∧ log = [] := by
  refine ensures_bind (fun left orchestrator log => left = .ok () ∧
    orchestrator = ⟨.failedClosed, [⟨.notStarted, .failedClosed⟩]⟩ ∧ log = [])
    (ensures_modify _ ?_) (fun value => ?_) fun error _ _ h => ?_
  · rintro orchestrator log ⟨rfl, rfl⟩
    exact ⟨rfl, rfl, rfl⟩
  · refine ensures_read fun seen => ensures_pure _ ?_
    rintro orchestrator log ⟨rfl, -, rfl, rfl⟩
    exact ⟨_, rfl, ⟨⟨⟨rfl, rfl⟩, rfl, rfl⟩, rfl, rfl⟩, rfl⟩
  · cases h.1

end Rules

section Selection

variable {fold : Utf16 → List Nat}

theorem selectUnique_eq_ok {reported : Option (List (Option ReportedCandidate))}
    {expectedServerName : Utf16} {selected : BrokerWizardCandidate}
    (h : selectUniqueServerCandidate fold reported expectedServerName = .ok selected) :
    ∃ entries candidates, reported = some entries ∧
      entries.mapM checkedCandidate = some candidates ∧
      candidates.filter (·.lists fold (trim expectedServerName)) = [selected] := by
  unfold selectUniqueServerCandidate at h
  split at h
  next => cases h
  next entries =>
    split at h
    next => cases h
    next => cases h
    next candidates hnonempty hchecked =>
      split at h
      next => cases h
      next exact hexact =>
        cases h
        exact ⟨entries, candidates, rfl, hchecked, hexact⟩
      next => cases h

theorem mem_distinctNames {names : List Utf16} {name : Utf16} (h : name ∈ distinctNames fold names) :
    name ∈ names := by
  have hgeneral : ∀ (rest seen : List Utf16), name ∈ rest.foldl (fun seen name =>
      if seen.any fun other => fold other = fold name then seen else seen ++ [name]) seen →
      name ∈ seen ∨ name ∈ rest := by
    intro rest
    induction rest with
    | nil => exact fun seen h => Or.inl h
    | cons first rest ih =>
      intro seen h
      rw [List.foldl_cons] at h
      rcases ih _ h with hseen | hrest
      · split at hseen
        next => exact Or.inl hseen
        next =>
          rcases List.mem_append.mp hseen with hold | hfirst
          · exact Or.inl hold
          · exact Or.inr (by simp [List.mem_singleton.mp hfirst])
      · exact Or.inr (List.mem_cons_of_mem _ hrest)
  rcases hgeneral names [] h with hnil | hmem
  · simp at hnil
  · exact hmem

theorem mapM_validLabel {reported : List (Option Utf16)} {names : List Utf16}
    (h : reported.mapM validLabel = some names) : reported = names.map some := by
  induction reported generalizing names with
  | nil =>
    cases h
    rfl
  | cons entry rest ih =>
    rw [List.mapM_cons] at h
    obtain ⟨name, hname, h⟩ := Option.bind_eq_some_iff.mp h
    obtain ⟨others, hothers, h⟩ := Option.bind_eq_some_iff.mp h
    cases h
    have hentry : entry = some name := (Option.filter_eq_some_iff.mp hname).1
    rw [hentry, ih hothers]
    rfl

/-- A name of the normalized census is one the driver reported, trimmed. -/
theorem mem_normalizeServerNames {reported : List (Option Utf16)} {names : List Utf16}
    {name : Utf16} (h : normalizeServerNames fold reported = some names) (hmem : name ∈ names) :
    ∃ entry, some entry ∈ reported ∧ name = trim entry := by
  unfold normalizeServerNames at h
  obtain ⟨labels, hlabels, rfl⟩ := Option.map_eq_some_iff.mp h
  rw [(stableSort_spec fold _).perm.mem_iff] at hmem
  obtain ⟨entry, hentry, rfl⟩ := List.mem_map.mp (mem_distinctNames hmem)
  rw [mapM_validLabel hlabels]
  exact ⟨entry, by simpa using hentry, rfl⟩

end Selection

/-- What a success rests on: of the candidates that were read exactly one lists the expected
server, and the census that was read names it. -/
def Verified (fold : Utf16 → List Nat) (expectedServerName : Utf16)
    (outcome : BrokerWizardOutcome) (log : List DriverEvent) : Prop :=
  ∃ entries candidates selected census name,
    ⟨.readBrokerCandidates, .ok (some entries)⟩ ∈ log ∧
      entries.mapM checkedCandidate = some candidates ∧
      candidates.filter (·.lists fold (trim expectedServerName)) = [selected] ∧
      outcome.selectedBrokerLabel = some (trim selected.brokerLabel) ∧
      ⟨.readCensusedServerNames, .ok (some census)⟩ ∈ log ∧ some name ∈ census ∧
      fold (trim name) = fold (trim expectedServerName)

/-- What a success leaves behind. -/
structure CompletedRun (fold : Utf16 → List Nat) (expectedServerName : Utf16)
    (outcome : BrokerWizardOutcome) (orchestrator : BrokerWizardOrchestrator)
    (log : List DriverEvent) : Prop extends Reported outcome orchestrator where
  succeeded : outcome.succeeded = true
  completed : outcome.finalState = .completed
  unaborted : abortCalls log = 0
  verified : Verified fold expectedServerName outcome log

/-- How the body of the `try` is left. -/
def StepsPost (fold : Utf16 → List Nat) (expectedServerName : Utf16)
    (left : Except RunException BrokerWizardOutcome) (orchestrator : BrokerWizardOrchestrator)
    (log : List DriverEvent) : Prop :=
  match left with
  | .ok outcome => FailedClosed outcome orchestrator ∧ abortCalls log = 1 ∨
      CompletedRun fold expectedServerName outcome orchestrator log
  | .error _ => Underway [] orchestrator log

section Steps

variable {fold : Utf16 → List Nat} {expectedServerName : Utf16} {facts : List DriverEvent}

theorem stepsPost_error {orchestrator : BrokerWizardOrchestrator} {log : List DriverEvent}
    (exception : RunException) (h : Underway facts orchestrator log) :
    StepsPost fold expectedServerName (.error exception) orchestrator log :=
  ⟨h.chained, h.unaborted, fun _ hmem => absurd hmem List.not_mem_nil⟩

theorem ensures_step {call : DriverCall} (hcall : call ≠ .abort)
    {f : DriverResult call → Wizard BrokerWizardOutcome}
    (rest : ∀ value, Ensures driverLog (Underway (⟨call, .ok value⟩ :: facts)) (f value)
      (StepsPost fold expectedServerName)) :
    Ensures driverLog (Underway facts) (executeStep call >>= f)
      (StepsPost fold expectedServerName) :=
  ensures_bind _ (ensures_executeStep hcall) rest fun error _ _ h => stepsPost_error error h

theorem ensures_stage (next : BrokerWizardState) {call : DriverCall} (hcall : call ≠ .abort)
    {f : DriverResult call → Wizard BrokerWizardOutcome}
    (rest : ∀ value, Ensures driverLog (Underway (⟨call, .ok value⟩ :: facts)) (f value)
      (StepsPost fold expectedServerName)) :
    Ensures driverLog (Underway facts) (moveTo next >>= fun _ => executeStep call >>= f)
      (StepsPost fold expectedServerName) := by
  refine ensures_bind _ (ensures_moveTo next) (fun value => ?_) fun error _ _ h => ?_
  · exact (ensures_step hcall rest).start fun orchestrator log h => h.2.2
  · cases h.1

theorem ensures_failed (reason : BrokerWizardFailureReason) :
    Ensures driverLog (Underway facts) (failAndAbort reason)
      (StepsPost fold expectedServerName) := by
  refine (ensures_failAndAbort reason).weaken (fun _ _ h => h) ?_
  rintro left orchestrator log ⟨outcome, rfl, hclosed, hcount⟩
  exact Or.inl ⟨hclosed, hcount⟩

/-- The last transition, once the census names the expected server. -/
theorem ensures_success {names : List Utf16} {selected : BrokerWizardCandidate}
    (hverified : ∀ log transitions, (∀ event ∈ facts, event ∈ log) →
      Verified fold expectedServerName
        (.success (trim selected.brokerLabel) names transitions) log) :
    Ensures driverLog (Underway facts)
      (moveTo .completed >>= fun _ => Method.readFields >>= fun orchestrator =>
        pure (.success (trim selected.brokerLabel) names orchestrator.transitions))
      (StepsPost fold expectedServerName) := by
  refine ensures_bind _ (ensures_moveTo .completed) (fun value => ?_) fun error _ _ h => ?_
  · refine ensures_read fun seen => ensures_pure _ ?_
    rintro orchestrator log ⟨rfl, -, hstate, h⟩
    have hchained := h.chained
    rw [hstate] at hchained
    exact Or.inr ⟨⟨hchained, rfl, hstate.symm⟩, rfl, rfl, h.unaborted,
      hverified log _ h.answered⟩
  · cases h.1

theorem ensures_judgeCensus {entries : List (Option ReportedCandidate)}
    {candidates : List BrokerWizardCandidate} {selected : BrokerWizardCandidate}
    {reported : Option (List (Option Utf16))}
    (hread : ⟨.readBrokerCandidates, .ok (some entries)⟩ ∈ facts)
    (hchecked : entries.mapM checkedCandidate = some candidates)
    (hselected : candidates.filter (·.lists fold (trim expectedServerName)) = [selected])
    (hcensus : ⟨.readCensusedServerNames, .ok reported⟩ ∈ facts) :
    Ensures driverLog (Underway facts)
      (judgeCensus fold expectedServerName selected.brokerLabel reported)
      (StepsPost fold expectedServerName) := by
  unfold judgeCensus
  split
  next => exact ensures_raise _ fun orchestrator log h => stepsPost_error _ h
  next => exact ensures_failed _
  next census hnonempty =>
    split
    next => exact ensures_failed _
    next names hnames =>
      split
      next hfound =>
        refine ensures_success fun log transitions hanswered => ?_
        simp only [List.any_eq_true, decide_eq_true_eq] at hfound
        obtain ⟨name, hmem, hname⟩ := hfound
        obtain ⟨entry, hentry, rfl⟩ := mem_normalizeServerNames hnames hmem
        exact ⟨entries, candidates, selected, census, entry, hanswered _ hread, hchecked,
          hselected, rfl, hanswered _ hcensus, hentry, hname⟩
      next => exact ensures_failed _

theorem ensures_chooseCandidate {reported : Option (List (Option ReportedCandidate))}
    (hread : ⟨.readBrokerCandidates, .ok reported⟩ ∈ facts) :
    Ensures driverLog (Underway facts) (chooseCandidate fold expectedServerName reported)
      (StepsPost fold expectedServerName) := by
  unfold chooseCandidate
  split
  next => exact ensures_failed _
  next selected hselect =>
    obtain ⟨entries, candidates, rfl, hchecked, hselected⟩ := selectUnique_eq_ok hselect
    refine ensures_stage _ (by simp) fun _ => ensures_stage _ (by simp) fun _ =>
      ensures_stage _ (by simp) fun census => ?_
    exact ensures_judgeCensus (by simp [hread]) hchecked hselected (by simp)

theorem ensures_runSteps (searchText : Utf16) :
    Ensures driverLog (Underway []) (runSteps fold searchText expectedServerName)
      (StepsPost fold expectedServerName) := by
  refine ensures_stage _ (by simp) fun _ => ensures_stage _ (by simp) fun _ =>
    ensures_stage _ (by simp) fun _ => ensures_step (by simp) fun reported => ?_
  exact ensures_chooseCandidate (by simp)

end Steps

section Runs

variable {fold : Utf16 → List Nat}

/-- How a run of a fresh orchestrator is left: it returns, and with no success without an accepted
request. -/
def RunPost (fold : Utf16 → List Nat) (request : BrokerWizardRequest)
    (left : Except RunException BrokerWizardOutcome) (orchestrator : BrokerWizardOrchestrator)
    (log : List DriverEvent) : Prop :=
  ∃ outcome, left = .ok outcome ∧
    (acceptedRequest request = none ∧ FailedClosed outcome orchestrator ∧ log = [] ∨
      ∃ accepted, acceptedRequest request = some accepted ∧
        (FailedClosed outcome orchestrator ∧ abortCalls log = 1 ∨
          CompletedRun fold accepted.2 outcome orchestrator log))

theorem ensures_startRun (request : BrokerWizardRequest) :
    Ensures driverLog (fun orchestrator log => orchestrator = {} ∧ log = [])
      (startRun fold request) (RunPost fold request) := by
  unfold startRun
  split
  next hrejected =>
    refine (ensures_failWithoutDriver _).weaken (fun _ _ h => h) ?_
    rintro left orchestrator log ⟨outcome, rfl, hclosed, hlog⟩
    exact ⟨outcome, rfl, Or.inl ⟨hrejected, hclosed, hlog⟩⟩
  next searchText expectedServerName haccepted =>
    have hstart : ∀ orchestrator log, orchestrator = ({} : BrokerWizardOrchestrator) ∧ log = [] →
        Underway [] orchestrator log := by
      rintro orchestrator log ⟨rfl, rfl⟩
      exact ⟨rfl, rfl, fun _ hmem => hmem⟩
    refine ensures_tryExcept (StepsPost fold expectedServerName)
      ((ensures_runSteps searchText).start hstart) ?_ fun error => ?_
    · intro outcome orchestrator log h
      exact ⟨outcome, rfl, Or.inr ⟨_, haccepted, h⟩⟩
    · refine (ensures_failAndAbort _).weaken (fun _ _ h => h) ?_
      rintro left orchestrator log ⟨outcome, rfl, hclosed, hcount⟩
      exact ⟨outcome, rfl, Or.inr ⟨_, haccepted, Or.inl ⟨hclosed, hcount⟩⟩⟩

theorem runAsync_again (request : BrokerWizardRequest) {orchestrator : BrokerWizardOrchestrator}
    (h : orchestrator.state ≠ .notStarted) :
    runAsync fold (some request) orchestrator =
      .ret (.error .invalidOperation, orchestrator) := by
  show (if orchestrator.state ≠ .notStarted then Method.raise .invalidOperation
    else startRun fold request : Wizard BrokerWizardOutcome) orchestrator = _
  rw [if_pos h]
  rfl

/-- Whatever the driver does, a run that ends returns an outcome with a chain of transitions; a
success was verified and not aborted, a failure after the driver was started was aborted once, and
the orchestrator does not run again. -/
theorem wizard_run {request : BrokerWizardRequest}
    {left : Except RunException BrokerWizardOutcome} {after : BrokerWizardOrchestrator}
    {log : List DriverEvent}
    (h : Ends driverLog (runAsync fold (some request) {}) [] (left, after) log) :
    ∃ outcome, left = .ok outcome ∧ after.transitions = outcome.transitions ∧
      Chained .notStarted outcome.transitions outcome.finalState ∧
      (outcome.succeeded = true → outcome.finalState = .completed ∧ abortCalls log = 0 ∧
        ∃ accepted, acceptedRequest request = some accepted ∧
          Verified fold accepted.2 outcome log) ∧
      (outcome.succeeded = false → outcome.finalState = .failedClosed ∧
        (acceptedRequest request = none ∧ log = [] ∨
          acceptedRequest request ≠ none ∧ abortCalls log = 1)) ∧
      ∀ again, runAsync fold (some again) after = .ret (.error .invalidOperation, after) := by
  have hstart : runAsync fold (some request) {} = startRun fold request {} := rfl
  rw [hstart] at h
  have hpost : RunPost fold request left after log :=
    (ensures_startRun request {} [] ⟨rfl, rfl⟩).ends h
  obtain ⟨outcome, rfl, hcases⟩ := hpost
  refine ⟨outcome, rfl, ?_⟩
  rcases hcases with ⟨hrejected, hclosed, hlog⟩ | ⟨accepted, haccepted, ⟨hclosed, hcount⟩ | hdone⟩
  · refine ⟨hclosed.same.symm, hclosed.chained, fun hyes => ?_, fun _ => ?_, fun again => ?_⟩
    · rw [hclosed.failed] at hyes
      cases hyes
    · exact ⟨hclosed.closed, Or.inl ⟨hrejected, hlog⟩⟩
    · exact runAsync_again again (by rw [← hclosed.final, hclosed.closed]; decide)
  · refine ⟨hclosed.same.symm, hclosed.chained, fun hyes => ?_, fun _ => ?_, fun again => ?_⟩
    · rw [hclosed.failed] at hyes
      cases hyes
    · exact ⟨hclosed.closed, Or.inr ⟨by simp [haccepted], hcount⟩⟩
    · exact runAsync_again again (by rw [← hclosed.final, hclosed.closed]; decide)
  · refine ⟨hdone.same.symm, hdone.chained, fun _ => ?_, fun hno => ?_, fun again => ?_⟩
    · exact ⟨hdone.completed, hdone.unaborted, accepted, haccepted, hdone.verified⟩
    · rw [hdone.succeeded] at hno
      cases hno
    · exact runAsync_again again (by rw [← hdone.final, hdone.completed]; decide)

def sampleRequest : BrokerWizardRequest where
  searchText := some [97, 98]
  suggestedBrokerLabel := none
  expectedServerName := some [97, 98]
  stepTimeout := minimumStepTimeout

/-- A driver that does not find the terminal in time and throws when it is aborted. -/
def timeoutLog : List DriverEvent :=
  [⟨.waitForTerminal, .error (.cancelled false)⟩, ⟨.abort, .error .other⟩]

theorem wizard_run_timeout : ∃ outcome : BrokerWizardOutcome, outcome.succeeded = false ∧
    outcome.failureReason = .timeout ∧ outcome.finalState = .failedClosed ∧
    abortCalls timeoutLog = 1 := by
  have haccepted : acceptedRequest sampleRequest = some ([97, 98], [97, 98]) := by decide +kernel
  let transitions : List BrokerWizardTransition :=
    [⟨.notStarted, .waitingForTerminal⟩, ⟨.waitingForTerminal, .failedClosed⟩]
  have hrun : Ends driverLog (runAsync (List.map UInt16.toNat) (some sampleRequest) {}) []
      (.ok (.failure .timeout transitions), ⟨.failedClosed, transitions⟩) timeoutLog := by
    have hstart : runAsync (List.map UInt16.toNat) (some sampleRequest) {} =
        startRun (List.map UInt16.toNat) sampleRequest {} := rfl
    rw [hstart]
    unfold startRun
    rw [haccepted]
    exact .act (.error (.cancelled false)) rfl (.act (.error .other) rfl (.ret _ _))
  obtain ⟨outcome, houtcome, -, -, -, hfailure, -⟩ := wizard_run hrun
  cases houtcome
  exact ⟨_, rfl, rfl, (hfailure rfl).1, rfl⟩

end Runs

end TradeJournalWorker.BrokerWizard
