import Mathlib.Data.List.Find
import TradeJournalWorker.OutboxState

namespace TradeJournalWorker

/-- What comes back from one `requests.post`: a status code, or a `RequestException` of a type. -/
inductive TransportOutcome where
  | response (statusCode : Int)
  | raised (typeName : String)
  deriving DecidableEq, Repr

/-- `SendResult` as the sender builds it. -/
structure SenderResult where
  status : SendStatus
  httpStatus : Option Int := none
  error : Option String := none
  attempts : Int := 0
  failureType : Option FailureType := none
  deriving DecidableEq, Repr

def SenderResult.retryable (result : SenderResult) : Bool := result.failureType = some .transient

structure SenderConfig where
  apiUrl : Option String
  bridgeToken : Option String
  dryRun : Bool
  maxRetries : Int := 3

/-- The result of a `send` and the number of posts that it made. -/
structure Sending where
  result : SenderResult
  posts : Nat
  deriving DecidableEq, Repr

def transientHttpStatuses : List Int := [408, 425, 429]

def recoverableAuthStatuses : List Int := [401, 403]

/-- What is left of the attempts that were not decisive. -/
structure LastFailure where
  error : Option String := none
  httpStatus : Option Int := none

/-- One attempt: a result, or the failure after which another attempt is made. -/
def judge (attempt : Nat) (last : LastFailure) : TransportOutcome → SenderResult ⊕ LastFailure
  | .raised typeName => .inr { last with error := some typeName }
  | .response statusCode =>
    if statusCode < 300 then
      .inl { status := .sent, httpStatus := some statusCode, attempts := attempt }
    else if statusCode ∈ recoverableAuthStatuses then
      .inl
        { status := .failed, httpStatus := some statusCode, error := some "authentication_failed"
          attempts := attempt, failureType := some .transient }
    else if ¬ (statusCode ∈ transientHttpStatuses ∨ 500 ≤ statusCode ∧ statusCode ≤ 599) then
      .inl
        { status := .failed, httpStatus := some statusCode, error := some "rejected_by_api"
          attempts := attempt, failureType := some .permanent }
    else .inr { error := some ("http_" ++ toString statusCode), httpStatus := some statusCode }

/-- The loop of `send`, with `left` attempts to go after `made` of them; `outcomes` tells what
comes back from each post. -/
def attemptLoop (maxRetries : Int) (outcomes : Nat → TransportOutcome) :
    Nat → Nat → LastFailure → Sending
  | 0, made, last =>
    { result :=
        { status := .failed, httpStatus := last.httpStatus, error := last.error
          attempts := maxRetries, failureType := some .transient }
      posts := made }
  | left + 1, made, last =>
    match judge (made + 1) last (outcomes made) with
    | .inl result => { result, posts := made + 1 }
    | .inr failure => attemptLoop maxRetries outcomes left (made + 1) failure

/-- `not value` of an optional text. -/
def missingText (value : Option String) : Bool := value.all (· = "")

/-- `EventSender.send`. -/
def EventSender.send (config : SenderConfig) (outcomes : Nat → TransportOutcome) : Sending :=
  if config.dryRun then { result := { status := .dryRun }, posts := 0 }
  else if missingText config.apiUrl ∨ missingText config.bridgeToken then
    { result :=
        { status := .failed, error := some "missing_api_target", failureType := some .transient }
      posts := 0 }
  else attemptLoop config.maxRetries outcomes config.maxRetries.toNat 0 {}

section Classification

/-- A status that the API may answer differently the next time. -/
def RetryableStatus (statusCode : Int) : Prop :=
  statusCode = 408 ∨ statusCode = 425 ∨ statusCode = 429 ∨ 500 ≤ statusCode ∧ statusCode ≤ 599

/-- An outcome after which there is nothing to retry. -/
def TransportOutcome.Decisive : TransportOutcome → Prop
  | .raised _ => False
  | .response statusCode => statusCode < 300 ∨ ¬ RetryableStatus statusCode

/-- A result is what its decisive outcome says: success below 300, a rejected authentication to be
retried later, any other status for good. -/
structure DecidedBy (statusCode : Int) (result : SenderResult) : Prop where
  http : result.httpStatus = some statusCode
  sent : statusCode < 300 → result.status = .sent ∧ result.failureType = none
  auth : statusCode = 401 ∨ statusCode = 403 →
    result.status = .failed ∧ result.failureType = some .transient
  rejected : 300 ≤ statusCode → statusCode ≠ 401 → statusCode ≠ 403 →
    result.status = .failed ∧ result.failureType = some .permanent

theorem judge_decisive {outcome : TransportOutcome} (h : outcome.Decisive) (attempt : Nat)
    (last : LastFailure) :
    ∃ statusCode result, outcome = .response statusCode ∧
      judge attempt last outcome = .inl result ∧ result.attempts = attempt ∧
      DecidedBy statusCode result := by
  cases outcome with
  | raised typeName => exact absurd h id
  | response statusCode =>
    have hdecisive : statusCode < 300 ∨ ¬ RetryableStatus statusCode := h
    unfold RetryableStatus at hdecisive
    by_cases hsent : statusCode < 300
    · refine ⟨statusCode, _, rfl, if_pos hsent, rfl, rfl, fun _ => ⟨rfl, rfl⟩, ?_, ?_⟩
      · intro hauth
        omega
      · intro hrejected
        omega
    · by_cases hauth : statusCode ∈ recoverableAuthStatuses
      · have hcode : statusCode = 401 ∨ statusCode = 403 := by
          simpa [recoverableAuthStatuses] using hauth
        refine ⟨statusCode, _, rfl, (if_neg hsent).trans (if_pos hauth), rfl, rfl, ?_,
          fun _ => ⟨rfl, rfl⟩, ?_⟩
        · intro hlow
          omega
        · intro _ hne hother
          omega
      · have hcode : ¬ (statusCode = 401 ∨ statusCode = 403) := by
          simpa [recoverableAuthStatuses] using hauth
        have hfinal : ¬ (statusCode ∈ transientHttpStatuses ∨
            500 ≤ statusCode ∧ statusCode ≤ 599) := by
          simp only [transientHttpStatuses, List.mem_cons, List.not_mem_nil, or_false]
          omega
        refine ⟨statusCode, _, rfl,
          (if_neg hsent).trans ((if_neg hauth).trans (if_pos hfinal)), rfl, rfl, ?_, ?_,
          fun _ _ _ => ⟨rfl, rfl⟩⟩
        · intro hlow
          omega
        · intro hother
          omega

theorem judge_retried {outcome : TransportOutcome} (h : ¬ outcome.Decisive) (attempt : Nat)
    (last : LastFailure) : ∃ failure, judge attempt last outcome = .inr failure := by
  cases outcome with
  | raised typeName => exact ⟨_, rfl⟩
  | response statusCode =>
    have hretried : ¬ (statusCode < 300 ∨ ¬ RetryableStatus statusCode) := h
    unfold RetryableStatus at hretried
    have hauth : statusCode ∉ recoverableAuthStatuses := by
      simp only [recoverableAuthStatuses, List.mem_cons, List.not_mem_nil, or_false]
      omega
    have htransient : ¬ ¬ (statusCode ∈ transientHttpStatuses ∨
        500 ≤ statusCode ∧ statusCode ≤ 599) := by
      simp only [transientHttpStatuses, List.mem_cons, List.not_mem_nil, or_false]
      omega
    refine ⟨{ error := some ("http_" ++ toString statusCode), httpStatus := some statusCode },
      (if_neg (by omega)).trans ((if_neg hauth).trans (if_neg htransient))⟩

end Classification

section Attempts

variable {maxRetries : Int} {outcomes : Nat → TransportOutcome}

/-- Attempts before the first decisive outcome only lead to the next one. -/
theorem attemptLoop_skip {made : Nat} (steps left : Nat) (last : LastFailure)
    (h : ∀ k, made ≤ k → k < made + steps → ¬ (outcomes k).Decisive) :
    ∃ failure, attemptLoop maxRetries outcomes (steps + left) made last =
      attemptLoop maxRetries outcomes left (made + steps) failure := by
  induction steps generalizing made last with
  | zero => exact ⟨last, by rw [Nat.zero_add, Nat.add_zero]⟩
  | succ steps ih =>
    obtain ⟨failure, hfailure⟩ := judge_retried (h made le_rfl (by omega)) (made + 1) last
    have hlater : ∀ k, made + 1 ≤ k → k < made + 1 + steps → ¬ (outcomes k).Decisive :=
      fun k hlow hhigh => h k (by omega) (by omega)
    obtain ⟨final, hfinal⟩ := ih failure hlater
    refine ⟨final, ?_⟩
    have hcount : steps + 1 + left = steps + left + 1 := by omega
    have hmade : made + (steps + 1) = made + 1 + steps := by omega
    rw [hcount, hmade, ← hfinal]
    show (match judge (made + 1) last (outcomes made) with
      | .inl result => ({ result, posts := made + 1 } : Sending)
      | .inr failure => attemptLoop maxRetries outcomes (steps + left) (made + 1) failure) = _
    rw [hfailure]

/-- The first decisive outcome gives the result, and no post follows it. -/
theorem attemptLoop_decided {first limit : Nat} (hfirst : first < limit)
    (hbefore : ∀ k < first, ¬ (outcomes k).Decisive) (hdecisive : (outcomes first).Decisive) :
    ∃ statusCode result, outcomes first = .response statusCode ∧
      attemptLoop maxRetries outcomes limit 0 {} = { result, posts := first + 1 } ∧
      result.attempts = (first + 1 : Nat) ∧ DecidedBy statusCode result := by
  obtain ⟨failure, hskip⟩ := @attemptLoop_skip maxRetries outcomes 0 first (limit - first) {}
    fun k _ hk => hbefore k (by omega)
  obtain ⟨statusCode, result, hcode, hjudged, hattempts, hdecided⟩ :=
    judge_decisive hdecisive (first + 1) failure
  refine ⟨statusCode, result, hcode, ?_, hattempts, hdecided⟩
  have hlimit : first + (limit - first) = limit := by omega
  have hleft : limit - first = limit - first - 1 + 1 := by omega
  rw [hlimit, Nat.zero_add, hleft] at hskip
  rw [hskip]
  show (match judge (first + 1) failure (outcomes first) with
    | .inl result => ({ result, posts := first + 1 } : Sending)
    | .inr failure => attemptLoop maxRetries outcomes _ (first + 1) failure) = _
  rw [hjudged]

theorem attemptLoop_exhausted {limit : Nat} (h : ∀ k < limit, ¬ (outcomes k).Decisive) :
    (attemptLoop maxRetries outcomes limit 0 {}).posts = limit ∧
      (attemptLoop maxRetries outcomes limit 0 {}).result.status = .failed ∧
      (attemptLoop maxRetries outcomes limit 0 {}).result.failureType = some .transient ∧
      (attemptLoop maxRetries outcomes limit 0 {}).result.attempts = maxRetries := by
  obtain ⟨failure, hskip⟩ := @attemptLoop_skip maxRetries outcomes 0 limit 0 {}
    fun k _ hk => h k (by omega)
  rw [Nat.add_zero, Nat.zero_add] at hskip
  rw [hskip]
  exact ⟨rfl, rfl, rfl, rfl⟩

theorem attemptLoop_posts_le (limit made : Nat) (last : LastFailure) :
    (attemptLoop maxRetries outcomes limit made last).posts ≤ made + limit := by
  induction limit generalizing made last with
  | zero => exact le_rfl
  | succ limit ih =>
    unfold attemptLoop
    split
    · show made + 1 ≤ _
      omega
    · have hrest := ih (made + 1) (by assumption)
      omega

end Attempts

end TradeJournalWorker
