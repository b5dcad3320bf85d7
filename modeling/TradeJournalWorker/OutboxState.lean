import Mathlib.Data.List.Nodup

namespace TradeJournalWorker

/-- A payload of the outbox is whatever carries an `event_id`. -/
class Identified (π : Type) where
  eventId : π → String

export Identified (eventId)

inductive SendStatus where
  | sent
  | dryRun
  | failed
  deriving DecidableEq, Repr

inductive FailureType where
  | transient
  | permanent
  deriving DecidableEq, Repr

structure SendResult where
  status : SendStatus
  httpStatus : Option Nat := none
  error : Option String := none
  attempts : Nat := 0
  failureType : Option FailureType := none
  deriving DecidableEq, Repr

structure DeadLetter (π : Type) where
  payload : π
  failureType : FailureType
  httpStatus : Option Nat
  error : Option String
  attempts : Nat
  deriving DecidableEq, Repr

/-- The version 2 state: `pending` is the FIFO list, `deadLetter` the dictionary
of rejected events by event id. -/
structure OutboxState (π : Type) where
  pending : List π
  deadLetter : List (String × DeadLetter π)
  deriving DecidableEq, Repr

/-- The reasons an outbox operation raises for: `OutboxError` with its texts, an
error of the file system, an exception of the sender. -/
inductive OutboxError where
  | missingEventId
  | duplicatePending
  | incoherentDeadLetter
  | eventInTwoStates
  | persistence
  | sender
  deriving DecidableEq, Repr

variable {π : Type} [Identified π]

def pendingIds (state : OutboxState π) : List String := state.pending.map eventId

def deadLetterIds (state : OutboxState π) : List String := state.deadLetter.map Prod.fst

def emptyState : OutboxState π := ⟨[], []⟩

def validatePayload (payload : π) : Except OutboxError Unit :=
  if eventId payload = "" then .error .missingEventId else .ok ()

/-- The pending loop of `_validate_state`: `seen` is its `pending_ids`. -/
def validatePending (seen : List String) : List π → Except OutboxError Unit
  | [] => .ok ()
  | payload :: rest =>
    if eventId payload = "" then .error .missingEventId
    else if eventId payload ∈ seen then .error .duplicatePending
    else validatePending (eventId payload :: seen) rest

def validateDeadLetter (pending : List String) :
    List (String × DeadLetter π) → Except OutboxError Unit
  | [] => .ok ()
  | (key, letter) :: rest =>
    if eventId letter.payload = "" then .error .missingEventId
    else if eventId letter.payload ≠ key then .error .incoherentDeadLetter
    else if key ∈ pending then .error .eventInTwoStates
    else validateDeadLetter pending rest

def validateState (state : OutboxState π) : Except OutboxError Unit := do
  validatePending [] state.pending
  validateDeadLetter (pendingIds state) state.deadLetter

/-- Read a version 2 file; a missing file is the empty outbox. -/
def load (file : Option (OutboxState π)) : Except OutboxError (OutboxState π) :=
  match file with
  | none => .ok emptyState
  | some state => do
    validateState state
    return state

/-- The loop of `enqueue_many`: skip every id already known, append the rest. -/
def appendNew (known : List String) : List π → List π
  | [] => []
  | payload :: rest =>
    if eventId payload ∈ known then appendNew known rest
    else payload :: appendNew (eventId payload :: known) rest

def knownIds (state : OutboxState π) : List String := pendingIds state ++ deadLetterIds state

theorem validatePending_eq_ok {pending : List π} {seen : List String} :
    validatePending seen pending = .ok () ↔
      (∀ p ∈ pending, eventId p ≠ "") ∧ (pending.map eventId).Nodup ∧
        ∀ p ∈ pending, eventId p ∉ seen := by
  induction pending generalizing seen with
  | nil => simp [validatePending]
  | cons payload rest ih =>
    unfold validatePending
    by_cases hempty : eventId payload = ""
    · simp [hempty]
    · by_cases hseen : eventId payload ∈ seen
      · simp [hempty, hseen]
      · simp only [hempty, hseen, if_false, ih, List.mem_cons, List.map_cons, List.nodup_cons,
          List.mem_map, not_exists, not_and, not_or, forall_eq_or_imp, not_false_eq_true, ne_eq,
          true_and]
        constructor
        · rintro ⟨hne, hnodup, hfresh⟩
          exact ⟨hne, ⟨fun p hp => (hfresh p hp).1, hnodup⟩, fun p hp => (hfresh p hp).2⟩
        · rintro ⟨hne, ⟨hhead, hnodup⟩, hfresh⟩
          exact ⟨hne, hnodup, fun p hp => ⟨hhead p hp, hfresh p hp⟩⟩

theorem validateDeadLetter_eq_ok {letters : List (String × DeadLetter π)} {pending : List String} :
    validateDeadLetter pending letters = .ok () ↔
      ∀ entry ∈ letters, eventId entry.2.payload ≠ "" ∧ eventId entry.2.payload = entry.1 ∧
        entry.1 ∉ pending := by
  induction letters with
  | nil => simp [validateDeadLetter]
  | cons entry rest ih =>
    obtain ⟨key, letter⟩ := entry
    unfold validateDeadLetter
    by_cases hempty : eventId letter.payload = ""
    · simp [hempty]
    · by_cases hkey : eventId letter.payload = key
      · subst hkey
        by_cases hmem : eventId letter.payload ∈ pending
        · simp [hempty, hmem]
        · simp [hempty, hmem, ih]
      · simp [hempty, hkey]

/-- What `_validate_state` accepts. -/
structure ValidState (state : OutboxState π) : Prop where
  pendingNonempty : ∀ p ∈ state.pending, eventId p ≠ ""
  pendingNodup : (pendingIds state).Nodup
  deadLetterKeyed : ∀ entry ∈ state.deadLetter,
    eventId entry.2.payload ≠ "" ∧ eventId entry.2.payload = entry.1
  disjoint : ∀ key ∈ deadLetterIds state, key ∉ pendingIds state

theorem validateState_eq_ok {state : OutboxState π} :
    validateState state = .ok () ↔ ValidState state := by
  have hsplit : validateState state = .ok () ↔
      validatePending [] state.pending = .ok () ∧
        validateDeadLetter (pendingIds state) state.deadLetter = .ok () := by
    unfold validateState
    cases validatePending [] state.pending <;> simp [bind, Except.bind]
  rw [hsplit, validatePending_eq_ok, validateDeadLetter_eq_ok]
  constructor
  · rintro ⟨⟨hne, hnodup, -⟩, hletters⟩
    refine ⟨hne, hnodup, fun entry he => ⟨(hletters entry he).1, (hletters entry he).2.1⟩, ?_⟩
    intro key hkey
    obtain ⟨entry, he, rfl⟩ := List.mem_map.mp hkey
    exact (hletters entry he).2.2
  · rintro ⟨hne, hnodup, hkeyed, hdisjoint⟩
    refine ⟨⟨hne, hnodup, by simp⟩, fun entry he => ?_⟩
    exact ⟨(hkeyed entry he).1, (hkeyed entry he).2, hdisjoint _ (List.mem_map_of_mem he)⟩

theorem load_of_valid {state : OutboxState π} (h : ValidState state) :
    load (some state) = .ok state := by
  simp [load, validateState_eq_ok.mpr h, bind, Except.bind, pure, Except.pure]

theorem appendNew_spec (payloads : List π) (known : List String) :
    ((appendNew known payloads).map eventId).Nodup ∧
      ∀ p ∈ appendNew known payloads, p ∈ payloads ∧ eventId p ∉ known := by
  induction payloads generalizing known with
  | nil => simp [appendNew]
  | cons payload rest ih =>
    unfold appendNew
    split
    next hknown =>
      obtain ⟨hnodup, hfresh⟩ := ih known
      exact ⟨hnodup, fun p hp => ⟨List.mem_cons_of_mem _ (hfresh p hp).1, (hfresh p hp).2⟩⟩
    next hknown =>
      obtain ⟨hnodup, hfresh⟩ := ih (eventId payload :: known)
      refine ⟨?_, ?_⟩
      · rw [List.map_cons, List.nodup_cons]
        refine ⟨?_, hnodup⟩
        intro hmem
        obtain ⟨p, hp, he⟩ := List.mem_map.mp hmem
        exact (hfresh p hp).2 (by simp [he])
      · intro p hp
        rcases List.mem_cons.mp hp with rfl | hp
        · exact ⟨by simp, hknown⟩
        · have hf := hfresh p hp
          exact ⟨List.mem_cons_of_mem _ hf.1, fun hk => hf.2 (List.mem_cons_of_mem _ hk)⟩

end TradeJournalWorker
