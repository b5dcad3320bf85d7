import TradeJournalWorker.FaultRules
import TradeJournalWorker.OutboxState

namespace TradeJournalWorker

open FaultProgram

variable {π : Type} [Identified π]

/-- One call of the sender, recorded with the dead letters present at that moment. -/
structure SendAttempt (π : Type) where
  payload : π
  deadLetters : Nat
  sent : Bool
  deriving DecidableEq, Repr

/-- `state` is the object in memory and `file` what is on disk. The other two are
histories: the ids accepted by `enqueue_many` and the calls of the sender. -/
structure OutboxWorld (π : Type) where
  state : OutboxState π
  file : Option (OutboxState π)
  accepted : List String
  attempts : List (SendAttempt π)

/-- What one call of the sender does. -/
inductive SendAnswer where
  | result (value : SendResult)
  | raises
  deriving DecidableEq, Repr

/-- Answers for the state replacements and for the sender; when a list is used up
the file system works and the sender delivers. -/
structure OutboxEnv where
  persists : List (WriteAnswer OutboxError) := []
  sends : List SendAnswer := []

namespace OutboxEnv

def nextPersist (env : OutboxEnv) : WriteAnswer OutboxError × OutboxEnv :=
  let (answer, rest) := nextAnswer .done env.persists
  (answer, { env with persists := rest })

def nextSend (env : OutboxEnv) : SendAnswer × OutboxEnv :=
  let (answer, rest) := nextAnswer (.result { status := .sent }) env.sends
  (answer, { env with sends := rest })

end OutboxEnv

abbrev OutboxProgram (π : Type) (α : Type) :=
  Program OutboxEnv (OutboxWorld π) OutboxError α

structure DrainResult where
  sent : Nat := 0
  dryRun : Nat := 0
  deadLettered : Nat := 0
  transientFailures : Nat := 0
  pending : Nat := 0
  deriving DecidableEq, Repr

/-- `_replace_state`: persist the new state, then make it the state in memory. -/
def replaceState (newState : OutboxState π) : OutboxProgram π Unit := do
  Program.write OutboxEnv.nextPersist fun world => { world with file := some newState }
  Program.modifyWorld fun world => { world with state := newState }

def validateBatch : List π → Except OutboxError Unit
  | [] => .ok ()
  | payload :: rest => do
    validatePayload payload
    validateBatch rest

def enqueueMany (payloads : List π) : OutboxProgram π Nat := do
  match validateBatch payloads with
  | .error error => Program.raise error
  | .ok _ =>
    let world ← Program.getWorld
    let added := appendNew (knownIds world.state) payloads
    if added ≠ [] then
      replaceState { world.state with pending := world.state.pending ++ added }
      Program.modifyWorld fun world =>
        { world with accepted := world.accepted ++ added.map eventId }
    return added.length

/-- `sender.send`, with the call written into the history. -/
def send (payload : π) : OutboxProgram π SendResult := do
  let world ← Program.getWorld
  let attempt sent : SendAttempt π :=
    { payload := payload, deadLetters := world.state.deadLetter.length, sent := sent }
  match ← Program.consult OutboxEnv.nextSend with
  | .raises =>
    Program.modifyWorld fun world => { world with attempts := world.attempts ++ [attempt false] }
    Program.raise .sender
  | .result value =>
    Program.modifyWorld fun world =>
      { world with attempts := world.attempts ++ [attempt (value.status == .sent)] }
    return value

def rejected (payload : π) (result : SendResult) : DeadLetter π :=
  { payload := payload, failureType := .permanent, httpStatus := result.httpStatus,
    error := result.error, attempts := result.attempts }

/-- The `while` of `drain`, its index always zero. Every round that continues has
removed one pending payload, which is what `fuel` counts. -/
def drainLoop : Nat → DrainResult → OutboxProgram π DrainResult
  | 0, counters => return counters
  | fuel + 1, counters => do
    let world ← Program.getWorld
    match world.state.pending with
    | [] => return counters
    | payload :: rest =>
      let result ← send payload
      if result.status = .sent then
        replaceState { world.state with pending := rest }
        drainLoop fuel { counters with sent := counters.sent + 1 }
      else if result.status = .dryRun then
        return { counters with dryRun := counters.dryRun + 1 }
      else if result.failureType = some .permanent then
        replaceState
          { pending := rest
            deadLetter := world.state.deadLetter ++ [(eventId payload, rejected payload result)] }
        return { counters with deadLettered := counters.deadLettered + 1 }
      else
        return { counters with transientFailures := counters.transientFailures + 1 }

def drain : OutboxProgram π DrainResult := do
  let world ← Program.getWorld
  if world.state.deadLetter ≠ [] then
    return { pending := world.state.pending.length }
  else
    let counters ← drainLoop world.state.pending.length {}
    let world ← Program.getWorld
    return { counters with pending := world.state.pending.length }

/-- A new `EventOutbox` on the same file. -/
def reload : OutboxProgram π Unit := do
  let world ← Program.getWorld
  match load world.file with
  | .error error => Program.raise error
  | .ok state => Program.modifyWorld fun world => { world with state := state }

end TradeJournalWorker
