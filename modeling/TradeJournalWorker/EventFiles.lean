import Mathlib.Data.List.ReduceOption
import Mathlib.Data.List.Sort
import TradeJournalWorker.EndpointRecords
import TradeJournalWorker.EventStream
import TradeJournalWorker.FaultProgram

namespace TradeJournalWorker

open FaultProgram

inductive EventFileError where
  | eventUnavailable
  | eventSchemaInvalid
  | accountIdentityMismatch
  | serverIdentityMismatch
  | checkpointInvalid
  | checkpointRegression
  | directoryInvalid
  | fileInvalid
  | cleanupFailed
  | handoffInvalid
  | disk
  deriving DecidableEq, Repr

/-- The payload of an envelope: the fields of an event with a `sequence` among them or not, or no
JSON object. -/
inductive EventPayload where
  | record (ownSequence : Option Nat) (record : EventRecord)
  | other
  deriving DecidableEq, Repr

/-- A JSON object read as an envelope; `none` is a key that is absent or has another type. -/
structure EventEnvelope where
  schemaVersion : Option Int
  generatedAt : Option String
  sequence : Option Int
  login : Option String
  server : Option String
  serverIdentity : Option String
  payload : Option EventPayload
  deriving DecidableEq, Repr

/-- What an event file has in it; `unavailable` is text that is no JSON. -/
inductive EventContent where
  | unavailable
  | notObject
  | object (envelope : EventEnvelope)
  deriving DecidableEq, Repr

/-- An entry of the events directory; only a plain file is `regular`. -/
structure EventFile where
  name : String
  regular : Bool := true
  content : EventContent
  deriving DecidableEq, Repr

/-- `_EVENT_FILE.fullmatch` and the number in the name. -/
def eventNumber (name : String) : Option Nat :=
  let digits := (name.toList.drop 6).take (name.length - 11)
  if name.toList = "event-".toList ++ digits ++ ".json".toList ∧ digits ≠ [] ∧
      digits.all Char.isDigit then
    some (Nat.ofDigitChars 10 digits 0)
  else none

structure AdapterConfig where
  unicode : Unicode
  parsesTime : String → Bool
  expectedLogin : String
  expectedServer : String

def schemaVersion : Int := 1

/-- `_read_path_envelope` with `event` as its label, once the file could be opened. -/
def readPathEnvelope (config : AdapterConfig) : EventContent →
    Except EventFileError (Int × EventPayload)
  | .unavailable => .error .eventUnavailable
  | .notObject => .error .eventSchemaInvalid
  | .object envelope =>
    if envelope.schemaVersion ≠ some schemaVersion then .error .eventSchemaInvalid
    else
      match envelope.sequence, envelope.login, envelope.server, envelope.serverIdentity,
        envelope.payload with
      | some sequence, some login, some server, some serverIdentity, some payload =>
        if ¬ envelope.generatedAt.any config.parsesTime ∨ sequence < 0 then
          .error .eventSchemaInvalid
        else if login ≠ config.expectedLogin then .error .accountIdentityMismatch
        else if config.unicode.casefold server ≠ config.unicode.casefold config.expectedServer ∨
            config.unicode.casefold serverIdentity ≠
              config.unicode.casefold config.expectedServer then
          .error .serverIdentityMismatch
        else .ok (sequence, payload)
      | _, _, _, _, _ => .error .eventSchemaInvalid

inductive EventDirectory where
  | missing
  | invalid
  | present (files : List EventFile)

/-- The events directory, in the order in which it is listed, and the number in the checkpoint
file. -/
structure EventStore where
  directory : EventDirectory := .missing
  checkpoint : Option Int := none

def EventStore.files (store : EventStore) : List EventFile :=
  match store.directory with
  | .present files => files
  | _ => []

/-- A file is published: in place of the one of that name, or as another one. -/
def EventStore.arrive (store : EventStore) (file : EventFile) : EventStore :=
  match store.directory with
  | .missing => { store with directory := .present [file] }
  | .invalid => store
  | .present files =>
    if file.name ∈ files.map EventFile.name then
      let renewed := files.map fun other => if other.name = file.name then file else other
      { store with directory := .present renewed }
    else { store with directory := .present (files ++ [file]) }

def EventStore.remove (store : EventStore) (name : String) : EventStore :=
  match store.directory with
  | .present files => { store with directory := .present (files.filter (·.name ≠ name)) }
  | _ => store

/-- The answers of one call: files that arrive between its steps, files that stay locked while it
reads, the tickets of the history handoff. -/
structure EventEnv where
  checkpointWrite : WriteAnswer Unit := .done
  unlinks : List (WriteAnswer Unit) := []
  arrivals : List EventFile := []
  locked : String → Bool := fun _ => false
  handoff : Except EventFileError (List String) := .ok []

def EventEnv.nextUnlink (env : EventEnv) : WriteAnswer EventFileError × EventEnv :=
  let (answer, rest) := nextAnswer .done env.unlinks
  (answer.mapError fun _ => .cleanupFailed, { env with unlinks := rest })

def EventEnv.saveCheckpoint (env : EventEnv) : WriteAnswer EventFileError × EventEnv :=
  (env.checkpointWrite.mapError fun _ => .disk, env)

abbrev EventFileProgram (α : Type) := Program EventEnv EventStore EventFileError α

/-- `read_json(self.event_checkpoint_path, {}).get("last_sequence", 0)`. -/
def lastSequenceOf (checkpoint : Option Int) : Except EventFileError Nat :=
  match checkpoint with
  | none => .ok 0
  | some number => if number < 0 then .error .checkpointInvalid else .ok number.toNat

/-- `_prune_acknowledged_event_files`. -/
def pruneAcknowledged (through : Nat) : List EventFile → EventFileProgram Unit
  | [] => pure ()
  | file :: rest =>
    match eventNumber file.name with
    | none => pruneAcknowledged through rest
    | some number =>
      if through < number then pruneAcknowledged through rest
      else if ¬ file.regular then Program.raise .fileInvalid
      else do
        Program.write EventEnv.nextUnlink (EventStore.remove · file.name)
        pruneAcknowledged through rest

def letArrive : EventFileProgram Unit := do
  let env ← Program.getEnv
  Program.modifyWorld fun store => env.arrivals.foldl EventStore.arrive store

/-- `{"sequence": sequence, **payload}`, marked when the history has the deal. -/
def EventRecord.offered (tickets : List String) (number : Nat) (ownSequence : Option Nat)
    (record : EventRecord) : EventRecord :=
  { record with
    sequence := ownSequence.getD number
    historyArchived :=
      record.historyArchived ∨ record.eventType = .dealAdd ∧ pyStr record.deal ∈ tickets }

/-- One round of the loop of `pending_events`. -/
def readEvent (config : AdapterConfig) (locked : String → Bool) (tickets : List String)
    (last : Nat) (file : EventFile) : Except EventFileError (Option (Nat × EventRecord)) :=
  match eventNumber file.name with
  | none => .ok none
  | some number =>
    if ¬ file.regular then .error .fileInvalid
    else if number ≤ last then .ok none
    else if locked file.name then .error .eventUnavailable
    else
      match readPathEnvelope config file.content with
      | .error error => .error error
      | .ok (_, .other) => .error .eventSchemaInvalid
      | .ok (sequence, .record ownSequence record) =>
        if sequence ≠ number then .error .eventSchemaInvalid
        else .ok (some (number, record.offered tickets number ownSequence))

def sortEvents (events : List (Nat × EventRecord)) : List (Nat × EventRecord) :=
  events.insertionSort fun a b => a.1 ≤ b.1

def collectEvents (config : AdapterConfig) (last : Nat) : EventFileProgram (List EventRecord) := do
  letArrive
  let env ← Program.getEnv
  let store ← Program.getWorld
  match env.handoff with
  | .error error => Program.raise error
  | .ok tickets =>
    match store.files.mapM (readEvent config env.locked tickets last) with
    | .error error => Program.raise error
    | .ok found => return (sortEvents found.reduceOption).map Prod.snd

/-- `pending_events`. -/
def pendingEventFiles (config : AdapterConfig) : EventFileProgram (List EventRecord) := do
  let store ← Program.getWorld
  match lastSequenceOf store.checkpoint, store.directory with
  | .error error, _ => Program.raise error
  | .ok _, .missing => return []
  | .ok _, .invalid => Program.raise .directoryInvalid
  | .ok last, .present files => do
    pruneAcknowledged last files
    collectEvents config last

def pruneDirectory (through : Nat) : EventFileProgram Unit := do
  let store ← Program.getWorld
  match store.directory with
  | .missing => pure ()
  | .invalid => Program.raise .directoryInvalid
  | .present files => pruneAcknowledged through files

/-- `acknowledge_events`. -/
def acknowledgeEventFiles (through : Int) : EventFileProgram Unit := do
  let store ← Program.getWorld
  match lastSequenceOf store.checkpoint with
  | .error _ =>
    Program.raise (if through < 0 then .checkpointInvalid else .checkpointRegression)
  | .ok previous =>
    if through < 0 then Program.raise .checkpointInvalid
    else if through < previous then Program.raise .checkpointRegression
    else do
      Program.write EventEnv.saveCheckpoint fun store => { store with checkpoint := some through }
      letArrive
      pruneDirectory through.toNat

end TradeJournalWorker
