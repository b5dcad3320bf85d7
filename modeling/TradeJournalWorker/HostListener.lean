import TradeJournalWorker.ResponseDelivery
import TradeJournalWorker.SessionGuarantee

namespace TradeJournalWorker

open FrameReading

/-- A request as the deserializer builds it. An enumeration may hold a number that names
nothing, and the text of the tag may be null. -/
structure ReceivedRequest where
  schemaVersion : Int
  sessionId : Guid
  sequenceNumber : Int
  control : Option C012Control
  requestType : Option C012RequestType
  hmacSha256Hex : Option String
  deriving DecidableEq

/-- What `TryParseRequest` does: it returns null or a request, or it throws. -/
inductive ParsedRequest where
  | null
  | request (request : C012WireRequest)
  | throws
  deriving DecidableEq

/-- `IsValid` takes the length of the tag without a look whether it is null. -/
def tryParseRequest : Option ReceivedRequest → ParsedRequest
  | none => .null
  | some received =>
    if received.schemaVersion ≠ c012WireVersion then .null
    else
      match received.control, received.requestType with
      | some control, some requestType =>
        if received.sequenceNumber < 1 then .null
        else
          match received.hmacSha256Hex with
          | none => .throws
          | some hmacSha256Hex =>
            if C012WireValidation.isLowerHex hmacSha256Hex then
              .request ⟨received.schemaVersion, received.sessionId, received.sequenceNumber,
                control, requestType, hmacSha256Hex⟩
            else .null
      | _, _ => .null

/-- `ReadFrameAsync` on all that the peer writes before the stream ends. -/
def readFrameAsync (stream : List UInt8) : Reader :=
  let header := (Reader.header []).feed maxFrameLength (stream.take 4)
  (header.feed maxFrameLength ((stream.drop 4).take header.missing)).endOfStream

/-- One accepted connection: what the peer writes, and whether reading or the writing of the
response ends in an `IOException`. -/
structure Connection where
  stream : List UInt8
  readFails : Bool := false
  writeFails : Bool := false
  deriving DecidableEq

inductive C012ChannelOutcome where
  | requestProcessed
  | peerDisconnected
  | malformed
  | authenticationFailed
  deriving DecidableEq, Repr

/-- What the deserializer makes of a payload; null and what it throws on are `none`. -/
abbrev Deserializer := List UInt8 → Option ReceivedRequest

section Channel

variable {σ Job Process : Type} (hmac : HmacSha256) (L : RootProcessLauncher σ Job Process)
  (deserialize : Deserializer)

/-- `ProcessNextRequestAsync`: the outcome, or an exception (`none`), and the server afterwards. -/
def processNextRequestAsync (connection : Connection) (server : Orchestrator σ Job Process) :
    Option C012ChannelOutcome × Orchestrator σ Job Process :=
  if connection.readFails then (some .peerDisconnected, server)
  else
    match readFrameAsync connection.stream with
    | .closed => (some .peerDisconnected, server)
    | .frame payload =>
      match tryParseRequest (deserialize payload) with
      | .null => (some .malformed, server)
      | .throws => (none, server)
      | .request request =>
        match processNextRequest hmac L (some request) server with
        | (none, server) => (some .authenticationFailed, server)
        | (some _, server) =>
          (some (if connection.writeFails then .peerDisconnected else .requestProcessed), server)
    | _ => (some .malformed, server)

end Channel

def consecutiveUnproductiveFailureCap : Nat := 3

/-- The loop of `ListenLoopAsync`. -/
structure C012Host (σ Job Process : Type) where
  server : Orchestrator σ Job Process
  consecutiveUnproductiveFailures : Nat := 0
  broken : Bool := false

/-- What the loop meets next; the world of the launcher may drift between two turns. -/
inductive HostInput (σ : Type) where
  | connection (connection : Connection)
  | idleTimeout
  | waitFails
  | drift (launcher : σ)

def afterC2Dispatch : C012State → Bool
  | .c2Submitting => true
  | .c2LoginWindow => true
  | .c2Teardown => true
  | _ => false

namespace C012Host

variable {σ Job Process : Type}

/-- `while (sequencer.CurrentState is not Terminated and not FailedClosed)`. -/
def listens (host : C012Host σ Job Process) : Bool :=
  !host.broken && !decide host.server.sequencer.currentState.IsTerminal

variable (hmac : HmacSha256) (L : RootProcessLauncher σ Job Process) (deserialize : Deserializer)

/-- `processor.FailFromHost(trigger); break;` -/
def failAndBreak (trigger : C012Trigger) (host : C012Host σ Job Process) :
    C012Host σ Job Process :=
  { host with server := L.step (.failFromHost trigger) host.server, broken := true }

/-- One connection of the loop. -/
def serve (connection : Connection) (host : C012Host σ Job Process) : C012Host σ Job Process :=
  match processNextRequestAsync hmac L deserialize connection host.server with
  | (none, server) => { host with server := server }.failAndBreak L .operationFailed
  | (some .requestProcessed, server) =>
    { host with server := server, consecutiveUnproductiveFailures := 0 }
  | (some .peerDisconnected, server) => { host with server := server }
  | (some _, server) =>
    let counted := { host with
      server := server
      consecutiveUnproductiveFailures := host.consecutiveUnproductiveFailures + 1 }
    if afterC2Dispatch server.sequencer.currentState ||
        decide (consecutiveUnproductiveFailureCap < counted.consecutiveUnproductiveFailures) then
      counted.failAndBreak L .operationFailed
    else counted

def step (host : C012Host σ Job Process) (input : HostInput σ) : C012Host σ Job Process :=
  match input with
  | .drift launcher => { host with server := { host.server with launcher := launcher } }
  | .connection connection =>
    if host.listens then host.serve hmac L deserialize connection else host
  | .idleTimeout => if host.listens then host.failAndBreak L .timeout else host
  | .waitFails => if host.listens then host.failAndBreak L .operationFailed else host

def run (host : C012Host σ Job Process) (inputs : List (HostInput σ)) : C012Host σ Job Process :=
  inputs.foldl (step hmac L deserialize) host

end C012Host

section Frames

variable {σ Job Process : Type}

/-- The well-formed request on a connection. -/
def requestOf (deserialize : Deserializer) (connection : Connection) : Option C012WireRequest :=
  if connection.readFails then none
  else
    match readFrameAsync connection.stream with
    | .frame payload =>
      match tryParseRequest (deserialize payload) with
      | .request request => some request
      | _ => none
    | _ => none

/-- There is something on the connection, and it is no request that the session's key signed. -/
def unproductive (hmac : HmacSha256) (deserialize : Deserializer) (connection : Connection) :
    Bool :=
  !connection.readFails && decide (readFrameAsync connection.stream ≠ .closed) &&
    !(requestOf deserialize connection).any (·.verify hmac)

/-- The tag on the connection is null. -/
def nullTag (deserialize : Deserializer) (connection : Connection) : Bool :=
  !connection.readFails &&
    match readFrameAsync connection.stream with
    | .frame payload => decide (tryParseRequest (deserialize payload) = .throws)
    | _ => false

/-- The ways in which what is received may fail. -/
inductive RefusedFrame (hmac : HmacSha256) (deserialize : Deserializer)
    (sequencer : C012RequestSequencer) (connection : Connection) : Prop where
  | malformed (h : requestOf deserialize connection = none)
  | unauthentic (request : C012WireRequest) (h : requestOf deserialize connection = some request)
      (hverify : request.verify hmac = false)
  | otherSession (request : C012WireRequest) (h : requestOf deserialize connection = some request)
      (hsession : request.sessionId ≠ sequencer.sessionId)
  | replayed (request : C012WireRequest) (h : requestOf deserialize connection = some request)
      (hsequence : request.sequenceNumber ≤ sequencer.lastAcceptedSequence)
  | outOfOrder (request : C012WireRequest) (h : requestOf deserialize connection = some request)
      (hsequence : request.sequenceNumber ≠ sequencer.lastAcceptedSequence + 1)
  | illegal (request : C012WireRequest) (h : requestOf deserialize connection = some request)
      (hgate : (sequencer.apply request.envelope).1.accepted = false)

/-- The request that the sequencer accepts on this input. -/
def acceptedRequest (hmac : HmacSha256) (deserialize : Deserializer)
    (host : C012Host σ Job Process) : HostInput σ → Option C012WireRequest
  | .connection connection =>
    if host.listens then
      (requestOf deserialize connection).filter fun request =>
        request.verify hmac && (host.server.sequencer.apply request.envelope).1.accepted
    else none
  | _ => none

/-- All that the sequencer accepts over a run, in order. -/
def acceptedRequests (hmac : HmacSha256) (L : RootProcessLauncher σ Job Process)
    (deserialize : Deserializer) (host : C012Host σ Job Process) :
    List (HostInput σ) → List C012WireRequest
  | [] => []
  | input :: rest =>
    (acceptedRequest hmac deserialize host input).toList ++
      acceptedRequests hmac L deserialize (host.step hmac L deserialize input) rest

end Frames

section Channel

variable {σ Job Process : Type} {hmac : HmacSha256} {L : RootProcessLauncher σ Job Process}
  {deserialize : Deserializer} {connection : Connection} {request : C012WireRequest}
  {server : Orchestrator σ Job Process}

theorem isValid_of_tryParseRequest {received : Option ReceivedRequest}
    (h : tryParseRequest received = .request request) : request.isValid = true := by
  unfold tryParseRequest at h
  split at h
  next => cases h
  next received =>
    split at h
    next => cases h
    next hversion =>
      split at h
      next control requestType _ _ =>
        split at h
        next => cases h
        next hsequence =>
          split at h
          next => cases h
          next hex _ =>
            split at h
            next hlower =>
              cases h
              have hone : 1 ≤ received.sequenceNumber := by omega
              simp [C012WireRequest.isValid, not_not.mp hversion, hone, hlower]
            next => cases h
      next => cases h

theorem isValid_of_requestOf (h : requestOf deserialize connection = some request) :
    request.isValid = true := by
  unfold requestOf at h
  split at h
  next => cases h
  next =>
    split at h
    next =>
      split at h
      next hparse =>
        cases h
        exact isValid_of_tryParseRequest hparse
      next => cases h
    next => cases h

/-- What the channel does, by what it finds on the connection. -/
theorem processNextRequestAsync_eq (hmac : HmacSha256) (L : RootProcessLauncher σ Job Process)
    (deserialize : Deserializer) (connection : Connection) (server : Orchestrator σ Job Process) :
    processNextRequestAsync hmac L deserialize connection server =
      match requestOf deserialize connection with
      | some request =>
        if request.verify hmac then
          (some (if connection.writeFails then .peerDisconnected else .requestProcessed),
            ((Orchestrator.apply L request.envelope).run server : _ × _).2)
        else (some .authenticationFailed, server)
      | none =>
        if unproductive hmac deserialize connection then
          (if nullTag deserialize connection then none else some .malformed, server)
        else (some .peerDisconnected, server) := by
  cases hrequest : requestOf deserialize connection with
  | some request =>
    have hvalid := isValid_of_requestOf hrequest
    unfold requestOf at hrequest
    unfold processNextRequestAsync
    split at hrequest
    next => cases hrequest
    next hread =>
      rw [if_neg hread]
      split at hrequest
      next payload hframe =>
        split at hrequest
        next parsed hparse =>
          cases hrequest
          simp only [hframe, hparse, processNextRequest, hvalid, Bool.true_and]
          cases hverify : request.verify hmac with
          | true => rfl
          | false => rfl
        next => cases hrequest
      next => cases hrequest
  | none =>
    have hbare : unproductive hmac deserialize connection =
        (!connection.readFails && decide (readFrameAsync connection.stream ≠ .closed)) := by
      rw [unproductive, hrequest]
      simp
    simp only [hbare]
    unfold requestOf at hrequest
    unfold processNextRequestAsync nullTag
    cases hread : connection.readFails with
    | true => simp
    | false =>
      simp only [hread, Bool.false_eq_true, if_false] at hrequest ⊢
      cases hframe : readFrameAsync connection.stream with
      | frame payload =>
        simp only [hframe] at hrequest ⊢
        obtain ⟨parsed, hparse⟩ : ∃ parsed, tryParseRequest (deserialize payload) = parsed :=
          ⟨_, rfl⟩
        simp only [hparse] at hrequest ⊢
        cases parsed with
        | null => simp
        | throws => simp
        | request request => cases hrequest
      | closed => simp
      | header got => simp
      | payload declared got => simp
      | failed message => simp

/-- An authentic request that the sequencer does not accept is answered and nothing else. -/
theorem apply_refused (h : (server.sequencer.apply request.envelope).1.accepted = false) :
    ((Orchestrator.apply L request.envelope).run server : _ × _).2 = server := by
  rw [gate_rejected h]

/-- What is refused is malformed, not authentic or not accepted. -/
theorem RefusedFrame.cases_of (h : RefusedFrame hmac deserialize server.sequencer connection) :
    requestOf deserialize connection = none ∨
      ∃ request, requestOf deserialize connection = some request ∧
        (request.verify hmac = true →
          (server.sequencer.apply request.envelope).1.accepted = false) := by
  have hgate : ∀ request : C012WireRequest,
      ¬ (request.sessionId = server.sequencer.sessionId ∧
        request.sequenceNumber = server.sequencer.lastAcceptedSequence + 1) →
      (server.sequencer.apply request.envelope).1.accepted = false := by
    intro request hother
    obtain ⟨reason, hrejected⟩ | ⟨trigger, next, hsession, hsequence, -⟩ :=
      C012RequestSequencer.apply_cases server.sequencer request.envelope
    · rw [hrejected]
      rfl
    · exact absurd ⟨hsession, hsequence⟩ hother
  cases h with
  | malformed h => exact Or.inl h
  | unauthentic request h hverify =>
    exact Or.inr ⟨request, h, fun htrue => absurd (hverify.symm.trans htrue) Bool.false_ne_true⟩
  | otherSession request h hsession =>
    exact Or.inr ⟨request, h, fun _ => hgate request fun hboth => hsession hboth.1⟩
  | replayed request h hsequence =>
    refine Or.inr ⟨request, h, fun _ => hgate request fun hboth => ?_⟩
    have := hboth.2
    omega
  | outOfOrder request h hsequence =>
    exact Or.inr ⟨request, h, fun _ => hgate request fun hboth => hsequence hboth.2⟩
  | illegal request h hgate => exact Or.inr ⟨request, h, fun _ => hgate⟩

/-- The channel leaves the server as it is, whatever is refused and for whatever reason. -/
theorem processNextRequestAsync_refused
    (h : RefusedFrame hmac deserialize server.sequencer connection) :
    (processNextRequestAsync hmac L deserialize connection server).2 = server := by
  rw [processNextRequestAsync_eq]
  rcases h.cases_of with hnone | ⟨request, hrequest, hgate⟩
  · rw [hnone]
    simp only
    split <;> rfl
  · rw [hrequest]
    simp only
    split
    next hverify => exact apply_refused (hgate hverify)
    next => rfl

end Channel

section Host

variable {σ Job Process : Type} {hmac : HmacSha256} {L : RootProcessLauncher σ Job Process}
  {deserialize : Deserializer} {connection : Connection} {host : C012Host σ Job Process}

/-- The loop gives the session up over this connection. -/
def C012Host.givesUpOn (hmac : HmacSha256) (deserialize : Deserializer) (connection : Connection)
    (host : C012Host σ Job Process) : Bool :=
  host.listens && unproductive hmac deserialize connection &&
    (afterC2Dispatch host.server.sequencer.currentState ||
      decide (consecutiveUnproductiveFailureCap ≤ host.consecutiveUnproductiveFailures))

/-- A refused frame at the loop. -/
theorem step_refused
    (h : RefusedFrame hmac deserialize host.server.sequencer connection)
    (hnull : nullTag deserialize connection = false) :
    (host.step hmac L deserialize (.connection connection)).server =
      if host.givesUpOn hmac deserialize connection then
        L.step (.failFromHost .operationFailed) host.server
      else host.server := by
  have hcap : ∀ count : Nat, decide (consecutiveUnproductiveFailureCap < count + 1) =
      decide (consecutiveUnproductiveFailureCap ≤ count) := by
    intro count
    rw [decide_eq_decide]
    omega
  unfold C012Host.step C012Host.givesUpOn
  simp only
  cases hlistens : host.listens with
  | false => rfl
  | true =>
    simp only [if_true, Bool.true_and]
    unfold C012Host.serve
    rw [processNextRequestAsync_eq]
    rcases h.cases_of with hnone | ⟨request, hrequest, hgate⟩
    · rw [hnone]
      simp only [hnull, Bool.false_eq_true, if_false]
      cases hunproductive : unproductive hmac deserialize connection with
      | false => simp
      | true =>
        simp only [if_true, Bool.true_and, hcap]
        split <;> rfl
    · rw [hrequest]
      simp only
      cases hverify : request.verify hmac with
      | true =>
        have hproductive : unproductive hmac deserialize connection = false := by
          rw [unproductive, hrequest]
          simp [hverify]
        simp only [if_true, hproductive, Bool.false_and, Bool.false_eq_true, if_false,
          apply_refused (L := L) (hgate hverify)]
        cases connection.writeFails <;> rfl
      | false =>
        have hunproductive : unproductive hmac deserialize connection = true := by
          unfold unproductive
          rw [hrequest]
          unfold requestOf at hrequest
          split at hrequest
          next => cases hrequest
          next hread =>
            split at hrequest
            next payload hframe => simp [hread, hframe, hverify]
            next => cases hrequest
        simp only [Bool.false_eq_true, if_false, hunproductive, Bool.true_and, hcap]
        split <;> rfl

theorem failAndBreak_sequence (trigger : C012Trigger) (host : C012Host σ Job Process) :
    (host.failAndBreak L trigger).server.sequencer.lastAcceptedSequence =
      host.server.sequencer.lastAcceptedSequence :=
  (keepsSequence_failFromHost L trigger _ _ host.server ⟨rfl, rfl⟩).2

/-- Only the channel moves the sequence, the loop never does. -/
theorem serve_sequence (connection : Connection) (host : C012Host σ Job Process) :
    (host.serve hmac L deserialize connection).server.sequencer.lastAcceptedSequence =
      (processNextRequestAsync hmac L deserialize connection
        host.server).2.sequencer.lastAcceptedSequence := by
  unfold C012Host.serve
  split
  next server heq =>
    rw [failAndBreak_sequence, heq]
  next server heq => rw [heq]
  next server heq => rw [heq]
  next server _ _ heq =>
    simp only
    split
    · rw [failAndBreak_sequence, heq]
    · rw [heq]

/-- An accepted request has the next number, and that number is the last one afterwards. -/
theorem apply_accepted {server : Orchestrator σ Job Process} {request : C012WireRequest}
    (h : (server.sequencer.apply request.envelope).1.accepted = true) :
    request.sequenceNumber = server.sequencer.lastAcceptedSequence + 1 ∧
      ((Orchestrator.apply L request.envelope).run server
        : _ × _).2.sequencer.lastAcceptedSequence = request.sequenceNumber := by
  obtain ⟨reason, hrejected⟩ | ⟨trigger, next, -, hsequence, hmap, -, -, happly⟩ :=
    C012RequestSequencer.apply_cases server.sequencer request.envelope
  · rw [hrejected] at h
    cases h
  · have hkept := keepsSequence_command L trigger _ _
      (server.gated next request.sequenceNumber) ⟨rfl, rfl⟩
    have hrun : (Orchestrator.apply L request.envelope).run server =
        (Orchestrator.command L trigger).run (server.gated next request.sequenceNumber) :=
      gate_accepted hmap happly
    rw [hrun]
    exact ⟨hsequence, hkept.2⟩

theorem acceptedRequest_eq_some {input : HostInput σ} {request : C012WireRequest}
    (h : acceptedRequest hmac deserialize host input = some request) :
    ∃ connection, input = .connection connection ∧ host.listens = true ∧
      requestOf deserialize connection = some request ∧ request.verify hmac = true ∧
      (host.server.sequencer.apply request.envelope).1.accepted = true := by
  unfold acceptedRequest at h
  split at h
  next connection =>
    split at h
    next hlistens =>
      obtain ⟨hrequest, hboth⟩ := Option.filter_eq_some_iff.mp h
      rw [Bool.and_eq_true] at hboth
      exact ⟨connection, rfl, hlistens, hrequest, hboth.1, hboth.2⟩
    next => cases h
  next => cases h

theorem step_accepted {input : HostInput σ} {request : C012WireRequest}
    (h : acceptedRequest hmac deserialize host input = some request) :
    request.sequenceNumber = host.server.sequencer.lastAcceptedSequence + 1 ∧
      (host.step hmac L deserialize input).server.sequencer.lastAcceptedSequence =
        request.sequenceNumber := by
  obtain ⟨connection, rfl, hlistens, hrequest, hverify, hgate⟩ := acceptedRequest_eq_some h
  obtain ⟨hnext, hlast⟩ := apply_accepted (L := L) hgate
  refine ⟨hnext, ?_⟩
  unfold C012Host.step
  simp only [hlistens, if_true]
  rw [serve_sequence, processNextRequestAsync_eq, hrequest]
  simp only [hverify, if_true]
  exact hlast

theorem step_unaccepted {input : HostInput σ}
    (h : acceptedRequest hmac deserialize host input = none) :
    (host.step hmac L deserialize input).server.sequencer.lastAcceptedSequence =
      host.server.sequencer.lastAcceptedSequence := by
  unfold C012Host.step
  cases input with
  | drift launcher => rfl
  | idleTimeout =>
    simp only
    split
    · exact failAndBreak_sequence _ _
    · rfl
  | waitFails =>
    simp only
    split
    · exact failAndBreak_sequence _ _
    · rfl
  | connection connection =>
    simp only
    split
    next hlistens =>
      have hrefused : RefusedFrame hmac deserialize host.server.sequencer connection := by
        cases hrequest : requestOf deserialize connection with
        | none => exact .malformed hrequest
        | some request =>
          unfold acceptedRequest at h
          simp only [hlistens, if_true, hrequest] at h
          cases hverify : request.verify hmac with
          | false => exact .unauthentic request hrequest hverify
          | true =>
            refine .illegal request hrequest ?_
            rw [← Bool.not_eq_true]
            intro hgate
            simp [Option.filter, hverify, hgate] at h
      rw [serve_sequence, processNextRequestAsync_refused hrefused]
    next => rfl

/-- The numbers that are accepted over a run rise from the last one before it. -/
theorem acceptedRequests_rise (hmac : HmacSha256) (L : RootProcessLauncher σ Job Process)
    (deserialize : Deserializer) (inputs : List (HostInput σ)) (host : C012Host σ Job Process) :
    (∀ request ∈ acceptedRequests hmac L deserialize host inputs,
      host.server.sequencer.lastAcceptedSequence < request.sequenceNumber) ∧
    ((acceptedRequests hmac L deserialize host inputs).map
      C012WireRequest.sequenceNumber).Pairwise (· < ·) := by
  induction inputs generalizing host with
  | nil => exact ⟨by simp [acceptedRequests], by simp [acceptedRequests]⟩
  | cons input rest ih =>
    obtain ⟨hlater, hrise⟩ := ih (host.step hmac L deserialize input)
    unfold acceptedRequests
    cases haccepted : acceptedRequest hmac deserialize host input with
    | none =>
      rw [step_unaccepted haccepted] at hlater
      exact ⟨hlater, hrise⟩
    | some request =>
      obtain ⟨hnext, hlast⟩ := step_accepted (L := L) haccepted
      rw [hlast] at hlater
      simp only [Option.toList_some, List.singleton_append, List.map_cons, List.pairwise_cons,
        List.mem_cons, forall_eq_or_imp, List.mem_map, forall_exists_index, and_imp,
        forall_apply_eq_imp_iff₂]
      refine ⟨⟨by omega, fun other hother => ?_⟩, hlater, hrise⟩
      have := hlater other hother
      omega

/-- What is accepted has been signed by who has the key, if tags are not forged. -/
theorem acceptedRequests_signed {signed : C012CanonicalPayload → Prop}
    (inputs : List (HostInput σ)) (host : C012Host σ Job Process)
    (hunforged : ∀ connection, .connection connection ∈ inputs → ∀ request,
      requestOf deserialize connection = some request → request.verify hmac = true →
      signed request.payload) :
    ∀ request ∈ acceptedRequests hmac L deserialize host inputs, signed request.payload := by
  induction inputs generalizing host with
  | nil => simp [acceptedRequests]
  | cons input rest ih =>
    intro request hrequest
    unfold acceptedRequests at hrequest
    rcases List.mem_append.mp hrequest with hhere | hlater
    · obtain ⟨connection, rfl, -, hfound, hverify, -⟩ :=
        acceptedRequest_eq_some (Option.mem_toList.mp hhere)
      exact hunforged connection List.mem_cons_self request hfound hverify
    · exact ih _ (fun connection hmem => hunforged connection (List.mem_cons_of_mem _ hmem))
        request hlater

end Host

/-- Whatever is received and is malformed, not authentic, repeated or out of order leaves the
server as it is, unless it is the frame over which the loop gives the session up; and over a
session no number is accepted twice, nor anything that the key did not sign. -/
theorem refused_without_effect {σ Job Process : Type} (hmac : HmacSha256)
    (L : RootProcessLauncher σ Job Process) (deserialize : Deserializer)
    (start : C012Host σ Job Process) (inputs : List (HostInput σ)) :
    (∀ connection server, RefusedFrame hmac deserialize server.sequencer connection →
      (processNextRequestAsync hmac L deserialize connection server).2 = server) ∧
    (∀ before connection after, inputs = before ++ .connection connection :: after →
      let host := start.run hmac L deserialize before
      RefusedFrame hmac deserialize host.server.sequencer connection →
      nullTag deserialize connection = false →
      (host.step hmac L deserialize (.connection connection)).server =
        if host.givesUpOn hmac deserialize connection then
          L.step (.failFromHost .operationFailed) host.server
        else host.server) ∧
    ((acceptedRequests hmac L deserialize start inputs).map
      C012WireRequest.sequenceNumber).Nodup ∧
    ∀ signed : C012CanonicalPayload → Prop,
      (∀ connection, .connection connection ∈ inputs → ∀ request,
        requestOf deserialize connection = some request → request.verify hmac = true →
        signed request.payload) →
      ∀ request ∈ acceptedRequests hmac L deserialize start inputs, signed request.payload := by
  refine ⟨fun connection server h => processNextRequestAsync_refused h,
    fun before connection after _ h hnull => step_refused h hnull, ?_,
    fun signed hunforged => acceptedRequests_signed inputs start hunforged⟩
  have hrise := (acceptedRequests_rise hmac L deserialize inputs start).2
  exact hrise.imp fun hlt => Int.ne_of_lt hlt

/-- A host that has just begun to listen. -/
def C012Host.fresh (sessionId : Guid) : C012Host Unit Nat Nat where
  server := { sequencer := { sessionId := sessionId }, launcher := () }

/-- One byte and the end of the stream. -/
def brokenOff : Connection := { stream := [0] }

/-- The fourth broken frame in a row ends the session. -/
theorem fourth_broken_frame_ends_session :
    ¬ ∀ (hmac : HmacSha256) (L : RootProcessLauncher Unit Nat Nat) (deserialize : Deserializer)
      (sessionId : Guid) (inputs : List (HostInput Unit)) (connection : Connection),
      nullTag deserialize connection = false →
      RefusedFrame hmac deserialize
        ((C012Host.fresh sessionId).run hmac L deserialize inputs).server.sequencer connection →
      (((C012Host.fresh sessionId).run hmac L deserialize inputs).step hmac L deserialize
        (.connection connection)).server.sequencer =
          ((C012Host.fresh sessionId).run hmac L deserialize inputs).server.sequencer := by
  intro h
  have hsame := h zeroHmac joblessLauncher (fun _ => none) 7
    [.connection brokenOff, .connection brokenOff, .connection brokenOff] brokenOff (by decide)
    (.malformed (by decide))
  have hstate := congrArg C012RequestSequencer.currentState hsame
  revert hstate
  decide

end TradeJournalWorker
