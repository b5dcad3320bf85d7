import TradeJournalWorker.SessionSafety

namespace TradeJournalWorker

open StateTriples

/-- `C012WireSchema.Version`. -/
def c012WireVersion : Int := 1

/-- `C012CanonicalPayload`: the fields that a signature covers. -/
inductive C012CanonicalPayload where
  | request (schemaVersion : Int) (sessionId : Guid) (sequenceNumber : Int) (control : C012Control)
      (requestType : C012RequestType)
  | response (schemaVersion : Int) (sessionId : Guid) (sequenceNumber : Int) (accepted : Bool)
      (resultingState : C012State) (reason : C012RejectionReason)
  deriving DecidableEq

def C012WireValidation.isLowerHex (value : String) : Bool :=
  value.toList.length == 64 &&
    value.toList.all fun c => ('0' ≤ c && c ≤ '9') || ('a' ≤ c && c ≤ 'f')

/-- HMAC-SHA256 under the secret of the session, written as lower-case hex. -/
structure HmacSha256 where
  sign : C012CanonicalPayload → String
  isHex : ∀ payload, C012WireValidation.isLowerHex (sign payload) = true

structure C012WireRequest where
  schemaVersion : Int
  sessionId : Guid
  sequenceNumber : Int
  control : C012Control
  requestType : C012RequestType
  hmacSha256Hex : String
  deriving DecidableEq

structure C012WireResponse where
  schemaVersion : Int
  sessionId : Guid
  sequenceNumber : Int
  accepted : Bool
  resultingState : C012State
  reason : C012RejectionReason
  hmacSha256Hex : String
  deriving DecidableEq

namespace C012WireRequest

def payload (request : C012WireRequest) : C012CanonicalPayload :=
  .request request.schemaVersion request.sessionId request.sequenceNumber request.control
    request.requestType

def isValid (request : C012WireRequest) : Bool :=
  request.schemaVersion == c012WireVersion && decide (1 ≤ request.sequenceNumber) &&
    C012WireValidation.isLowerHex request.hmacSha256Hex

/-- `VerifyRequest`; the text has been found to be lower-case hex before. -/
def verify (hmac : HmacSha256) (request : C012WireRequest) : Bool :=
  request.hmacSha256Hex == hmac.sign request.payload

def envelope (request : C012WireRequest) : C012RequestEnvelope :=
  ⟨request.sessionId, request.sequenceNumber, request.control, request.requestType⟩

end C012WireRequest

namespace C012WireResponse

def payload (response : C012WireResponse) : C012CanonicalPayload :=
  .response response.schemaVersion response.sessionId response.sequenceNumber response.accepted
    response.resultingState response.reason

def isValid (response : C012WireResponse) : Bool :=
  response.schemaVersion == c012WireVersion && decide (1 ≤ response.sequenceNumber) &&
    C012WireValidation.isLowerHex response.hmacSha256Hex

def verify (hmac : HmacSha256) (response : C012WireResponse) : Bool :=
  response.hmacSha256Hex == hmac.sign response.payload

end C012WireResponse

/-- `BuildSignedResponse`. -/
def buildSignedResponse (hmac : HmacSha256) (request : C012WireRequest)
    (result : C012TransitionResult) : C012WireResponse where
  schemaVersion := c012WireVersion
  sessionId := request.sessionId
  sequenceNumber := request.sequenceNumber
  accepted := result.accepted
  resultingState := result.resultingState
  reason := result.reason
  hmacSha256Hex := hmac.sign (.response c012WireVersion request.sessionId request.sequenceNumber
    result.accepted result.resultingState result.reason)

section Server

variable {σ Job Process : Type}

/-- `ProcessNextRequestAsync` for a frame that was read: the response that is written, if
any. A frame that is malformed or not authentic is refused without one. -/
def processNextRequest (hmac : HmacSha256) (L : RootProcessLauncher σ Job Process)
    (frame : Option C012WireRequest) (server : Orchestrator σ Job Process) :
    Option C012WireResponse × Orchestrator σ Job Process :=
  match frame with
  | none => (none, server)
  | some request =>
    if request.isValid && request.verify hmac then
      let (result, server') := (Orchestrator.apply L request.envelope).run server
      (some (buildSignedResponse hmac request result), server')
    else (none, server)

end Server

structure C012ClientChannel where
  sessionId : Guid
  nextSequence : Int
  deriving DecidableEq

inductive ResponseFrame where
  | closed
  | unparsable
  | response (response : C012WireResponse)

namespace C012ClientChannel

def buildRequest (hmac : HmacSha256) (client : C012ClientChannel) (control : C012Control)
    (requestType : C012RequestType) : C012WireRequest where
  schemaVersion := c012WireVersion
  sessionId := client.sessionId
  sequenceNumber := client.nextSequence
  control := control
  requestType := requestType
  hmacSha256Hex := hmac.sign (.request c012WireVersion client.sessionId client.nextSequence control
    requestType)

/-- `SendAsync` after the request was written. -/
def receive (hmac : HmacSha256) (frame : ResponseFrame) (client : C012ClientChannel) :
    Except String C012TransitionResult × C012ClientChannel :=
  match frame with
  | .closed => (.error "The server closed the connection before responding.", client)
  | .unparsable => (.error "The server response could not be parsed.", client)
  | .response response =>
    if !response.isValid then (.error "The server response is malformed.", client)
    else if response.sessionId ≠ client.sessionId ∨ response.sequenceNumber ≠ client.nextSequence
      then (.error "The server response does not match the outstanding request.", client)
    else if !response.verify hmac then (.error "The server response failed authentication.", client)
    else
      (.ok ⟨response.accepted, response.resultingState, response.reason⟩,
        if response.accepted then { client with nextSequence := client.nextSequence + 1 }
        else client)

end C012ClientChannel

/-- What the transport hands to the client in place of the response that was written. -/
inductive Delivery where
  | own
  | closed
  | unparsable
  | other (response : C012WireResponse)

structure Exchange where
  control : C012Control
  requestType : C012RequestType
  arrives : Bool
  delivery : Delivery

/-- A client, a server and the responses that the server has signed. -/
structure ChannelWorld (σ Job Process : Type) where
  client : C012ClientChannel
  server : Orchestrator σ Job Process
  signed : List C012WireResponse := []

namespace ChannelWorld

variable {σ Job Process : Type}

def request (hmac : HmacSha256) (world : ChannelWorld σ Job Process) (exchange : Exchange) :
    C012WireRequest :=
  world.client.buildRequest hmac exchange.control exchange.requestType

/-- The server's side of an exchange. -/
def answered (hmac : HmacSha256) (L : RootProcessLauncher σ Job Process)
    (world : ChannelWorld σ Job Process) (exchange : Exchange) :
    Option C012WireResponse × Orchestrator σ Job Process :=
  if exchange.arrives then
    processNextRequest hmac L (some (world.request hmac exchange)) world.server
  else (none, world.server)

def delivered (own : Option C012WireResponse) : Delivery → ResponseFrame
  | .own => own.elim .closed .response
  | .closed => .closed
  | .unparsable => .unparsable
  | .other response => .response response

/-- One request of the client with everything that comes of it. -/
def exchange (hmac : HmacSha256) (L : RootProcessLauncher σ Job Process)
    (world : ChannelWorld σ Job Process) (exchange : Exchange) :
    Except String C012TransitionResult × ChannelWorld σ Job Process :=
  let (own, server) := world.answered hmac L exchange
  let (result, client) := world.client.receive hmac (delivered own exchange.delivery)
  (result, ⟨client, server, own.toList ++ world.signed⟩)

/-- No response verifies that the server has not signed. -/
def Unforged (hmac : HmacSha256) (L : RootProcessLauncher σ Job Process)
    (world : ChannelWorld σ Job Process) (exchange : Exchange) : Prop :=
  ∀ response, exchange.delivery = .other response → response.verify hmac = true →
    response ∈ (world.exchange hmac L exchange).2.signed

/-- The client's next sequence number is the one that the server accepts next. -/
def Agreed (world : ChannelWorld σ Job Process) : Prop :=
  world.client.nextSequence = world.server.sequencer.lastAcceptedSequence + 1

end ChannelWorld

/-- Runs of the two channels; the host may fail between two requests and the launcher's world
may drift. -/
inductive ChannelRun {σ Job Process : Type} (hmac : HmacSha256)
    (L : RootProcessLauncher σ Job Process) (drift : σ → σ → Prop)
    (allowed : ChannelWorld σ Job Process → Exchange → Prop)
    (start : ChannelWorld σ Job Process) : ChannelWorld σ Job Process → Prop where
  | start : ChannelRun hmac L drift allowed start start
  | exchange {world : ChannelWorld σ Job Process} (exchange : Exchange)
      (prior : ChannelRun hmac L drift allowed start world)
      (unforged : world.Unforged hmac L exchange) (h : allowed world exchange) :
      ChannelRun hmac L drift allowed start (world.exchange hmac L exchange).2
  | failFromHost {world : ChannelWorld σ Job Process} (trigger : C012Trigger)
      (prior : ChannelRun hmac L drift allowed start world) :
      ChannelRun hmac L drift allowed start
        { world with server := L.step (.failFromHost trigger) world.server }
  | drift {world : ChannelWorld σ Job Process} (launcher : σ)
      (prior : ChannelRun hmac L drift allowed start world)
      (h : drift world.server.launcher launcher) :
      ChannelRun hmac L drift allowed start
        { world with server := { world.server with launcher := launcher } }

end TradeJournalWorker
