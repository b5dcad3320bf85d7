import TradeJournalWorker.FrameReading
import TradeJournalWorker.SessionGuarantee

namespace TradeJournalWorker

open FrameReading

def maxFrameLength : Nat := 8192

/-- Where the host is with the response of a processed request. -/
inductive ServerPoint where
  | lengthPrefix
  | payload
  | flush
  | disconnect
  | disconnected
  deriving DecidableEq, Repr

/-- One connection after the request was processed: `wire` is written and not yet read. -/
structure PipeSession where
  server : ServerPoint
  wire : List UInt8
  reader : Reader
  deriving DecidableEq, Repr

namespace PipeSession

def start : PipeSession := ⟨.lengthPrefix, [], .header []⟩

/-- `Disconnect` discards what the client has not read. -/
def disconnect (session : PipeSession) : PipeSession :=
  { session with server := .disconnected, wire := [] }

end PipeSession

/-- A step of the host or of the client. A write and the flush wait for nobody; the idle
timeout may cut them off, and the host disconnects then as well. -/
inductive PipeStep (payload : List UInt8) : PipeSession → PipeSession → Prop where
  | writeLengthPrefix {session : PipeSession} (h : session.server = .lengthPrefix) :
      PipeStep payload session { session with
        server := .payload, wire := session.wire ++ encodeLength payload.length }
  | writePayload {session : PipeSession} (h : session.server = .payload) :
      PipeStep payload session { session with server := .flush, wire := session.wire ++ payload }
  | flush {session : PipeSession} (h : session.server = .flush) :
      PipeStep payload session { session with server := .disconnect }
  | idleTimeout {session : PipeSession} (h : session.server ≠ .disconnected) :
      PipeStep payload session { session with server := .disconnect }
  | disconnect {session : PipeSession} (h : session.server = .disconnect) :
      PipeStep payload session session.disconnect
  | read {session : PipeSession} (count : Nat) (hpositive : 0 < count)
      (hwire : count ≤ session.wire.length) (hmissing : count ≤ session.reader.missing) :
      PipeStep payload session { session with
        wire := session.wire.drop count
        reader := session.reader.feed maxFrameLength (session.wire.take count) }
  | endOfStream {session : PipeSession} (h : session.server = .disconnected)
      (hwire : session.wire = []) :
      PipeStep payload session { session with reader := session.reader.endOfStream }

inductive PipeRun (payload : List UInt8) (start : PipeSession) : PipeSession → Prop where
  | start : PipeRun payload start start
  | step {session session' : PipeSession} (prior : PipeRun payload start session)
      (h : PipeStep payload session session') : PipeRun payload start session'

/-- What the host still has to write, unless it was cut off. -/
def ServerPoint.Unwritten (payload : List UInt8) (unwritten : List UInt8) : ServerPoint → Prop
  | .lengthPrefix => unwritten = frameBytes payload
  | .payload => unwritten = payload
  | .flush => unwritten = []
  | .disconnect => True
  | .disconnected => False

/-- Until the host disconnects, the client is on its way through the response. -/
def OnItsWay (payload : List UInt8) (session : PipeSession) : Prop :=
  session.server ≠ .disconnected → ∃ unwritten, session.server.Unwritten payload unwritten ∧
    Ahead payload session.reader (session.wire ++ unwritten)

section Runs

variable {payload : List UInt8} {session session' : PipeSession}

theorem onItsWay_start : OnItsWay payload .start := by
  intro _
  exact ⟨frameBytes payload, rfl, ahead_start payload⟩

theorem OnItsWay.step (hpayload : 1 ≤ payload.length ∧ payload.length ≤ maxFrameLength)
    (h : OnItsWay payload session) (hstep : PipeStep payload session session') :
    OnItsWay payload session' := by
  intro hconnected
  cases hstep with
  | writeLengthPrefix hserver =>
    obtain ⟨unwritten, hunwritten, hahead⟩ := h (by rw [hserver]; decide)
    rw [hserver] at hunwritten
    have hframe : unwritten = encodeLength payload.length ++ payload := hunwritten
    refine ⟨payload, rfl, ?_⟩
    rw [hframe, ← List.append_assoc] at hahead
    exact hahead
  | writePayload hserver =>
    obtain ⟨unwritten, hunwritten, hahead⟩ := h (by rw [hserver]; decide)
    rw [hserver] at hunwritten
    have hpayload : unwritten = payload := hunwritten
    refine ⟨[], rfl, ?_⟩
    rw [hpayload] at hahead
    rw [List.append_nil]
    exact hahead
  | flush hserver =>
    obtain ⟨unwritten, _, hahead⟩ := h (by rw [hserver]; decide)
    exact ⟨unwritten, trivial, hahead⟩
  | idleTimeout hserver =>
    obtain ⟨unwritten, _, hahead⟩ := h hserver
    exact ⟨unwritten, trivial, hahead⟩
  | disconnect hserver => exact absurd rfl hconnected
  | read count hpositive hwire hmissing =>
    obtain ⟨unwritten, hunwritten, hahead⟩ := h hconnected
    refine ⟨unwritten, hunwritten, ?_⟩
    have hsplit : session.wire ++ unwritten =
        session.wire.take count ++ (session.wire.drop count ++ unwritten) := by
      rw [← List.append_assoc, List.take_append_drop]
    rw [hsplit] at hahead
    have hlength : (session.wire.take count).length = count := by
      rw [List.length_take]
      omega
    exact hahead.feed (by omega) hpayload (by decide)
  | endOfStream hserver hwire => exact absurd hserver hconnected

theorem onItsWay_of_run (hpayload : 1 ≤ payload.length ∧ payload.length ≤ maxFrameLength)
    (run : PipeRun payload .start session) : OnItsWay payload session := by
  induction run with
  | start => exact onItsWay_start
  | step prior hstep ih => exact ih.step hpayload hstep

/-- Nothing reaches the client after the disconnect. -/
structure CutOff (before : Reader) (session : PipeSession) : Prop where
  server_eq : session.server = .disconnected
  wire_eq : session.wire = []
  reader_eq : session.reader = before ∨ session.reader = before.endOfStream

theorem endOfStream_idem (reader : Reader) : reader.endOfStream.endOfStream = reader.endOfStream := by
  cases reader with
  | header got => cases got <;> rfl
  | payload declared got => rfl
  | frame received => rfl
  | closed => rfl
  | failed message => rfl

theorem CutOff.step {before : Reader} (h : CutOff before session)
    (hstep : PipeStep payload session session') : CutOff before session' := by
  have hserver := h.server_eq
  cases hstep with
  | writeLengthPrefix hpoint => cases hserver.symm.trans hpoint
  | writePayload hpoint => cases hserver.symm.trans hpoint
  | flush hpoint => cases hserver.symm.trans hpoint
  | idleTimeout hpoint => exact absurd hserver hpoint
  | disconnect hpoint => cases hserver.symm.trans hpoint
  | read count hpositive hwire hmissing =>
    rw [h.wire_eq] at hwire
    have hzero : count ≤ 0 := hwire
    omega
  | endOfStream hpoint hwire =>
    refine ⟨hserver, h.wire_eq, ?_⟩
    right
    obtain hsame | hend := h.reader_eq
    · exact congrArg Reader.endOfStream hsame
    · show session.reader.endOfStream = before.endOfStream
      rw [hend, endOfStream_idem]

theorem cutOff_of_run {before : PipeSession} (run : PipeRun payload before.disconnect session) :
    CutOff before.reader session := by
  induction run with
  | start => exact ⟨rfl, rfl, .inl rfl⟩
  | step prior hstep ih => exact ih.step hstep

end Runs

/-- `C012SessionSequenceState`. -/
structure C012SessionSequenceState where
  sequenceNumber : Int
  pending : Bool
  deriving DecidableEq, Repr

/-- What `SendAsync` makes of the reader's end. -/
def responseFrame (parse : List UInt8 → Option C012WireResponse) : Reader → Except String ResponseFrame
  | .frame payload => .ok ((parse payload).elim .unparsable .response)
  | .failed message => .error message
  | _ => .ok .closed

/-- The cursor after `SendOverAcquiredCursorAsync`, which wrote it as pending before. -/
def cursorAfter (hmac : HmacSha256) (parse : List UInt8 → Option C012WireResponse)
    (client : C012ClientChannel) (reader : Reader) : C012SessionSequenceState :=
  match responseFrame parse reader with
  | .error _ => ⟨client.nextSequence, true⟩
  | .ok frame =>
    match (client.receive hmac frame).1 with
    | .error _ => ⟨client.nextSequence, true⟩
    | .ok result =>
      ⟨if result.accepted then client.nextSequence + 1 else client.nextSequence, false⟩

/-- A client that reads in time has the frame when the host disconnects. -/
theorem prompt_run {payload : List UInt8}
    (hpayload : 1 ≤ payload.length ∧ payload.length ≤ maxFrameLength) :
    PipeRun payload .start ⟨.disconnect, [], .frame payload⟩ := by
  have h1 : PipeRun payload .start ⟨.payload, encodeLength payload.length, .header []⟩ :=
    .step .start (.writeLengthPrefix rfl)
  have h2 := h1.step (.read 4 (by decide) (Nat.le_refl 4) (Nat.le_refl 4))
  have htake : (encodeLength payload.length).take 4 = encodeLength payload.length := rfl
  have hdrop : (encodeLength payload.length).drop 4 = [] := rfl
  dsimp only at h2
  rw [htake, hdrop, Reader.feed_header hpayload (by decide)] at h2
  have h3 : PipeRun payload .start ⟨.flush, payload, .payload payload.length []⟩ :=
    h2.step (.writePayload rfl)
  have h4 : PipeRun payload .start ⟨.disconnect, payload, .payload payload.length []⟩ :=
    h3.step (.flush rfl)
  have h5 := h4.step (.read payload.length (by omega) (Nat.le_refl _) (Nat.le_refl _))
  dsimp only at h5
  rw [List.take_length, List.drop_length, Reader.feed_payload] at h5
  exact h5

section Delivery

variable {hmac : HmacSha256} {parse : List UInt8 → Option C012WireResponse}
  {client : C012ClientChannel} {control : C012Control} {requestType : C012RequestType}
  {result : C012TransitionResult} {payload : List UInt8}

theorem cursorAfter_frame (hsequence : 1 ≤ client.nextSequence)
    (hparse : parse payload =
      some (buildSignedResponse hmac (client.buildRequest hmac control requestType) result)) :
    cursorAfter hmac parse client (.frame payload) =
      ⟨if result.accepted then client.nextSequence + 1 else client.nextSequence, false⟩ := by
  have hframe : responseFrame parse (.frame payload) = .ok (.response
      (buildSignedResponse hmac (client.buildRequest hmac control requestType) result)) := by
    simp [responseFrame, hparse]
  unfold cursorAfter
  rw [hframe]
  dsimp only
  rw [receive_own hmac hsequence]

theorem cursorAfter_endOfStream {reader : Reader} (h : reader.ended = false) :
    cursorAfter hmac parse client reader.endOfStream = ⟨client.nextSequence, true⟩ := by
  cases reader with
  | header got => cases got <;> rfl
  | payload declared got => rfl
  | frame received => cases h
  | closed => cases h
  | failed message => cases h

/-- A client that the disconnect cut off is left with a pending cursor. -/
theorem pending_of_cut_off {before after : PipeSession}
    (hpayload : 1 ≤ payload.length ∧ payload.length ≤ maxFrameLength)
    (run : PipeRun payload .start before) (hserver : before.server = .disconnect)
    (rest : PipeRun payload before.disconnect after) (hended : after.reader.ended = true)
    (hlate : before.reader ≠ .frame payload) :
    cursorAfter hmac parse client after.reader = ⟨client.nextSequence, true⟩ := by
  have hcut := cutOff_of_run rest
  obtain ⟨unwritten, _, hahead⟩ := onItsWay_of_run hpayload run (by rw [hserver]; decide)
  have hunended : before.reader.ended = false := by
    cases hreader : before.reader with
    | header got => rfl
    | payload declared got => rfl
    | frame received =>
      rw [hreader] at hahead hlate
      exact absurd (congrArg Reader.frame hahead.1) hlate
    | closed =>
      rw [hreader] at hahead
      exact hahead.elim
    | failed message =>
      rw [hreader] at hahead
      exact hahead.elim
  obtain hsame | hend := hcut.reader_eq
  · rw [hsame, hunended] at hended
    cases hended
  · rw [hend]
    exact cursorAfter_endOfStream hunended

/-- A client reads the whole response, and its cursor is clean, exactly when it had read the
whole response before the host disconnected; otherwise its cursor stays pending. -/
theorem delivered_iff_read_before_disconnect {before after : PipeSession}
    (hsequence : 1 ≤ client.nextSequence)
    (hpayload : 1 ≤ payload.length ∧ payload.length ≤ maxFrameLength)
    (hparse : parse payload =
      some (buildSignedResponse hmac (client.buildRequest hmac control requestType) result))
    (run : PipeRun payload .start before) (hserver : before.server = .disconnect)
    (rest : PipeRun payload before.disconnect after) (hended : after.reader.ended = true) :
    ((after.reader = .frame payload ∧ cursorAfter hmac parse client after.reader =
        ⟨if result.accepted then client.nextSequence + 1 else client.nextSequence, false⟩) ↔
      before.reader = .frame payload) ∧
    (before.reader ≠ .frame payload →
      cursorAfter hmac parse client after.reader = ⟨client.nextSequence, true⟩) := by
  have hcut := cutOff_of_run rest
  refine ⟨?_, pending_of_cut_off hpayload run hserver rest hended⟩
  constructor
  · intro ⟨hframe, _⟩
    obtain hsame | hend := hcut.reader_eq
    · exact hsame.symm.trans hframe
    · rw [hend] at hframe
      cases hreader : before.reader with
      | header got =>
        rw [hreader] at hframe
        cases got <;> cases hframe
      | payload declared got =>
        rw [hreader] at hframe
        cases hframe
      | frame received =>
        rw [hreader] at hframe
        exact hframe
      | closed =>
        rw [hreader] at hframe
        cases hframe
      | failed message =>
        rw [hreader] at hframe
        cases hframe
  · intro hframe
    have hafter : after.reader = .frame payload := by
      obtain hsame | hend := hcut.reader_eq
      · exact hsame.trans hframe
      · rw [hend, hframe]
        rfl
    refine ⟨hafter, ?_⟩
    rw [hafter]
    exact cursorAfter_frame hsequence hparse

end Delivery

/-- The response to the first request of session 7, as it is written. -/
def retainedResponse : C012WireResponse where
  schemaVersion := 1
  sessionId := 7
  sequenceNumber := 1
  accepted := true
  resultingState := .c0Retained
  reason := .none
  hmacSha256Hex := String.ofList (List.replicate 64 '0')

def retainedBytes : List UInt8 :=
  (("\x7b\"schema_version\":1,\"c012_session_id\":\"00000000-0000-0000-0000-000000000007\"," ++
    "\"sequence_number\":1,\"accepted\":true,\"resulting_state\":\"C0Retained\"," ++
    "\"reason\":\"None\",\"hmac_sha256\":\"").toList ++ List.replicate 64 '0' ++
    "\"\x7d".toList).map fun c => UInt8.ofNat c.toNat

def parseRetained (bytes : List UInt8) : Option C012WireResponse :=
  if bytes = retainedBytes then some retainedResponse else none

/-- The host writes the response and disconnects before the client reads. -/
def unreadSession : PipeSession := ⟨.disconnect, frameBytes retainedBytes, .header []⟩

theorem unread_response_lost :
    PipeRun retainedBytes .start unreadSession ∧
      PipeRun retainedBytes unreadSession.disconnect ⟨.disconnected, [], .closed⟩ ∧
      cursorAfter zeroHmac parseRetained ⟨7, 1⟩ .closed = ⟨1, true⟩ := by
  have h1 : PipeRun retainedBytes .start _ := .step .start (.writeLengthPrefix rfl)
  have h2 : PipeRun retainedBytes .start _ := h1.step (.writePayload rfl)
  have h3 : PipeRun retainedBytes .start _ := h2.step (.flush rfl)
  exact ⟨h3, .step .start (.endOfStream rfl rfl), rfl⟩

theorem read_response_delivered :
    cursorAfter zeroHmac parseRetained ⟨7, 1⟩ (.frame retainedBytes) = ⟨2, false⟩ := by
  have hlength : 1 ≤ retainedBytes.length ∧ retainedBytes.length ≤ maxFrameLength := by
    decide +kernel
  have hparse : parseRetained retainedBytes = some (buildSignedResponse zeroHmac
      (C012ClientChannel.buildRequest zeroHmac ⟨7, 1⟩ .c0 .start) ⟨true, .c0Retained, .none⟩) := by
    unfold parseRetained
    rw [if_pos rfl]
    rfl
  have hdelivered := delivered_iff_read_before_disconnect (by decide) hlength hparse
    (prompt_run hlength) rfl .start rfl
  exact (hdelivered.1.mpr rfl).2

end TradeJournalWorker
