import TradeJournalWorker.HostListener
import TradeJournalWorker.PortionedReads

namespace TradeJournalWorker.C012FrameCodec

open FrameReading PortionedReads

def lengthPrefixSize : Nat := 4

/-- The stream is the list of the bytes written so far. -/
def writeFrameAsync (stream payload : List UInt8) : Except String (List UInt8) :=
  if payload.length < 1 ∨ payload.length > maxFrameLength then
    .error "Frame payload length is out of the allowed range."
  else .ok (stream ++ encodeLength payload.length ++ payload)

/-- Loops until the buffer holds `size` bytes or the stream ends. -/
def readExactAsync (size : Nat) (buffer : List UInt8) (stream : Source UInt8) :
    List UInt8 × Source UInt8 :=
  if size ≤ buffer.length then (buffer, stream)
  else if (stream.read (size - buffer.length)).1 = [] then
    (buffer, (stream.read (size - buffer.length)).2)
  else
    readExactAsync size (buffer ++ (stream.read (size - buffer.length)).1)
      (stream.read (size - buffer.length)).2
termination_by size - buffer.length
decreasing_by
  have hread := List.length_pos_of_ne_nil ‹¬ (stream.read (size - buffer.length)).1 = []›
  rw [List.length_append]
  omega

/-- `none` is the clean end of the stream, before any byte of a header. -/
def readFrameAsync (stream : Source UInt8) :
    Except String (Option (List UInt8)) × Source UInt8 :=
  let (header, stream) := readExactAsync lengthPrefixSize [] stream
  if header.length = 0 then (.ok none, stream)
  else if header.length < lengthPrefixSize then
    (.error "Stream ended mid-length-prefix.", stream)
  else
    let declaredLength := decodeLength header
    if declaredLength = 0 ∨ declaredLength > maxFrameLength then
      (.error "Declared frame length is out of the allowed range.", stream)
    else
      let (payload, stream) := readExactAsync declaredLength [] stream
      if payload.length < declaredLength then (.error "Stream ended mid-payload.", stream)
      else (.ok (some payload), stream)

/-- However the bytes arrive, what is read is the beginning of what was to come. -/
theorem readExactAsync_spec (size : Nat) (buffer : List UInt8) (stream : Source UInt8) :
    (readExactAsync size buffer stream).1 = buffer ++ stream.rest.take (size - buffer.length) ∧
      (readExactAsync size buffer stream).2.rest =
        stream.rest.drop (size - buffer.length) := by
  induction buffer, stream using readExactAsync.induct size with
  | case1 buffer stream hfull =>
    have hnone : size - buffer.length = 0 := by omega
    rw [readExactAsync, if_pos hfull, hnone, List.take_zero, List.drop_zero, List.append_nil]
    exact ⟨rfl, rfl⟩
  | case2 buffer stream hroom hread =>
    have hrest : stream.rest = [] :=
      (Source.read_eq_nil_iff (by omega) stream).mp hread
    have hafter := Source.read_append (size - buffer.length) stream
    rw [hread, List.nil_append] at hafter
    rw [readExactAsync, if_neg hroom, if_pos hread, hafter, hrest, List.take_nil, List.drop_nil,
      List.append_nil]
    exact ⟨rfl, rfl⟩
  | case3 buffer stream hroom hread ih =>
    have hsplit := Source.read_append (size - buffer.length) stream
    have hlength := Source.read_length_le (size - buffer.length) stream
    have hunfold := readExactAsync.eq_def size buffer stream
    rw [if_neg hroom, if_neg hread] at hunfold
    rw [hunfold]
    generalize hportion : stream.read (size - buffer.length) = portion at *
    have hleft : size - (buffer ++ portion.1).length =
        size - buffer.length - portion.1.length := by
      rw [List.length_append]
      omega
    rw [hleft] at ih
    rw [← hsplit, List.take_append, List.drop_append, List.take_of_length_le hlength,
      List.drop_of_length_le hlength, List.nil_append, ← List.append_assoc]
    exact ih

theorem readExactAsync_eq (size : Nat) (stream : Source UInt8) :
    ∃ portions, readExactAsync size [] stream =
      (stream.rest.take size, ⟨stream.rest.drop size, portions⟩) := by
  obtain ⟨hread, hrest⟩ := readExactAsync_spec size [] stream
  refine ⟨(readExactAsync size [] stream).2.portions, ?_⟩
  rw [List.length_nil, Nat.sub_zero] at hread hrest
  rw [List.nil_append] at hread
  rw [← hread, ← hrest]

/-- How the reading of a frame ends that yields no payload: nothing is raised at the very end of
the stream only. -/
inductive Stops : List UInt8 → Option String → Prop where
  | endOfStream : Stops [] none
  | lengthPrefix {rest : List UInt8} (hsome : rest ≠ []) (hshort : rest.length < lengthPrefixSize) :
      Stops rest (some "Stream ended mid-length-prefix.")
  | declared {rest : List UInt8} (hlong : lengthPrefixSize ≤ rest.length)
      (hrange : decodeLength (rest.take lengthPrefixSize) = 0 ∨
        decodeLength (rest.take lengthPrefixSize) > maxFrameLength) :
      Stops rest (some "Declared frame length is out of the allowed range.")
  | payload {rest : List UInt8} (hlong : lengthPrefixSize ≤ rest.length)
      (hrange : ¬ (decodeLength (rest.take lengthPrefixSize) = 0 ∨
        decodeLength (rest.take lengthPrefixSize) > maxFrameLength))
      (hshort : rest.length < lengthPrefixSize + decodeLength (rest.take lengthPrefixSize)) :
      Stops rest (some "Stream ended mid-payload.")

def Allowed (payload : List UInt8) : Prop :=
  1 ≤ payload.length ∧ payload.length ≤ maxFrameLength

instance (payload : List UInt8) : Decidable (Allowed payload) :=
  inferInstanceAs (Decidable (_ ∧ _))

/-- What one call of `ReadFrameAsync` may answer on `rest`. -/
inductive FrameRead (rest : List UInt8) : Except String (Option (List UInt8)) → List UInt8 → Prop
  | closed (h : Stops rest none) (later : List UInt8) : FrameRead rest (.ok none) later
  | failed {message : String} (h : Stops rest (some message)) (later : List UInt8) :
      FrameRead rest (.error message) later
  | frame {payload later : List UInt8} (hallowed : Allowed payload)
      (h : rest = frameBytes payload ++ later) : FrameRead rest (.ok (some payload)) later

theorem encodeLength_decodeLength {header : List UInt8} (h : header.length = lengthPrefixSize) :
    encodeLength (decodeLength header) = header := by
  match header, h with
  | [a, b, c, d], _ =>
    have ha := a.toNat_lt
    have hb := b.toNat_lt
    have hc := c.toNat_lt
    have hd := d.toNat_lt
    simp only [decodeLength, encodeLength, List.cons.injEq, and_true, ← UInt8.toNat_inj,
      UInt8.toNat_ofNat']
    omega

theorem readFrameAsync_spec (stream : Source UInt8) :
    FrameRead stream.rest (readFrameAsync stream).1 (readFrameAsync stream).2.rest := by
  obtain ⟨portions, hheader⟩ := readExactAsync_eq lengthPrefixSize stream
  unfold readFrameAsync
  rw [hheader]
  generalize hrest : stream.rest = rest
  have hlength : (rest.take lengthPrefixSize).length = min lengthPrefixSize rest.length :=
    List.length_take
  have hfour : lengthPrefixSize = 4 := rfl
  by_cases hnone : (rest.take lengthPrefixSize).length = 0
  · have hnil : rest = [] := List.eq_nil_of_length_eq_zero (by omega)
    subst hnil
    exact FrameRead.closed .endOfStream _
  · have hsome : rest ≠ [] := by
      intro hnil
      subst hnil
      exact hnone rfl
    simp only [if_neg hnone]
    by_cases hshort : (rest.take lengthPrefixSize).length < lengthPrefixSize
    · simp only [if_pos hshort]
      exact FrameRead.failed (.lengthPrefix hsome (by omega)) _
    · simp only [if_neg hshort]
      by_cases hrange : decodeLength (rest.take lengthPrefixSize) = 0 ∨
          decodeLength (rest.take lengthPrefixSize) > maxFrameLength
      · simp only [if_pos hrange]
        exact FrameRead.failed (.declared (by omega) hrange) _
      · simp only [if_neg hrange]
        obtain ⟨portions', hpayload⟩ :=
          readExactAsync_eq (decodeLength (rest.take lengthPrefixSize))
            ⟨rest.drop lengthPrefixSize, portions⟩
        rw [hpayload]
        generalize hdeclared : decodeLength (rest.take lengthPrefixSize) = declared at *
        have htail : ((rest.drop lengthPrefixSize).take declared).length =
            min declared (rest.length - lengthPrefixSize) := by
          rw [List.length_take, List.length_drop]
        by_cases hmissing : ((rest.drop lengthPrefixSize).take declared).length < declared
        · simp only [if_pos hmissing]
          subst hdeclared
          exact FrameRead.failed (.payload (by omega) hrange (by omega)) _
        · simp only [if_neg hmissing]
          have hwhole : ((rest.drop lengthPrefixSize).take declared).length = declared := by omega
          have hbytes : rest = rest.take lengthPrefixSize ++
              ((rest.drop lengthPrefixSize).take declared ++
                (rest.drop lengthPrefixSize).drop declared) := by
            rw [List.take_append_drop, List.take_append_drop]
          have hencoded := encodeLength_decodeLength
            (show (rest.take lengthPrefixSize).length = lengthPrefixSize by omega)
          apply FrameRead.frame
          · unfold Allowed
            omega
          · rw [frameBytes, hwhole, ← hdeclared, hencoded, hdeclared, List.append_assoc]
            exact hbytes

theorem frameBytes_append {payload : List UInt8} (hallowed : Allowed payload)
    (tail : List UInt8) :
    (frameBytes payload ++ tail).take lengthPrefixSize = encodeLength payload.length ∧
      decodeLength ((frameBytes payload ++ tail).take lengthPrefixSize) = payload.length ∧
      (frameBytes payload ++ tail).length = lengthPrefixSize + payload.length + tail.length := by
  have hmax : maxFrameLength < 2 ^ 32 := by decide
  have htake : (frameBytes payload ++ tail).take lengthPrefixSize =
      encodeLength payload.length := by
    rw [frameBytes, List.append_assoc]
    exact List.take_left' rfl
  have hlength : (encodeLength payload.length).length = lengthPrefixSize := rfl
  refine ⟨htake, ?_, ?_⟩
  · rw [htake]
    exact decodeLength_encodeLength (Nat.lt_of_le_of_lt hallowed.2 hmax)
  · rw [frameBytes, List.length_append, List.length_append, hlength]

theorem not_stops_frame {payload tail : List UInt8} {raised : Option String}
    (hallowed : Allowed payload) : ¬ Stops (frameBytes payload ++ tail) raised := by
  obtain ⟨htake, hdeclared, hlength⟩ := frameBytes_append hallowed tail
  unfold Allowed at hallowed
  intro h
  generalize hrest : frameBytes payload ++ tail = rest at *
  cases h with
  | endOfStream =>
    have : ([] : List UInt8).length = 0 := rfl
    omega
  | lengthPrefix hsome hshort => omega
  | declared hlong hrange => omega
  | payload hlong hrange hshort => omega

theorem Stops.unique {rest : List UInt8} {raised raised' : Option String}
    (h : Stops rest raised) (h' : Stops rest raised') : raised = raised' := by
  have hempty : ([] : List UInt8).length = 0 := rfl
  have hfour : lengthPrefixSize = 4 := rfl
  cases h with
  | endOfStream =>
    cases h' with
    | endOfStream => rfl
    | lengthPrefix hsome hshort => exact absurd rfl hsome
    | declared hlong hrange => omega
    | payload hlong hrange hshort => omega
  | lengthPrefix hsome hshort =>
    cases h' with
    | endOfStream => exact absurd rfl hsome
    | lengthPrefix hsome' hshort' => rfl
    | declared hlong hrange => omega
    | payload hlong hrange hshort' => omega
  | declared hlong hrange =>
    cases h' with
    | endOfStream => omega
    | lengthPrefix hsome hshort => omega
    | declared hlong' hrange' => rfl
    | payload hlong' hrange' hshort => exact absurd hrange hrange'
  | payload hlong hrange hshort =>
    cases h' with
    | endOfStream => omega
    | lengthPrefix hsome hshort' => omega
    | declared hlong' hrange' => exact absurd hrange' hrange
    | payload hlong' hrange' hshort' => rfl

theorem readFrameAsync_frame {payload tail : List UInt8} {stream : Source UInt8}
    (hallowed : Allowed payload) (h : stream.rest = frameBytes payload ++ tail) :
    (readFrameAsync stream).1 = .ok (some payload) ∧ (readFrameAsync stream).2.rest = tail := by
  have hspec := readFrameAsync_spec stream
  rw [h] at hspec
  generalize hread : readFrameAsync stream = read at *
  cases read with
  | mk outcome later =>
    generalize hlater : later.rest = rest at hspec
    generalize hall : frameBytes payload ++ tail = all at hspec
    cases hspec with
    | closed hstops =>
      rw [← hall] at hstops
      exact absurd hstops (not_stops_frame hallowed)
    | failed hstops =>
      rw [← hall] at hstops
      exact absurd hstops (not_stops_frame hallowed)
    | @frame payload' _ hallowed' hframe =>
      rw [hframe] at hall
      have hdeclared := (frameBytes_append hallowed tail).2.1
      rw [hall, (frameBytes_append hallowed' rest).2.1] at hdeclared
      have hboth : (frameBytes payload).length = (frameBytes payload').length := by
        rw [frameBytes, frameBytes, List.length_append, List.length_append, hdeclared]
      obtain ⟨hsame, htail⟩ := List.append_inj hall hboth
      have hpayload : payload = payload' := by
        rw [frameBytes, frameBytes] at hsame
        exact (List.append_inj hsame rfl).2
      exact ⟨by rw [hpayload], htail.symm⟩

def noFrame : Option String → Except String (Option (List UInt8))
  | none => .ok none
  | some message => .error message

theorem readFrameAsync_stops {stream : Source UInt8} {raised : Option String}
    (h : Stops stream.rest raised) : (readFrameAsync stream).1 = noFrame raised := by
  have hspec := readFrameAsync_spec stream
  generalize stream.rest = rest at h hspec
  generalize (readFrameAsync stream).1 = outcome at *
  cases hspec with
  | closed hstops =>
    rw [← hstops.unique h]
    rfl
  | failed hstops =>
    rw [← hstops.unique h]
    rfl
  | frame hallowed hframe =>
    rw [hframe] at h
    exact absurd h (not_stops_frame hallowed)

theorem readFrameAsync_shorter {stream : Source UInt8} {payload : List UInt8}
    (h : (readFrameAsync stream).1 = .ok (some payload)) :
    (readFrameAsync stream).2.rest.length < stream.rest.length := by
  have hspec := readFrameAsync_spec stream
  rw [h] at hspec
  generalize hlater : (readFrameAsync stream).2.rest = later at *
  cases hspec with
  | frame hallowed hframe =>
    have hlength := (frameBytes_append hallowed later).2.2
    unfold Allowed at hallowed
    rw [hframe]
    omega

/-- A caller that reads frames until the stream is at its end or an exception is raised. -/
def readFrames (stream : Source UInt8) : List (List UInt8) × Option String :=
  match _h : (readFrameAsync stream).1 with
  | .error message => ([], some message)
  | .ok none => ([], none)
  | .ok (some payload) =>
    (payload :: (readFrames (readFrameAsync stream).2).1,
      (readFrames (readFrameAsync stream).2).2)
termination_by stream.rest.length
decreasing_by all_goals exact readFrameAsync_shorter _h

theorem readFrames_frame {stream : Source UInt8} {payload : List UInt8}
    (h : (readFrameAsync stream).1 = .ok (some payload)) :
    readFrames stream = (payload :: (readFrames (readFrameAsync stream).2).1,
      (readFrames (readFrameAsync stream).2).2) := by
  rw [readFrames]
  split
  next hread => rw [h] at hread; cases hread
  next hread => rw [h] at hread; cases hread
  next hread =>
    rw [h] at hread
    cases hread
    rfl

theorem readFrames_stops {stream : Source UInt8} {raised : Option String}
    (h : Stops stream.rest raised) : readFrames stream = ([], raised) := by
  have hread := readFrameAsync_stops h
  rw [readFrames]
  cases raised with
  | none =>
    split
    next hother => rw [hread] at hother; cases hother
    next hother => rfl
    next hother => rw [hread] at hother; cases hother
  | some message =>
    split
    next hother => rw [hread] at hother; cases hother; rfl
    next hother => rw [hread] at hother; cases hother
    next hother => rw [hread] at hother; cases hother

def framesBytes (payloads : List (List UInt8)) : List UInt8 := payloads.flatMap frameBytes

theorem framesBytes_cons (payload : List UInt8) (payloads : List (List UInt8)) :
    framesBytes (payload :: payloads) = frameBytes payload ++ framesBytes payloads :=
  List.flatMap_cons

theorem readFrames_append {payloads : List (List UInt8)}
    (hallowed : ∀ payload ∈ payloads, Allowed payload) {rest : List UInt8}
    {raised : Option String} (hstops : Stops rest raised) {stream : Source UInt8}
    (h : stream.rest = framesBytes payloads ++ rest) :
    readFrames stream = (payloads, raised) := by
  induction payloads generalizing stream with
  | nil =>
    apply readFrames_stops
    rw [h]
    exact hstops
  | cons payload payloads ih =>
    have hfirst : stream.rest = frameBytes payload ++ (framesBytes payloads ++ rest) := by
      rw [h, framesBytes_cons, List.append_assoc]
    obtain ⟨hread, hlater⟩ :=
      readFrameAsync_frame (hallowed payload List.mem_cons_self) hfirst
    have hrest := ih (fun payload' hmem => hallowed payload' (List.mem_cons_of_mem _ hmem)) hlater
    rw [readFrames_frame hread, hrest]

/-- Whatever the stream holds, whole frames are taken off it until one cannot be read. -/
theorem readFrames_spec (stream : Source UInt8) :
    ∃ rest, stream.rest = framesBytes (readFrames stream).1 ++ rest ∧
      (∀ payload ∈ (readFrames stream).1, Allowed payload) ∧
      Stops rest (readFrames stream).2 := by
  generalize hlength : stream.rest.length = length
  induction length using Nat.strongRecOn generalizing stream with
  | _ length ih =>
    have hspec := readFrameAsync_spec stream
    generalize houtcome : (readFrameAsync stream).1 = outcome at hspec
    generalize hlater : (readFrameAsync stream).2.rest = later at hspec
    cases hspec with
    | closed hstops =>
      rw [readFrames_stops hstops]
      exact ⟨stream.rest, rfl, fun _ hmem => absurd hmem List.not_mem_nil, hstops⟩
    | failed hstops =>
      rw [readFrames_stops hstops]
      exact ⟨stream.rest, rfl, fun _ hmem => absurd hmem List.not_mem_nil, hstops⟩
    | @frame payload _ hallowed hframe =>
      have hshorter := readFrameAsync_shorter houtcome
      obtain ⟨rest, hrest, hothers, hstops⟩ := ih _ (by omega) (readFrameAsync stream).2 rfl
      rw [readFrames_frame houtcome]
      refine ⟨rest, ?_, ?_, hstops⟩
      · rw [hframe, ← hlater, hrest, framesBytes_cons, List.append_assoc]
      · intro payload' hmem
        cases List.mem_cons.mp hmem with
        | inl heq => rw [heq]; exact hallowed
        | inr hother => exact hothers payload' hother

def writeFrames (stream : List UInt8) (payloads : List (List UInt8)) :
    Except String (List UInt8) :=
  payloads.foldlM writeFrameAsync stream

theorem writeFrames_eq {payloads : List (List UInt8)}
    (hallowed : ∀ payload ∈ payloads, Allowed payload) (stream : List UInt8) :
    writeFrames stream payloads = .ok (stream ++ framesBytes payloads) := by
  induction payloads generalizing stream with
  | nil => rw [framesBytes, List.flatMap_nil, List.append_nil]; rfl
  | cons payload payloads ih =>
    have hfirst := hallowed payload List.mem_cons_self
    unfold Allowed at hfirst
    have hwrite : writeFrameAsync stream payload = .ok (stream ++ frameBytes payload) := by
      rw [writeFrameAsync, if_neg (by omega), frameBytes, List.append_assoc]
    have hothers := ih (fun payload' hmem => hallowed payload' (List.mem_cons_of_mem _ hmem))
      (stream ++ frameBytes payload)
    show (writeFrameAsync stream payload >>= fun stream => writeFrames stream payloads) = _
    rw [hwrite]
    show writeFrames (stream ++ frameBytes payload) payloads = _
    rw [hothers, framesBytes_cons, List.append_assoc]

section Reader

/-- How a caller sees a reader whose stream is at its end. -/
def answer : Reader → Except String (Option (List UInt8))
  | .frame payload => .ok (some payload)
  | .failed message => .error message
  | _ => .ok none

theorem reader_stops {rest : List UInt8} {raised : Option String} (h : Stops rest raised) :
    answer (TradeJournalWorker.readFrameAsync rest) = noFrame raised := by
  have hfour : lengthPrefixSize = 4 := rfl
  unfold TradeJournalWorker.readFrameAsync
  cases h with
  | endOfStream => rfl
  | lengthPrefix hsome hshort =>
    have htake : rest.take 4 = rest := List.take_of_length_le (by omega)
    have hdrop : rest.drop 4 = [] := List.drop_of_length_le (by omega)
    have hlt : rest.length < 4 := by omega
    have hend : (Reader.header rest).endOfStream =
        .failed "Stream ended mid-length-prefix." := by
      cases rest with
      | nil => exact absurd rfl hsome
      | cons byte rest => rfl
    simp only [htake, hdrop, Reader.feed, List.nil_append, List.take_nil, List.append_nil,
      if_pos hlt, hend]
    rfl
  | declared hlong hrange =>
    have hlt : ¬ (rest.take 4).length < 4 := by
      rw [List.length_take]
      omega
    have hheader : (Reader.header []).feed maxFrameLength (rest.take 4) =
        .failed "Declared frame length is out of the allowed range." := by
      show (if (rest.take 4).length < 4 then _ else _) = _
      rw [if_neg hlt]
      exact if_pos hrange
    simp only [hheader]
    rfl
  | payload hlong hrange hshort =>
    have hlt : ¬ (rest.take 4).length < 4 := by
      rw [List.length_take]
      omega
    have hheader : (Reader.header []).feed maxFrameLength (rest.take 4) =
        .payload (decodeLength (rest.take 4)) [] := by
      show (if (rest.take 4).length < 4 then _ else _) = _
      rw [if_neg hlt]
      exact if_neg hrange
    have hpayload : ((rest.drop 4).take (decodeLength (rest.take 4) - 0)).length <
        decodeLength (rest.take 4) := by
      rw [List.length_take, List.length_drop]
      rw [hfour] at hshort
      omega
    simp only [hheader]
    show answer (Reader.endOfStream (if ([] ++ (rest.drop 4).take _).length < _ then _ else _)) = _
    rw [List.nil_append]
    exact congrArg (fun reader : Reader => answer reader.endOfStream) (if_pos hpayload)

theorem reader_frame {payload later : List UInt8} (hallowed : Allowed payload) :
    answer (TradeJournalWorker.readFrameAsync (frameBytes payload ++ later)) =
      .ok (some payload) := by
  have hmax : maxFrameLength < 2 ^ 32 := by decide
  have htake : (frameBytes payload ++ later).take 4 = encodeLength payload.length :=
    (frameBytes_append hallowed later).1
  have hdrop : (frameBytes payload ++ later).drop 4 = payload ++ later := by
    rw [frameBytes, List.append_assoc]
    exact List.drop_left' rfl
  have hmissing : (Reader.payload payload.length []).missing = payload.length := rfl
  unfold TradeJournalWorker.readFrameAsync
  simp only [htake, hdrop, Reader.feed_header hallowed hmax, hmissing, List.take_left,
    Reader.feed_payload]
  rfl

/-- In whatever portions the bytes come, the codec answers as the reader that takes the header
and the payload at once. -/
theorem readFrameAsync_reader (stream : Source UInt8) :
    (readFrameAsync stream).1 = answer (TradeJournalWorker.readFrameAsync stream.rest) := by
  have hspec := readFrameAsync_spec stream
  generalize stream.rest = rest at hspec
  generalize (readFrameAsync stream).1 = outcome at hspec
  cases hspec with
  | closed h => exact (reader_stops h).symm
  | failed h => exact (reader_stops h).symm
  | frame hallowed h =>
    rw [h]
    exact (reader_frame hallowed).symm

end Reader

theorem prefix_of_framesBytes {payloads received : List (List UInt8)} {tail : List UInt8}
    (hpayloads : ∀ payload ∈ payloads, Allowed payload)
    (hreceived : ∀ payload ∈ received, Allowed payload)
    (h : framesBytes received ++ tail = framesBytes payloads) : received <+: payloads := by
  let portions : Nat → Nat := fun _ => 0
  obtain ⟨rest, hrest, hothers, hstops⟩ := readFrames_spec ⟨tail, portions⟩
  generalize readFrames ⟨tail, portions⟩ = others at *
  have htail : tail = framesBytes others.1 ++ rest := hrest
  have hall : framesBytes (received ++ others.1) ++ rest = framesBytes payloads := by
    rw [framesBytes, List.flatMap_append, List.append_assoc, ← h, htail]
    rfl
  have hboth : ∀ payload ∈ received ++ others.1, Allowed payload := by
    intro payload hmem
    cases List.mem_append.mp hmem with
    | inl hleft => exact hreceived payload hleft
    | inr hright => exact hothers payload hright
  have hwhole : readFrames ⟨framesBytes payloads, portions⟩ = (payloads, none) :=
    readFrames_append hpayloads .endOfStream (List.append_nil _).symm
  have hsplit : readFrames ⟨framesBytes payloads, portions⟩ = (received ++ others.1, others.2) :=
    readFrames_append hboth hstops hall.symm
  have hpayloads : payloads = received ++ others.1 :=
    congrArg Prod.fst (hwhole.symm.trans hsplit)
  exact ⟨others.1, hpayloads.symm⟩

/-- A stream cut off anywhere yields the payloads before the cut, and nothing is raised only
where the cut falls between two frames. -/
theorem readFrames_cut {payloads : List (List UInt8)}
    (hallowed : ∀ payload ∈ payloads, Allowed payload) (cut : Nat) (portions : Nat → Nat) :
    (readFrames ⟨(framesBytes payloads).take cut, portions⟩).1 <+: payloads ∧
      ((readFrames ⟨(framesBytes payloads).take cut, portions⟩).2 = none ↔
        ∃ count, (framesBytes payloads).take cut = framesBytes (payloads.take count)) := by
  have hspec := readFrames_spec ⟨(framesBytes payloads).take cut, portions⟩
  generalize hread : readFrames ⟨(framesBytes payloads).take cut, portions⟩ = read at *
  obtain ⟨rest, hrest, hreceived, hstops⟩ := hspec
  have hbytes : framesBytes read.1 ++ (rest ++ (framesBytes payloads).drop cut) =
      framesBytes payloads := by
    rw [← List.append_assoc, ← hrest, List.take_append_drop]
  have hinitial := prefix_of_framesBytes hallowed hreceived hbytes
  refine ⟨hinitial, ?_, ?_⟩
  · intro hclean
    rw [hclean] at hstops
    cases hstops
    refine ⟨read.1.length, ?_⟩
    rw [← List.prefix_iff_eq_take.mp hinitial]
    exact hrest.trans (List.append_nil _)
  · intro ⟨count, hcount⟩
    have htaken : ∀ payload ∈ payloads.take count, Allowed payload :=
      fun payload hmem => hallowed payload (List.mem_of_mem_take hmem)
    have hclean : readFrames ⟨(framesBytes payloads).take cut, portions⟩ =
        (payloads.take count, none) :=
      readFrames_append htaken .endOfStream (hcount.trans (List.append_nil _).symm)
    rw [← hread, hclean]

/-- What is written is read back, however the stream is split into reads; a cut inside a frame
and a length out of range raise after the payloads before them; and on any stream at all only
whole frames are yielded. -/
theorem frames_roundTrip {payloads : List (List UInt8)}
    (hallowed : ∀ payload ∈ payloads, Allowed payload) :
    (∃ written, writeFrames [] payloads = .ok written ∧
      (∀ portions, readFrames ⟨written, portions⟩ = (payloads, none)) ∧
      (∀ cut portions, (readFrames ⟨written.take cut, portions⟩).1 <+: payloads ∧
        ((readFrames ⟨written.take cut, portions⟩).2 = none ↔
          ∃ count, written.take cut = framesBytes (payloads.take count))) ∧
      ∀ header tail portions, header.length = lengthPrefixSize →
        decodeLength header = 0 ∨ decodeLength header > maxFrameLength →
        readFrames ⟨written ++ (header ++ tail), portions⟩ =
          (payloads, some "Declared frame length is out of the allowed range.")) ∧
    (∀ stream, ∃ rest, stream.rest = framesBytes (readFrames stream).1 ++ rest ∧
      (∀ payload ∈ (readFrames stream).1, Allowed payload) ∧
      Stops rest (readFrames stream).2) ∧
    ∀ stream payload, ¬ Allowed payload → writeFrameAsync stream payload =
      .error "Frame payload length is out of the allowed range." := by
  refine ⟨⟨framesBytes payloads, writeFrames_eq hallowed [], ?_, ?_, ?_⟩, readFrames_spec, ?_⟩
  · intro portions
    exact readFrames_append hallowed .endOfStream (List.append_nil _).symm
  · exact readFrames_cut hallowed
  · intro header tail portions hheader hrange
    have htake : (header ++ tail).take lengthPrefixSize = header := List.take_left' hheader
    have hlong : lengthPrefixSize ≤ (header ++ tail).length := by
      rw [List.length_append]
      omega
    have hstops : Stops (header ++ tail)
        (some "Declared frame length is out of the allowed range.") :=
      .declared hlong (by rw [htake]; exact hrange)
    exact readFrames_append hallowed hstops rfl
  · intro stream payload hrefused
    unfold Allowed at hrefused
    rw [writeFrameAsync, if_pos (by omega)]

theorem frames_roundTrip_two :
    readFrames ⟨framesBytes [[7], [1, 2]], fun _ => 3⟩ = ([[7], [1, 2]], none) := by
  have hallowed : ∀ payload ∈ [[7], [1, 2]], Allowed payload := by decide
  obtain ⟨⟨written, hwritten, hread, _⟩, _⟩ := frames_roundTrip hallowed
  cases hwritten
  exact hread _

end TradeJournalWorker.C012FrameCodec
