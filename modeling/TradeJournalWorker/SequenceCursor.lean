import Mathlib.Algebra.Ring.Int.Defs
import Mathlib.Algebra.Ring.Nat
import Mathlib.Logic.Function.Basic
import TradeJournalWorker.CursorText
import TradeJournalWorker.ListPrefixes
import TradeJournalWorker.ResponseDelivery

namespace TradeJournalWorker

open ListPrefixes

/-- `char.IsWhiteSpace`. -/
def isWhiteSpace (c : Char) : Bool :=
  (9 ≤ c.toNat && c.toNat ≤ 13) || (0x2000 ≤ c.toNat && c.toNat ≤ 0x200a) ||
    [0x20, 0x85, 0xa0, 0x1680, 0x2028, 0x2029, 0x202f, 0x205f, 0x3000].contains c.toNat

/-- `string.Trim`. -/
def trim (text : List Char) : List Char :=
  ((text.dropWhile isWhiteSpace).reverse.dropWhile isWhiteSpace).reverse

/-- `long.TryParse` with `NumberStyles.None`: digits, and zero characters behind them. -/
def tryParseLong (text : List Char) : Option Nat :=
  let digits := text.takeWhile Char.isDigit
  let value := Nat.ofDigitChars 10 digits 0
  if digits ≠ [] ∧ (text.dropWhile Char.isDigit).all (· = '\x00') = true ∧ value < 2 ^ 63 then
    some value
  else none

def pendingPrefix : List Char := "PENDING:".toList

namespace C012SessionSequenceState

/-- `Format`. -/
def format (state : C012SessionSequenceState) : List Char :=
  if state.pending then pendingPrefix ++ integerToString state.sequenceNumber
  else integerToString state.sequenceNumber

/-- `Parse`, with `none` for the `FormatException`. -/
def parse (text : List Char) : Option C012SessionSequenceState :=
  let trimmed := trim text
  if pendingPrefix.isPrefixOf trimmed then
    (tryParseLong (trimmed.drop pendingPrefix.length)).map fun (value : Nat) => ⟨value, true⟩
  else (tryParseLong trimmed).map fun (value : Nat) => ⟨value, false⟩

end C012SessionSequenceState

/-- `ExpectedSequenceForControl`. -/
def expectedSequenceForControl : C012Control → Int
  | .c0 => 1
  | .c1 => 2
  | .c2 => 3

/-- `MapVerb`. -/
def requestTypeOf : C012Control → C012RequestType
  | .c0 => .start
  | .c1 => .query
  | .c2 => .submitConfig

/-- How far a client process has come with its one request. -/
inductive C012ClientPhase where
  | idle
  | acquired (control : C012Control)
  | read (control : C012Control) (sequenceNumber : Int)
  | loaded (control : C012Control) (sequenceNumber : Int)
  | connected (control : C012Control) (sequenceNumber : Int)
  | marked (control : C012Control) (sequenceNumber : Int)
  | sent (sequenceNumber : Int)
  | answered (sequenceNumber : Int) (response : C012WireResponse)
  | over
  deriving DecidableEq

/-- What happens to a client next. A step that fails is `false`. -/
inductive C012ClientInput where
  | acquireExclusive (control : C012Control)
  | read
  | loadSecret (succeeds : Bool)
  | connect (succeeds : Bool)
  | writePending (succeeds : Bool)
  | send
  | receive (frame : ResponseFrame)
  | writeClean (succeeds : Bool)
  | die

/-- What the history of a session remembers of its clients. -/
inductive CursorEvent where
  | sent (client : Nat) (request : C012WireRequest)
  | recorded (client : Nat) (sequenceNumber : Int) (response : C012WireResponse)
  deriving DecidableEq

/-- The files of one session and the client processes that use them. -/
structure CursorWorld where
  sessionId : Guid
  sequence : Option (List Char)
  lockHolder : Option Nat
  clients : Nat → C012ClientPhase
  history : List CursorEvent := []

namespace CursorWorld

def setClient (world : CursorWorld) (client : Nat) (phase : C012ClientPhase) : CursorWorld :=
  { world with clients := Function.update world.clients client phase }

/-- The process ends, on its own or not. The system closes the handle of the lock. -/
def leave (world : CursorWorld) (client : Nat) : CursorWorld :=
  { world.setClient client .over with
    lockHolder := if world.lockHolder = some client then none else world.lockHolder }

def remember (world : CursorWorld) (event : CursorEvent) : CursorWorld :=
  { world with history := world.history ++ [event] }

/-- One step of a client process. `WriteAtomic` takes effect with its move, so a process that
dies inside it dies before or after this step. -/
def step (hmac : HmacSha256) (world : CursorWorld) (client : Nat) (input : C012ClientInput) :
    CursorWorld :=
  match world.clients client, input with
  | .over, _ => world
  | .idle, .acquireExclusive control =>
    if world.lockHolder.isNone then
      { world.setClient client (.acquired control) with lockHolder := some client }
    else world.leave client
  | .acquired control, .read =>
    match world.sequence.bind C012SessionSequenceState.parse with
    | none => world.leave client
    | some cursor =>
      if cursor.pending then world.leave client
      else if cursor.sequenceNumber ≠ expectedSequenceForControl control then world.leave client
      else world.setClient client (.read control cursor.sequenceNumber)
  | .read control sequenceNumber, .loadSecret succeeds =>
    if succeeds then world.setClient client (.loaded control sequenceNumber)
    else world.leave client
  | .loaded control sequenceNumber, .connect succeeds =>
    if succeeds then world.setClient client (.connected control sequenceNumber)
    else world.leave client
  | .connected control sequenceNumber, .writePending succeeds =>
    if succeeds then
      { world.setClient client (.marked control sequenceNumber) with
        sequence := some (C012SessionSequenceState.format ⟨sequenceNumber, true⟩) }
    else world.leave client
  | .marked control sequenceNumber, .send =>
    (world.setClient client (.sent sequenceNumber)).remember (.sent client
      (C012ClientChannel.buildRequest hmac ⟨world.sessionId, sequenceNumber⟩ control
        (requestTypeOf control)))
  | .sent sequenceNumber, .receive frame =>
    match frame, (C012ClientChannel.receive hmac frame ⟨world.sessionId, sequenceNumber⟩).1 with
    | .response response, .ok _ => world.setClient client (.answered sequenceNumber response)
    | _, _ => world.leave client
  | .answered sequenceNumber response, .writeClean succeeds =>
    if succeeds then
      ({ world with
        sequence := some (C012SessionSequenceState.format
          ⟨if response.accepted then sequenceNumber + 1 else sequenceNumber, false⟩) }.leave
            client).remember (.recorded client sequenceNumber response)
    else world.leave client
  | _, .die => world.leave client
  | _, _ => world

/-- Any number of client processes in any order, each ending wherever it may. -/
def run (hmac : HmacSha256) (world : CursorWorld) (schedule : List (Nat × C012ClientInput)) :
    CursorWorld :=
  schedule.foldl (fun current turn => current.step hmac turn.1 turn.2) world

/-- `InitializeAtSessionStart`: no client has begun. -/
def atSessionStart (sessionId : Guid) : CursorWorld where
  sessionId := sessionId
  sequence := some (C012SessionSequenceState.format ⟨1, false⟩)
  lockHolder := none
  clients := fun _ => .idle

end CursorWorld

section Text

theorem isDigit_toDigits {n : Nat} {c : Char} (h : c ∈ Nat.toDigits 10 n) : c.isDigit = true :=
  Nat.isDigit_of_mem_toDigits (by omega) (by omega) h

theorem not_whiteSpace_of_isDigit {c : Char} (h : c.isDigit = true) : isWhiteSpace c = false := by
  have hrange : 48 ≤ c.toNat ∧ c.toNat ≤ 57 := by
    simp only [Char.isDigit, Bool.and_eq_true, decide_eq_true_eq, ge_iff_le] at h
    exact ⟨h.1, h.2⟩
  unfold isWhiteSpace
  simp only [Bool.or_eq_false_iff, Bool.and_eq_false_iff, decide_eq_false_iff_not]
  refine ⟨⟨by omega, by omega⟩, ?_⟩
  simp only [List.contains_eq_mem, List.mem_cons, List.not_mem_nil, or_false,
    decide_eq_false_iff_not]
  omega

/-- Trimming leaves a text that begins and ends with no white space. -/
theorem trim_eq {text : List Char}
    (hfirst : ∀ c, text.head? = some c → isWhiteSpace c = false)
    (hlast : ∀ c, text.getLast? = some c → isWhiteSpace c = false) : trim text = text := by
  have hfront : text.dropWhile isWhiteSpace = text := by
    cases text with
    | nil => rfl
    | cons c rest =>
      rw [List.dropWhile_cons_of_neg]
      rw [hfirst c rfl]
      exact Bool.false_ne_true
  have hback : text.reverse.dropWhile isWhiteSpace = text.reverse := by
    cases hcase : text.reverse with
    | nil => rfl
    | cons c rest =>
      rw [List.dropWhile_cons_of_neg]
      rw [hlast c (by rw [List.getLast?_eq_head?_reverse, hcase]; rfl)]
      exact Bool.false_ne_true
  rw [trim, hfront, hback, List.reverse_reverse]

theorem tryParseLong_toDigits {n : Nat} (h : n < 2 ^ 63) :
    tryParseLong (Nat.toDigits 10 n) = some n := by
  have hall : ∀ c ∈ Nat.toDigits 10 n, c.isDigit = true := fun c hc => isDigit_toDigits hc
  have htake : (Nat.toDigits 10 n).takeWhile Char.isDigit = Nat.toDigits 10 n :=
    List.takeWhile_eq_self_iff.mpr hall
  have hdrop : (Nat.toDigits 10 n).dropWhile Char.isDigit = [] :=
    List.dropWhile_eq_nil_iff.mpr hall
  unfold tryParseLong
  simp only [htake, hdrop, Nat.ofDigitChars_ten_toDigits]
  rw [if_pos ⟨Nat.toDigits_ne_nil, rfl, h⟩]

/-- What was written is read back. -/
theorem parse_format {state : C012SessionSequenceState}
    (h : 0 ≤ state.sequenceNumber ∧ state.sequenceNumber < 2 ^ 63) :
    C012SessionSequenceState.parse state.format = some state := by
  obtain ⟨value, pending⟩ := state
  obtain ⟨number, rfl⟩ : ∃ number : Nat, value = number := ⟨value.toNat, by simp at h; omega⟩
  have hlast : ∀ c, (Nat.toDigits 10 number).getLast? = some c → isWhiteSpace c = false :=
    fun c hc => not_whiteSpace_of_isDigit (isDigit_toDigits (List.mem_of_getLast? hc))
  have hlt : number < 2 ^ 63 := by
    simp only at h
    omega
  have htext : integerToString (number : Int) = Nat.toDigits 10 number := by
    rw [integerToString, if_neg (by omega), Int.natAbs_natCast]
  unfold C012SessionSequenceState.parse C012SessionSequenceState.format
  simp only [htext]
  cases pending with
  | true =>
    have htrim : trim (pendingPrefix ++ Nat.toDigits 10 number) =
        pendingPrefix ++ Nat.toDigits 10 number := by
      apply trim_eq
      · intro c hc
        cases hc
        rfl
      · intro c hc
        rw [List.getLast?_append_of_ne_nil _ Nat.toDigits_ne_nil] at hc
        exact hlast c hc
    simp only [if_true, htrim]
    rw [if_pos (List.isPrefixOf_iff_prefix.mpr (List.prefix_append _ _)), List.drop_left,
      tryParseLong_toDigits hlt]
    rfl
  | false =>
    have htrim : trim (Nat.toDigits 10 number) = Nat.toDigits 10 number := by
      apply trim_eq
      · intro c hc
        exact not_whiteSpace_of_isDigit (isDigit_toDigits (List.mem_of_mem_head? hc))
      · exact hlast
    have hprefix : ¬ pendingPrefix.isPrefixOf (Nat.toDigits 10 number) = true := by
      intro hp
      obtain ⟨rest, hrest⟩ := List.isPrefixOf_iff_prefix.mp hp
      have hmem : 'P' ∈ Nat.toDigits 10 number := by
        rw [← hrest]
        exact List.mem_append_left _ (by decide)
      exact absurd (isDigit_toDigits hmem) (by decide)
    simp only [Bool.false_eq_true, if_false, htrim, hprefix]
    rw [tryParseLong_toDigits hlt]
    rfl

end Text

/-- The attempt that nothing definite is known of: the last event is its request. -/
def unresolved (history : List CursorEvent) : Option (Nat × Int) :=
  match history.getLast? with
  | some (.sent client request) => some (client, request.sequenceNumber)
  | _ => none

/-- A definite response to the request of this number. -/
structure Definite (hmac : HmacSha256) (sessionId : Guid) (sequenceNumber : Int)
    (response : C012WireResponse) : Prop where
  session : response.sessionId = sessionId
  number : response.sequenceNumber = sequenceNumber
  authentic : response.verify hmac = true

/-- A request is sent when no other is unresolved, and recorded is what a definite response to
the one that is unresolved says. -/
def FollowsOn (hmac : HmacSha256) (sessionId : Guid) (before : List CursorEvent) :
    CursorEvent → Prop
  | .sent _ _ => unresolved before = none
  | .recorded client sequenceNumber response =>
    unresolved before = some (client, sequenceNumber) ∧
      Definite hmac sessionId sequenceNumber response

def C012ClientPhase.holdsLock : C012ClientPhase → Bool
  | .idle | .over => false
  | _ => true

/-- What the files and the history are for a client that has come this far. -/
def PhaseFits (hmac : HmacSha256) (world : CursorWorld) (client : Nat) : C012ClientPhase → Prop
  | .idle | .over | .acquired _ => True
  | .read control number | .loaded control number | .connected control number =>
    number = expectedSequenceForControl control ∧
      world.sequence.bind C012SessionSequenceState.parse = some ⟨number, false⟩
  | .marked control number => number = expectedSequenceForControl control ∧
      world.sequence = some (C012SessionSequenceState.format ⟨number, true⟩) ∧
      unresolved world.history = none
  | .sent number => unresolved world.history = some (client, number)
  | .answered number response => unresolved world.history = some (client, number) ∧
      Definite hmac world.sessionId number response

/-- What holds of a session at every moment. -/
structure CursorInvariant (hmac : HmacSha256) (world : CursorWorld) : Prop where
  lock : ∀ client, (world.clients client).holdsLock = true ↔ world.lockHolder = some client
  fits : ∀ client, PhaseFits hmac world client (world.clients client)
  blocked : ∀ client number, unresolved world.history = some (client, number) →
    (0 ≤ number ∧ number < 2 ^ 63) ∧
      world.sequence = some (C012SessionSequenceState.format ⟨number, true⟩)
  ordered : EachAfter (FollowsOn hmac world.sessionId) world.history

section Steps

variable {hmac : HmacSha256} {world : CursorWorld} {client : Nat}

theorem phaseFits_idle {phase : C012ClientPhase} (h : phase.holdsLock = false) :
    PhaseFits hmac world client phase := by
  cases phase <;> trivial

theorem expectedSequence_range (control : C012Control) :
    0 ≤ expectedSequenceForControl control ∧ expectedSequenceForControl control < 2 ^ 63 := by
  cases control <;> decide

/-- Only one client has the lock. -/
theorem others_idle (h : CursorInvariant hmac world)
    (hlock : world.lockHolder = none ∨ world.lockHolder = some client) {other : Nat}
    (hne : other ≠ client) : (world.clients other).holdsLock = false := by
  rw [← Bool.not_eq_true, h.lock]
  intro hother
  rcases hlock with hnone | hsome
  · rw [hother] at hnone
    cases hnone
  · rw [hother] at hsome
    exact hne (Option.some.inj hsome)

/-- A step of a client while no other has the lock. -/
theorem invariant_alone {world' : CursorWorld} {phase : C012ClientPhase}
    (h : CursorInvariant hmac world)
    (hlock : world.lockHolder = none ∨ world.lockHolder = some client)
    (hclients : world'.clients = Function.update world.clients client phase)
    (hholder : world'.lockHolder = if phase.holdsLock then some client else none)
    (hfits : PhaseFits hmac world' client phase)
    (hblocked : ∀ other number, unresolved world'.history = some (other, number) →
      (0 ≤ number ∧ number < 2 ^ 63) ∧
        world'.sequence = some (C012SessionSequenceState.format ⟨number, true⟩))
    (hordered : EachAfter (FollowsOn hmac world'.sessionId) world'.history) :
    CursorInvariant hmac world' := by
  refine ⟨fun other => ?_, fun other => ?_, hblocked, hordered⟩
  · rw [hclients, hholder]
    by_cases heq : other = client
    · subst heq
      rw [Function.update_self]
      cases phase.holdsLock <;> simp
    · rw [Function.update_of_ne heq, others_idle h hlock heq]
      have hne : client ≠ other := fun hsame => heq hsame.symm
      cases phase.holdsLock <;> simp [hne]
  · rw [hclients]
    by_cases heq : other = client
    · subst heq
      rw [Function.update_self]
      exact hfits
    · rw [Function.update_of_ne heq]
      exact phaseFits_idle (others_idle h hlock heq)

/-- A client that ends leaves the files and the history. -/
theorem invariant_leave (h : CursorInvariant hmac world) :
    CursorInvariant hmac (world.leave client) := by
  by_cases hlock : world.lockHolder = some client
  · apply invariant_alone h (Or.inr hlock) rfl
    · show (if world.lockHolder = some client then none else world.lockHolder) = none
      rw [if_pos hlock]
    · trivial
    · exact h.blocked
    · exact h.ordered
  · have hholder : (world.leave client).lockHolder = world.lockHolder := if_neg hlock
    refine ⟨fun other => ?_, fun other => ?_, h.blocked, h.ordered⟩
    · rw [hholder, ← h.lock]
      by_cases heq : other = client
      · subst heq
        have hnot : ¬ (world.clients other).holdsLock = true := by
          rw [h.lock]
          exact hlock
        have hover : (world.leave other).clients other = .over := Function.update_self _ _ _
        rw [hover]
        exact iff_of_false Bool.false_ne_true hnot
      · have hsame : (world.leave client).clients other = world.clients other :=
          Function.update_of_ne heq _ _
        rw [hsame]
    · by_cases heq : other = client
      · subst heq
        simp only [CursorWorld.leave, CursorWorld.setClient, Function.update_self]
        trivial
      · have hsame : (world.leave client).clients other = world.clients other :=
          Function.update_of_ne heq _ _
        rw [hsame]
        exact h.fits other

/-- A client that goes on with nothing written. -/
theorem invariant_setClient {phase : C012ClientPhase} (h : CursorInvariant hmac world)
    (hheld : (world.clients client).holdsLock = true) (hholds : phase.holdsLock = true)
    (hfits : PhaseFits hmac world client phase) :
    CursorInvariant hmac (world.setClient client phase) := by
  have hlock := (h.lock client).mp hheld
  apply invariant_alone h (Or.inr hlock) rfl
  · rw [hholds, if_pos rfl]
    exact hlock
  · cases phase <;> exact hfits
  · exact h.blocked
  · exact h.ordered

theorem unresolved_sent (before : List CursorEvent) (client : Nat) (request : C012WireRequest) :
    unresolved (before ++ [.sent client request]) = some (client, request.sequenceNumber) := by
  unfold unresolved
  rw [List.getLast?_concat]

theorem unresolved_recorded (before : List CursorEvent) (client : Nat) (number : Int)
    (response : C012WireResponse) :
    unresolved (before ++ [.recorded client number response]) = none := by
  unfold unresolved
  rw [List.getLast?_concat]

/-- A clean cursor says that nothing is unresolved. -/
theorem resolved_of_clean (h : CursorInvariant hmac world) {number : Int}
    (hclean : world.sequence.bind C012SessionSequenceState.parse = some ⟨number, false⟩) :
    unresolved world.history = none := by
  cases hcase : unresolved world.history with
  | none => rfl
  | some attempt =>
    obtain ⟨hrange, hsequence⟩ := h.blocked attempt.1 attempt.2 hcase
    rw [hsequence, Option.bind_some, parse_format hrange] at hclean
    cases hclean

theorem receive_definite {number : Int} {response : C012WireResponse}
    {result : C012TransitionResult}
    (h : (C012ClientChannel.receive hmac (.response response) ⟨world.sessionId, number⟩).1 =
      .ok result) : Definite hmac world.sessionId number response := by
  unfold C012ClientChannel.receive at h
  simp only at h
  split at h
  · cases h
  · split at h
    · cases h
    next hmatch =>
      split at h
      · cases h
      next hverify =>
        rw [not_or, not_not, not_not] at hmatch
        exact ⟨hmatch.1, hmatch.2, by simpa using hverify⟩

theorem invariant_acquire (h : CursorInvariant hmac world) (control : C012Control)
    (hfree : world.lockHolder = none) :
    CursorInvariant hmac
      { world.setClient client (.acquired control) with lockHolder := some client } := by
  apply invariant_alone h (Or.inl hfree) rfl rfl
  · trivial
  · exact h.blocked
  · exact h.ordered

theorem invariant_read (h : CursorInvariant hmac world) {control : C012Control}
    {cursor : C012SessionSequenceState} (hheld : (world.clients client).holdsLock = true)
    (hparse : world.sequence.bind C012SessionSequenceState.parse = some cursor)
    (hclean : ¬ cursor.pending = true)
    (hexpected : cursor.sequenceNumber = expectedSequenceForControl control) :
    CursorInvariant hmac (world.setClient client (.read control cursor.sequenceNumber)) := by
  have hcursor : cursor = ⟨cursor.sequenceNumber, false⟩ := by
    obtain ⟨number, pending⟩ := cursor
    simpa using hclean
  exact invariant_setClient h hheld rfl ⟨hexpected, by rw [hparse, ← hcursor]⟩

theorem invariant_writePending (h : CursorInvariant hmac world) {control : C012Control}
    {number : Int} (hphase : world.clients client = .connected control number) :
    CursorInvariant hmac
      { world.setClient client (.marked control number) with
        sequence := some (C012SessionSequenceState.format ⟨number, true⟩) } := by
  have hheld : (world.clients client).holdsLock = true := by rw [hphase]; rfl
  have hlock := (h.lock client).mp hheld
  have hfits := h.fits client
  rw [hphase] at hfits
  have hresolved := resolved_of_clean h hfits.2
  apply invariant_alone h (Or.inr hlock) rfl hlock
  · exact ⟨hfits.1, rfl, hresolved⟩
  · intro other attempt hattempt
    have hnone : unresolved world.history = some (other, attempt) := hattempt
    rw [hresolved] at hnone
    cases hnone
  · exact h.ordered

theorem invariant_send (h : CursorInvariant hmac world) {control : C012Control} {number : Int}
    (hphase : world.clients client = .marked control number) :
    CursorInvariant hmac ((world.setClient client (.sent number)).remember (.sent client
      (C012ClientChannel.buildRequest hmac ⟨world.sessionId, number⟩ control
        (requestTypeOf control)))) := by
  have hheld : (world.clients client).holdsLock = true := by rw [hphase]; rfl
  have hlock := (h.lock client).mp hheld
  have hfits := h.fits client
  rw [hphase] at hfits
  obtain ⟨hexpected, hsequence, hresolved⟩ := hfits
  apply invariant_alone h (Or.inr hlock) rfl hlock
  · exact unresolved_sent world.history client _
  · intro other attempt hattempt
    have hsome := (unresolved_sent world.history client
      (C012ClientChannel.buildRequest hmac ⟨world.sessionId, number⟩ control
        (requestTypeOf control))).symm.trans hattempt
    have hnumber : number = attempt := (Prod.mk.inj (Option.some.inj hsome)).2
    subst hnumber
    exact ⟨hexpected ▸ expectedSequence_range control, hsequence⟩
  · exact h.ordered.append hresolved

theorem invariant_receive (h : CursorInvariant hmac world) {number : Int}
    {response : C012WireResponse} {result : C012TransitionResult}
    (hphase : world.clients client = .sent number)
    (hresult : (C012ClientChannel.receive hmac (.response response)
      ⟨world.sessionId, number⟩).1 = .ok result) :
    CursorInvariant hmac (world.setClient client (.answered number response)) := by
  have hheld : (world.clients client).holdsLock = true := by rw [hphase]; rfl
  have hfits := h.fits client
  rw [hphase] at hfits
  exact invariant_setClient h hheld rfl ⟨hfits, receive_definite hresult⟩

theorem invariant_writeClean (h : CursorInvariant hmac world) {number : Int}
    {response : C012WireResponse} (sequence : Option (List Char))
    (hphase : world.clients client = .answered number response) :
    CursorInvariant hmac (({ world with sequence := sequence }.leave client).remember
      (.recorded client number response)) := by
  have hheld : (world.clients client).holdsLock = true := by rw [hphase]; rfl
  have hlock := (h.lock client).mp hheld
  have hfits := h.fits client
  rw [hphase] at hfits
  apply invariant_alone h (Or.inr hlock) rfl
  · show (if world.lockHolder = some client then none else world.lockHolder) = none
    rw [if_pos hlock]
  · trivial
  · intro other attempt hattempt
    have hnone := (unresolved_recorded world.history client number response).symm.trans hattempt
    cases hnone
  · exact h.ordered.append hfits

/-- Every step of every client keeps the invariant. -/
theorem invariant_step (h : CursorInvariant hmac world) (input : C012ClientInput) :
    CursorInvariant hmac (world.step hmac client input) := by
  have hheld : ∀ {phase : C012ClientPhase}, world.clients client = phase →
      phase.holdsLock = true → (world.clients client).holdsLock = true := by
    intro phase hphase hholds
    rw [hphase]
    exact hholds
  have hfits := h.fits client
  unfold CursorWorld.step
  split
  next => exact h
  next control hphase =>
    split
    next hfree => exact invariant_acquire h control (Option.isNone_iff_eq_none.mp hfree)
    next => exact invariant_leave h
  next control hphase =>
    split
    next => exact invariant_leave h
    next cursor hparse =>
      split
      next => exact invariant_leave h
      next hclean =>
        split
        next => exact invariant_leave h
        next hexpected =>
          exact invariant_read h (hheld hphase rfl) hparse hclean (not_not.mp hexpected)
  next control number succeeds hphase =>
    rw [hphase] at hfits
    split
    next => exact invariant_setClient h (hheld hphase rfl) rfl hfits
    next => exact invariant_leave h
  next control number succeeds hphase =>
    rw [hphase] at hfits
    split
    next => exact invariant_setClient h (hheld hphase rfl) rfl hfits
    next => exact invariant_leave h
  next control number succeeds hphase =>
    split
    next => exact invariant_writePending h hphase
    next => exact invariant_leave h
  next control number hphase => exact invariant_send h hphase
  next number frame hphase =>
    split
    next response result hresult => exact invariant_receive h hphase hresult
    next => exact invariant_leave h
  next number response succeeds hphase =>
    split
    next => exact invariant_writeClean h _ hphase
    next => exact invariant_leave h
  next => exact invariant_leave h
  next => exact h

theorem invariant_run (h : CursorInvariant hmac world)
    (schedule : List (Nat × C012ClientInput)) :
    CursorInvariant hmac (world.run hmac schedule) := by
  induction schedule generalizing world with
  | nil => exact h
  | cons turn rest ih => exact ih (invariant_step h turn.2)

theorem step_sessionId (input : C012ClientInput) :
    (world.step hmac client input).sessionId = world.sessionId := by
  unfold CursorWorld.step
  repeat' split
  all_goals rfl

theorem run_sessionId (world : CursorWorld) (schedule : List (Nat × C012ClientInput)) :
    (world.run hmac schedule).sessionId = world.sessionId := by
  induction schedule generalizing world with
  | nil => rfl
  | cons turn rest ih =>
    have hrest := ih (world.step hmac turn.1 turn.2)
    rw [step_sessionId] at hrest
    exact hrest

theorem invariant_atSessionStart (sessionId : Guid) :
    CursorInvariant hmac (CursorWorld.atSessionStart sessionId) := by
  refine ⟨fun client => ?_, fun client => trivial, fun client number h => ?_, eachAfter_nil _⟩
  · simp [CursorWorld.atSessionStart, C012ClientPhase.holdsLock]
  · cases h

end Steps

/-- Whatever processes use the cursor of a session in whatever order and wherever they die: a
request follows another only after a definite response to that one was recorded, and as long as
there is none the cursor is pending at its number. -/
theorem sequence_not_reused (hmac : HmacSha256) (sessionId : Guid)
    (schedule : List (Nat × C012ClientInput)) :
    (∀ before client request between other next after,
      ((CursorWorld.atSessionStart sessionId).run hmac schedule).history =
        before ++ .sent client request :: (between ++ .sent other next :: after) →
      ∃ response, .recorded client request.sequenceNumber response ∈ between ∧
        Definite hmac sessionId request.sequenceNumber response) ∧
    ∀ before client request later,
      ((CursorWorld.atSessionStart sessionId).run hmac schedule).history =
        before ++ .sent client request :: later →
      (∀ response, .recorded client request.sequenceNumber response ∉ later) →
      later = [] ∧ ((CursorWorld.atSessionStart sessionId).run hmac schedule).sequence.bind
        C012SessionSequenceState.parse = some ⟨request.sequenceNumber, true⟩ := by
  have hinvariant := invariant_run (@invariant_atSessionStart hmac sessionId) schedule
  have hsession : ((CursorWorld.atSessionStart sessionId).run hmac schedule).sessionId =
      sessionId := run_sessionId _ schedule
  generalize (CursorWorld.atSessionStart sessionId).run hmac schedule = world at hinvariant hsession
  have hnext : ∀ before client request event after,
      world.history = before ++ .sent client request :: event :: after →
      ∃ response, event = .recorded client request.sequenceNumber response ∧
        Definite hmac sessionId request.sequenceNumber response := by
    intro before client request event after hhistory
    have hsplit : world.history = (before ++ [.sent client request]) ++ event :: after := by
      rw [hhistory, List.append_assoc]
      rfl
    have hfollows := hinvariant.ordered.split hsplit
    cases event with
    | sent other next =>
      rw [FollowsOn, unresolved_sent] at hfollows
      cases hfollows
    | recorded other number response =>
      rw [FollowsOn, unresolved_sent, hsession] at hfollows
      obtain ⟨hattempt, hdefinite⟩ := hfollows
      cases hattempt
      exact ⟨response, rfl, hdefinite⟩
  constructor
  · intro before client request between other next after hhistory
    cases between with
    | nil =>
      obtain ⟨response, heq, -⟩ := hnext before client request _ after hhistory
      cases heq
    | cons event rest =>
      obtain ⟨response, heq, hdefinite⟩ := hnext before client request event _ hhistory
      exact ⟨response, by rw [heq]; exact List.mem_cons_self, hdefinite⟩
  · intro before client request later hhistory hunrecorded
    have hlater : later = [] := by
      cases later with
      | nil => rfl
      | cons event rest =>
        obtain ⟨response, heq, -⟩ := hnext before client request event rest hhistory
        exact absurd (by rw [heq]; exact List.mem_cons_self) (hunrecorded response)
    refine ⟨hlater, ?_⟩
    rw [hlater] at hhistory
    obtain ⟨hrange, hsequence⟩ := hinvariant.blocked client request.sequenceNumber
      (by rw [hhistory, unresolved_sent])
    rw [hsequence, Option.bind_some, parse_format hrange]

end TradeJournalWorker
