import Mathlib.Algebra.Ring.Nat
import Mathlib.Data.List.Basic

namespace FrameReading

/-- A length in four bytes, the most significant one first. -/
def encodeLength (length : Nat) : List UInt8 :=
  [UInt8.ofNat (length / 2 ^ 24), UInt8.ofNat (length / 2 ^ 16), UInt8.ofNat (length / 2 ^ 8),
    UInt8.ofNat length]

def decodeLength : List UInt8 → Nat
  | [a, b, c, d] => a.toNat * 2 ^ 24 + b.toNat * 2 ^ 16 + c.toNat * 2 ^ 8 + d.toNat
  | _ => 0

theorem decodeLength_encodeLength {length : Nat} (h : length < 2 ^ 32) :
    decodeLength (encodeLength length) = length := by
  simp only [encodeLength, decodeLength, UInt8.toNat_ofNat']
  omega

/-- A reader of one length-prefixed frame, which takes its bytes in any portions. -/
inductive Reader where
  | header (got : List UInt8)
  | payload (declared : Nat) (got : List UInt8)
  | frame (payload : List UInt8)
  | closed
  | failed (message : String)
  deriving DecidableEq, Repr

namespace Reader

variable {limit : Nat}

/-- How many bytes the reader asks for. -/
def missing : Reader → Nat
  | header got => 4 - got.length
  | payload declared got => declared - got.length
  | _ => 0

def ended : Reader → Bool
  | header _ => false
  | payload _ _ => false
  | _ => true

/-- The length is checked as soon as its fourth byte is there. -/
def feed (limit : Nat) (reader : Reader) (bytes : List UInt8) : Reader :=
  match reader with
  | header got =>
    if (got ++ bytes).length < 4 then header (got ++ bytes)
    else
      let declared := decodeLength (got ++ bytes)
      if declared = 0 ∨ declared > limit then
        failed "Declared frame length is out of the allowed range."
      else payload declared []
  | payload declared got =>
    if (got ++ bytes).length < declared then payload declared (got ++ bytes)
    else frame (got ++ bytes)
  | other => other

/-- Nothing is an end before the first byte of a frame only. -/
def endOfStream : Reader → Reader
  | header [] => closed
  | header _ => failed "Stream ended mid-length-prefix."
  | payload _ _ => failed "Stream ended mid-payload."
  | other => other

end Reader

theorem Reader.feed_header {limit length : Nat} (h : 1 ≤ length ∧ length ≤ limit)
    (hlimit : limit < 2 ^ 32) :
    (Reader.header []).feed limit (encodeLength length) = .payload length [] := by
  have hdeclared : decodeLength (encodeLength length) = length :=
    decodeLength_encodeLength (by omega)
  have hfour : ¬ (encodeLength length).length < 4 := Nat.lt_irrefl 4
  have hrange : ¬ (length = 0 ∨ length > limit) := by omega
  simp only [Reader.feed, List.nil_append, if_neg hfour, hdeclared, if_neg hrange]

theorem Reader.feed_payload {limit : Nat} (payload : List UInt8) :
    (Reader.payload payload.length []).feed limit payload = .frame payload := by
  have hall : ¬ payload.length < payload.length := Nat.lt_irrefl _
  simp only [Reader.feed, List.nil_append, if_neg hall]

def frameBytes (payload : List UInt8) : List UInt8 := encodeLength payload.length ++ payload

/-- The reader is on its way through the frame and `rest` is still to come. -/
def Ahead (payload : List UInt8) (reader : Reader) (rest : List UInt8) : Prop :=
  match reader with
  | .header got => got.length < 4 ∧ got ++ rest = frameBytes payload
  | .payload declared got =>
    declared = payload.length ∧ got.length < declared ∧ got ++ rest = payload
  | .frame received => received = payload ∧ rest = []
  | _ => False

theorem ahead_start (payload : List UInt8) : Ahead payload (.header []) (frameBytes payload) :=
  ⟨by decide, rfl⟩

/-- Whatever portion arrives next, the reader stays on its way. -/
theorem Ahead.feed {limit : Nat} {payload rest bytes : List UInt8} {reader : Reader}
    (h : Ahead payload reader (bytes ++ rest)) (hbytes : bytes.length ≤ reader.missing)
    (hpayload : 1 ≤ payload.length ∧ payload.length ≤ limit) (hlimit : limit < 2 ^ 32) :
    Ahead payload (reader.feed limit bytes) rest := by
  cases reader with
  | header got =>
    obtain ⟨hgot, hframe⟩ := h
    have hmissing : bytes.length ≤ 4 - got.length := hbytes
    have hlength : (got ++ bytes).length = got.length + bytes.length := List.length_append
    by_cases hlt : (got ++ bytes).length < 4
    · have hfeed : (Reader.header got).feed limit bytes = .header (got ++ bytes) := if_pos hlt
      rw [hfeed]
      exact ⟨hlt, by rw [List.append_assoc, hframe]⟩
    · have hfour : (got ++ bytes).length = (encodeLength payload.length).length := by
        have : (encodeLength payload.length).length = 4 := rfl
        omega
      have hsplit : (got ++ bytes) ++ rest = encodeLength payload.length ++ payload := by
        rw [List.append_assoc]
        exact hframe
      obtain ⟨hfront, hrest⟩ := List.append_inj hsplit hfour
      have hdeclared : decodeLength (got ++ bytes) = payload.length := by
        rw [hfront]
        exact decodeLength_encodeLength (by omega)
      have hfeed : (Reader.header got).feed limit bytes = .payload payload.length [] := by
        show (if _ then _ else _) = _
        rw [if_neg hlt, hdeclared, if_neg (by omega)]
      rw [hfeed]
      refine ⟨rfl, ?_, hrest⟩
      show 0 < payload.length
      omega
  | payload declared got =>
    obtain ⟨hdeclared, hgot, hall⟩ := h
    have hmissing : bytes.length ≤ declared - got.length := hbytes
    have hlength : (got ++ bytes).length = got.length + bytes.length := List.length_append
    by_cases hlt : (got ++ bytes).length < declared
    · have hfeed : (Reader.payload declared got).feed limit bytes =
        .payload declared (got ++ bytes) := if_pos hlt
      rw [hfeed]
      exact ⟨hdeclared, hlt, by rw [List.append_assoc, hall]⟩
    · have hfeed : (Reader.payload declared got).feed limit bytes = .frame (got ++ bytes) :=
        if_neg hlt
      have hsplit : (got ++ bytes) ++ rest = payload ++ [] := by
        rw [List.append_assoc, hall, List.append_nil]
      rw [hfeed]
      exact List.append_inj hsplit (by omega)
  | frame received =>
    obtain ⟨hreceived, hnothing⟩ := h
    exact ⟨hreceived, (List.append_eq_nil_iff.mp hnothing).2⟩
  | closed => exact h.elim
  | failed message => exact h.elim

end FrameReading
