import TradeJournalWorker.ContractDigests
import TradeJournalWorker.CursorText
import TradeJournalWorker.DelimitedText
import TradeJournalWorker.SessionChannels

namespace TradeJournalWorker

open DelimitedText
open Lab (utf8Bytes utf8Bytes_injective)

/-- The last `count` hexadecimal digits of a number. -/
def hexText : Nat → Nat → List Char
  | 0, _ => []
  | count + 1, value => hexText count (value / 16) ++ [Nat.digitChar (value % 16)]

/-- `Guid.ToString("D")`. -/
def guidText (guid : Guid) : List Char :=
  let digits := hexText 32 guid.toNat
  digits.take 8 ++ '-' :: ((digits.drop 8).take 4 ++ '-' :: ((digits.drop 12).take 4 ++ '-' ::
    ((digits.drop 16).take 4 ++ '-' :: digits.drop 20)))

def fromHexDigit (c : Char) : Option Nat :=
  if '0' ≤ c ∧ c ≤ '9' then some (c.toNat - 48)
  else if 'a' ≤ c ∧ c ≤ 'f' then some (c.toNat - 87)
  else if 'A' ≤ c ∧ c ≤ 'F' then some (c.toNat - 55)
  else none

/-- `Convert.FromHexString`, `none` where it throws. -/
def fromHexString : List Char → Option (List UInt8)
  | [] => some []
  | [_] => none
  | high :: low :: rest =>
    match fromHexDigit high, fromHexDigit low, fromHexString rest with
    | some high, some low, some bytes => some (UInt8.ofNat (16 * high + low) :: bytes)
    | _, _, _ => none

def toHex (bytes : List UInt8) : List Char :=
  bytes.flatMap fun byte => [Nat.digitChar (byte.toNat / 16), Nat.digitChar (byte.toNat % 16)]

example : guidText 0x00112233445566778899aabbccddeeff#128 =
    "00112233-4455-6677-8899-aabbccddeeff".toList := by decide
example : fromHexString "0aFF".toList = some [10, 255] := by decide

/-- `ToString` of an enumeration: the name of the number, or its digits where it has none. -/
def enumText (names : List String) (value : Int) : List Char :=
  match if value < 0 then none else names[value.toNat]? with
  | some name => name.toList
  | none => integerToString value

def c012StateNames : List String :=
  ["NotStarted", "C0JobCreating", "C0RootLaunching", "C0Retained", "C1DiscoveryRunning",
    "C1Retained", "C2Submitting", "C2LoginWindow", "C2Teardown", "Terminated", "FailedClosed"]

def c012RejectionReasonNames : List String :=
  ["None", "IllegalTransition", "TerminalState", "SessionMismatch", "SequenceOutOfOrder",
    "InvalidRequest", "OperationFailed", "RootProcessDied"]

def c012ControlNames : List String := ["C0", "C1", "C2"]

def c012RequestTypeNames : List String := ["Start", "Query", "SubmitConfig"]

def jsonMember (name : String) (value : List Char) : List Char :=
  '"' :: (name.toList ++ '"' :: ':' :: value)

/-- `WriteString`; no text that is written here holds a character that is escaped. -/
def quotedText (text : List Char) : List Char := '"' :: (text ++ ['"'])

def jsonMembers : List (List Char) → List Char
  | [] => []
  | [member] => member
  | member :: members => member ++ ',' :: jsonMembers members

def jsonObject (members : List (List Char)) : List Char := '{' :: (jsonMembers members ++ ['}'])

namespace C012CanonicalPayload

def domainTag : List Char := "MT5_LAB_C012_IPC".toList

def requestMessageType : List Char := "REQUEST".toList

def responseMessageType : List Char := "RESPONSE".toList

def prefixText (messageType : List Char) (schemaVersion : Int) : List Char :=
  domainTag ++ '\x00' :: (messageType ++ '\x00' :: (integerToString schemaVersion ++ ['\x00']))

/-- `Prefix`. -/
def withPrefix (messageType : List Char) (schemaVersion : Int) (canonicalJson : List Char) :
    List UInt8 :=
  utf8Bytes (String.ofList (prefixText messageType schemaVersion)) ++
    utf8Bytes (String.ofList canonicalJson)

def requestJson (schemaVersion : Int) (sessionId : Guid) (sequenceNumber : Int)
    (control requestType : Int) : List Char :=
  jsonObject [
    jsonMember "schema_version" (integerToString schemaVersion),
    jsonMember "c012_session_id" (quotedText (guidText sessionId)),
    jsonMember "sequence_number" (integerToString sequenceNumber),
    jsonMember "control" (quotedText (enumText c012ControlNames control)),
    jsonMember "request_type" (quotedText (enumText c012RequestTypeNames requestType))]

def responseJson (schemaVersion : Int) (sessionId : Guid) (sequenceNumber : Int)
    (accepted : Bool) (resultingState reason : Int) : List Char :=
  jsonObject [
    jsonMember "schema_version" (integerToString schemaVersion),
    jsonMember "c012_session_id" (quotedText (guidText sessionId)),
    jsonMember "sequence_number" (integerToString sequenceNumber),
    jsonMember "accepted" (boolText accepted),
    jsonMember "resulting_state" (quotedText (enumText c012StateNames resultingState)),
    jsonMember "reason" (quotedText (enumText c012RejectionReasonNames reason))]

def forRequest (schemaVersion : Int) (sessionId : Guid) (sequenceNumber : Int)
    (control requestType : Int) : List UInt8 :=
  withPrefix requestMessageType schemaVersion
    (requestJson schemaVersion sessionId sequenceNumber control requestType)

def forResponse (schemaVersion : Int) (sessionId : Guid) (sequenceNumber : Int)
    (accepted : Bool) (resultingState reason : Int) : List UInt8 :=
  withPrefix responseMessageType schemaVersion
    (responseJson schemaVersion sessionId sequenceNumber accepted resultingState reason)

end C012CanonicalPayload

/-- What a tag is made for. An enumeration is its number, which need not have a name. -/
inductive SignedMessage where
  | request (schemaVersion : Int) (sessionId : Guid) (sequenceNumber : Int)
      (control requestType : Int)
  | response (schemaVersion : Int) (sessionId : Guid) (sequenceNumber : Int) (accepted : Bool)
      (resultingState reason : Int)
  deriving DecidableEq

def SignedMessage.payload : SignedMessage → List UInt8
  | request schemaVersion sessionId sequenceNumber control requestType =>
    C012CanonicalPayload.forRequest schemaVersion sessionId sequenceNumber control requestType
  | response schemaVersion sessionId sequenceNumber accepted resultingState reason =>
    C012CanonicalPayload.forResponse schemaVersion sessionId sequenceNumber accepted
      resultingState reason

namespace C012MessageAuthenticator

/-- `HMACSHA256.HashData` of a secret and a payload. -/
abbrev HashData := List UInt8 → List UInt8 → List UInt8

/-- `SignRequest` and `SignResponse`. -/
def sign (hashData : HashData) (secret : List UInt8) (message : SignedMessage) : List Char :=
  toHex (hashData secret message.payload)

/-- `Matches`. -/
def matchesTag (hashData : HashData) (secret payload : List UInt8) (claimedHmacHex : List Char) :
    Bool :=
  match fromHexString claimedHmacHex with
  | none => false
  | some actual =>
    (hashData secret payload).length == actual.length && hashData secret payload == actual

/-- `VerifyRequest` and `VerifyResponse`. -/
def verify (hashData : HashData) (secret : List UInt8) (message : SignedMessage)
    (hmacSha256Hex : List Char) : Bool :=
  matchesTag hashData secret message.payload hmacSha256Hex

end C012MessageAuthenticator

section Hex

theorem fromHexDigit_digitChar {n : Nat} (h : n < 16) : fromHexDigit (Nat.digitChar n) = some n := by
  have hall : ∀ n < 16, fromHexDigit (Nat.digitChar n) = some n := by decide
  exact hall n h

theorem digitChar_inj {m n : Nat} (hm : m < 16) (hn : n < 16)
    (h : Nat.digitChar m = Nat.digitChar n) : m = n := by
  have hread := congrArg fromHexDigit h
  rw [fromHexDigit_digitChar hm, fromHexDigit_digitChar hn] at hread
  exact Option.some.inj hread

theorem hexText_length (count value : Nat) : (hexText count value).length = count := by
  induction count generalizing value with
  | zero => rfl
  | succ count ih => rw [hexText, List.length_append, ih, List.length_singleton]

theorem hexText_inj {count value value' : Nat} (hvalue : value < 16 ^ count)
    (hvalue' : value' < 16 ^ count) (h : hexText count value = hexText count value') :
    value = value' := by
  induction count generalizing value value' with
  | zero =>
    have hone : 16 ^ 0 = 1 := rfl
    omega
  | succ count ih =>
    have hlength : (hexText count (value / 16)).length = (hexText count (value' / 16)).length := by
      rw [hexText_length, hexText_length]
    obtain ⟨hfront, hlast⟩ := List.append_inj h hlength
    have hdigit := digitChar_inj (Nat.mod_lt _ (by omega)) (Nat.mod_lt _ (by omega))
      (List.cons.inj hlast).1
    have hpower : 16 ^ (count + 1) = 16 ^ count * 16 := Nat.pow_succ 16 count
    have hhigh := ih (by omega) (by omega) hfront
    omega

theorem digitChar_isHex {n : Nat} (h : n < 16) :
    ('0' ≤ Nat.digitChar n ∧ Nat.digitChar n ≤ '9') ∨
      ('a' ≤ Nat.digitChar n ∧ Nat.digitChar n ≤ 'f') := by
  have hall : ∀ n < 16, ('0' ≤ Nat.digitChar n ∧ Nat.digitChar n ≤ '9') ∨
      ('a' ≤ Nat.digitChar n ∧ Nat.digitChar n ≤ 'f') := by decide
  exact hall n h

theorem mem_hexText {count value : Nat} {c : Char} (h : c ∈ hexText count value) :
    ∃ n < 16, c = Nat.digitChar n := by
  induction count generalizing value with
  | zero => exact absurd h List.not_mem_nil
  | succ count ih =>
    cases List.mem_append.mp h with
    | inl hfront => exact ih hfront
    | inr hlast => exact ⟨value % 16, Nat.mod_lt _ (by omega), List.mem_singleton.mp hlast⟩

theorem digitChar_fromHexDigit {c : Char}
    (h : ('0' ≤ c ∧ c ≤ '9') ∨ ('a' ≤ c ∧ c ≤ 'f')) :
    ∃ n < 16, fromHexDigit c = some n ∧ Nat.digitChar n = c := by
  have hnumber : c = Char.ofNat c.toNat := (Char.ofNat_toNat c).symm
  have hall : ∀ n < 256, ('0' ≤ Char.ofNat n ∧ Char.ofNat n ≤ '9') ∨
      ('a' ≤ Char.ofNat n ∧ Char.ofNat n ≤ 'f') →
      ∃ digit < 16, fromHexDigit (Char.ofNat n) = some digit ∧
        Nat.digitChar digit = Char.ofNat n := by decide +kernel
  have hsmall : c.toNat < 256 := by
    cases h with
    | inl hdigit =>
      have hle : c.toNat ≤ '9'.toNat := hdigit.2
      exact Nat.lt_of_le_of_lt hle (by decide)
    | inr hletter =>
      have hle : c.toNat ≤ 'f'.toNat := hletter.2
      exact Nat.lt_of_le_of_lt hle (by decide)
  rw [hnumber] at h ⊢
  exact hall c.toNat hsmall h

/-- Of a text in lower case, the bytes give back the text. -/
theorem toHex_fromHexString {text : List Char}
    (hlower : ∀ c ∈ text, ('0' ≤ c ∧ c ≤ '9') ∨ ('a' ≤ c ∧ c ≤ 'f')) {bytes : List UInt8}
    (h : fromHexString text = some bytes) : toHex bytes = text := by
  induction text using fromHexString.induct generalizing bytes with
  | case1 =>
    cases h
    rfl
  | case2 c => cases h
  | case3 high low rest m n tail hrest hlow hhigh ih =>
    rw [fromHexString, hhigh, hlow, hrest] at h
    cases h
    obtain ⟨m', hm, hreadHigh, hhigh'⟩ := digitChar_fromHexDigit (hlower high List.mem_cons_self)
    obtain ⟨n', hn, hreadLow, hlow'⟩ :=
      digitChar_fromHexDigit (hlower low (List.mem_cons_of_mem _ List.mem_cons_self))
    have hm' : m' = m := Option.some.inj (hreadHigh.symm.trans hhigh)
    have hn' : n' = n := Option.some.inj (hreadLow.symm.trans hlow)
    subst hm' hn'
    have htail := ih (fun c hc =>
      hlower c (List.mem_cons_of_mem _ (List.mem_cons_of_mem _ hc))) hrest
    have hbyte : (UInt8.ofNat (16 * m' + n')).toNat = 16 * m' + n' := by
      rw [UInt8.toNat_ofNat']
      omega
    have hdiv : (16 * m' + n') / 16 = m' := by omega
    have hmod : (16 * m' + n') % 16 = n' := by omega
    show Nat.digitChar _ :: Nat.digitChar _ :: toHex tail = _
    rw [hbyte, hdiv, hmod, hhigh', hlow', htail]
  | case4 high low rest hnone ih =>
    rw [fromHexString] at h
    split at h
    next m n tail hhigh hlow hrest => exact (hnone m n tail hhigh hlow hrest).elim
    next => cases h

theorem mem_toHex {bytes : List UInt8} {c : Char} (h : c ∈ toHex bytes) :
    ('0' ≤ c ∧ c ≤ '9') ∨ ('a' ≤ c ∧ c ≤ 'f') := by
  obtain ⟨byte, _, hdigits⟩ := List.mem_flatMap.mp h
  have hbyte := byte.toNat_lt
  cases List.mem_cons.mp hdigits with
  | inl hhigh =>
    rw [hhigh]
    exact digitChar_isHex (by omega)
  | inr hrest =>
    rw [List.mem_singleton.mp hrest]
    exact digitChar_isHex (by omega)

theorem toHex_length (bytes : List UInt8) : (toHex bytes).length = 2 * bytes.length := by
  induction bytes with
  | nil => rfl
  | cons byte bytes ih =>
    show (toHex bytes).length + 1 + 1 = _
    rw [ih, List.length_cons]
    omega

theorem fromHexString_toHex (bytes : List UInt8) : fromHexString (toHex bytes) = some bytes := by
  induction bytes with
  | nil => rfl
  | cons byte bytes ih =>
    have hbyte := byte.toNat_lt
    have hhigh := fromHexDigit_digitChar (show byte.toNat / 16 < 16 by omega)
    have hlow := fromHexDigit_digitChar (show byte.toNat % 16 < 16 by omega)
    have hsum : 16 * (byte.toNat / 16) + byte.toNat % 16 = byte.toNat := by omega
    show fromHexString (_ :: _ :: toHex bytes) = _
    simp only [fromHexString, hhigh, hlow, ih, hsum, UInt8.ofNat_toNat]

end Hex

section Texts

theorem notMem_integerToString {c : Char} (h : isNumberChar c = false) (n : Int) :
    c ∉ integerToString n := by
  intro hmem
  rw [isNumberChar_of_mem hmem] at h
  cases h

theorem guidText_digits (guid : Guid) :
    (guidText guid).filter (fun c => c ≠ '-') = hexText 32 guid.toNat := by
  have hkeep : ∀ text : List Char, (∀ c ∈ text, c ∈ hexText 32 guid.toNat) →
      text.filter (fun c => c ≠ '-') = text := by
    intro text htext
    apply List.filter_eq_self.mpr
    intro c hc
    obtain ⟨n, hn, hdigit⟩ := mem_hexText (htext c hc)
    have hall : ∀ n < 16, Nat.digitChar n ≠ '-' := by decide
    rw [hdigit]
    exact decide_eq_true (hall n hn)
  have hdash : ∀ text : List Char, ('-' :: text).filter (fun c => c ≠ '-') =
      text.filter (fun c => c ≠ '-') := fun text => List.filter_cons_of_neg (by decide)
  unfold guidText
  generalize hexText 32 guid.toNat = digits at *
  simp only [List.filter_append, hdash]
  rw [hkeep _ fun c hc => List.mem_of_mem_take hc,
    hkeep _ fun c hc => List.mem_of_mem_drop (List.mem_of_mem_take hc),
    hkeep _ fun c hc => List.mem_of_mem_drop (List.mem_of_mem_take hc),
    hkeep _ fun c hc => List.mem_of_mem_drop (List.mem_of_mem_take hc),
    hkeep _ fun c hc => List.mem_of_mem_drop hc]
  have h12 : digits.drop 12 = (digits.drop 8).drop 4 := by rw [List.drop_drop]
  have h16 : digits.drop 16 = (digits.drop 12).drop 4 := by rw [List.drop_drop]
  have h20 : digits.drop 20 = (digits.drop 16).drop 4 := by rw [List.drop_drop]
  rw [h20, List.take_append_drop, h16, List.take_append_drop, h12, List.take_append_drop,
    List.take_append_drop]

theorem guidText_inj {guid guid' : Guid} (h : guidText guid = guidText guid') : guid = guid' := by
  have hdigits := congrArg (List.filter fun c => c ≠ '-') h
  rw [guidText_digits, guidText_digits] at hdigits
  have hpower : 16 ^ 32 = 2 ^ 128 := by decide
  apply BitVec.eq_of_toNat_eq
  apply hexText_inj _ _ hdigits
  · rw [hpower]
    exact guid.isLt
  · rw [hpower]
    exact guid'.isLt

theorem quote_notMem_guidText (guid : Guid) : '"' ∉ guidText guid := by
  have hdigits : ∀ c ∈ hexText 32 guid.toNat, c ≠ '"' := by
    intro c hc
    obtain ⟨n, hn, hdigit⟩ := mem_hexText hc
    have hall : ∀ n < 16, Nat.digitChar n ≠ '"' := by decide
    rw [hdigit]
    exact hall n hn
  intro hmem
  have hkept : '"' ∈ (guidText guid).filter (fun c => c ≠ '-') :=
    List.mem_filter.mpr ⟨hmem, by decide⟩
  rw [guidText_digits] at hkept
  exact hdigits _ hkept rfl

/-- Names that are none twice and that are no numbers. -/
structure NamesApart (names : List String) : Prop where
  nodup : names.Nodup
  letter : ∀ name ∈ names, ∃ c ∈ name.toList, isNumberChar c = false
  unquoted : ∀ name ∈ names, '"' ∉ name.toList

instance (names : List String) : Decidable (NamesApart names) :=
  decidable_of_iff (names.Nodup ∧
      (∀ name ∈ names, (name.toList.any fun c => !isNumberChar c) = true) ∧
      ∀ name ∈ names, '"' ∉ name.toList) <| by
    simp only [List.any_eq_true, Bool.not_eq_true']
    exact ⟨fun h => ⟨h.1, h.2.1, h.2.2⟩, fun h => ⟨h.nodup, h.letter, h.unquoted⟩⟩

theorem enumText_cases (names : List String) (value : Int) :
    (∃ (index : Nat) (name : String), value = index ∧ names[index]? = some name ∧
      enumText names value = name.toList) ∨ enumText names value = integerToString value := by
  unfold enumText
  by_cases hneg : value < 0
  · rw [if_pos hneg]
    exact Or.inr rfl
  · rw [if_neg hneg]
    cases hname : names[value.toNat]? with
    | none => exact Or.inr rfl
    | some name => exact Or.inl ⟨value.toNat, name, by omega, hname, rfl⟩

theorem NamesApart.name_ne_number {names : List String} (h : NamesApart names) {index : Nat}
    {name : String} (hname : names[index]? = some name) (value : Int) :
    name.toList ≠ integerToString value := by
  obtain ⟨c, hc, hletter⟩ := h.letter name (List.mem_of_getElem? hname)
  intro heq
  rw [heq] at hc
  exact notMem_integerToString hletter value hc

theorem NamesApart.enumText_inj {names : List String} (h : NamesApart names) {value value' : Int}
    (heq : enumText names value = enumText names value') : value = value' := by
  rcases enumText_cases names value with ⟨index, name, hvalue, hname, htext⟩ | hnumber
  · rw [htext] at heq
    rcases enumText_cases names value' with ⟨index', name', hvalue', hname', htext'⟩ | hnumber'
    · rw [htext'] at heq
      have hsame : name = name' := String.toList_inj.mp heq
      obtain ⟨hindex, _⟩ := List.getElem?_eq_some_iff.mp hname
      have hposition := (List.getElem?_inj hindex h.nodup).mp
        (hname.trans ((congrArg some hsame).trans hname'.symm))
      rw [hvalue, hvalue', hposition]
    · rw [hnumber'] at heq
      exact absurd heq (h.name_ne_number hname value')
  · rw [hnumber] at heq
    rcases enumText_cases names value' with ⟨index', name', hvalue', hname', htext'⟩ | hnumber'
    · rw [htext'] at heq
      exact absurd heq.symm (h.name_ne_number hname' value)
    · rw [hnumber'] at heq
      exact integerToString_inj heq

theorem NamesApart.quote_notMem {names : List String} (h : NamesApart names) (value : Int) :
    '"' ∉ enumText names value := by
  rcases enumText_cases names value with ⟨index, name, hvalue, hname, htext⟩ | hnumber
  · rw [htext]
    exact h.unquoted name (List.mem_of_getElem? hname)
  · rw [hnumber]
    exact notMem_integerToString (by decide) value

theorem boolText_inj {value value' : Bool} (h : boolText value = boolText value') :
    value = value' := by
  cases value with
  | false =>
    cases value' with
    | false => rfl
    | true => exact absurd h (by decide)
  | true =>
    cases value' with
    | false => exact absurd h (by decide)
    | true => rfl

theorem comma_notMem_boolText (value : Bool) : ',' ∉ boolText value := by
  cases value with
  | false => decide
  | true => decide

end Texts

namespace C012CanonicalPayload

def versionSlots : List (Slot Char) :=
  [⟨domainTag ++ ['\x00'], '\x00'⟩, ⟨[], '\x00'⟩,
    ⟨'{' :: '"' :: ("schema_version".toList ++ ['"', ':']), ','⟩,
    ⟨'"' :: ("c012_session_id".toList ++ ['"', ':', '"']), '"'⟩,
    ⟨',' :: '"' :: ("sequence_number".toList ++ ['"', ':']), ','⟩]

def requestTemplate : List (Slot Char) :=
  versionSlots ++ [⟨'"' :: ("control".toList ++ ['"', ':', '"']), '"'⟩,
    ⟨',' :: '"' :: ("request_type".toList ++ ['"', ':', '"']), '"'⟩, ⟨[], '}'⟩]

def responseTemplate : List (Slot Char) :=
  versionSlots ++ [⟨'"' :: ("accepted".toList ++ ['"', ':']), ','⟩,
    ⟨'"' :: ("resulting_state".toList ++ ['"', ':', '"']), '"'⟩,
    ⟨',' :: '"' :: ("reason".toList ++ ['"', ':', '"']), '"'⟩, ⟨[], '}'⟩]

def versionValues (messageType : List Char) (schemaVersion : Int) (sessionId : Guid)
    (sequenceNumber : Int) : List (List Char) :=
  [messageType, integerToString schemaVersion, integerToString schemaVersion, guidText sessionId,
    integerToString sequenceNumber]

def requestValues (schemaVersion : Int) (sessionId : Guid) (sequenceNumber : Int)
    (control requestType : Int) : List (List Char) :=
  versionValues requestMessageType schemaVersion sessionId sequenceNumber ++
    [enumText c012ControlNames control, enumText c012RequestTypeNames requestType, []]

def responseValues (schemaVersion : Int) (sessionId : Guid) (sequenceNumber : Int)
    (accepted : Bool) (resultingState reason : Int) : List (List Char) :=
  versionValues responseMessageType schemaVersion sessionId sequenceNumber ++
    [boolText accepted, enumText c012StateNames resultingState,
      enumText c012RejectionReasonNames reason, []]

theorem withPrefix_eq (messageType : List Char) (schemaVersion : Int) (canonicalJson : List Char) :
    withPrefix messageType schemaVersion canonicalJson =
      utf8Bytes (String.ofList (prefixText messageType schemaVersion ++ canonicalJson)) := by
  unfold withPrefix utf8Bytes
  rw [String.ofList_append]
  show _ = (String.toByteArray _).data.toList
  rw [String.toByteArray_append, ByteArray.toList_data_append]
  rfl

theorem requestText_eq (schemaVersion : Int) (sessionId : Guid) (sequenceNumber : Int)
    (control requestType : Int) :
    prefixText requestMessageType schemaVersion ++
        requestJson schemaVersion sessionId sequenceNumber control requestType =
      render requestTemplate
        (requestValues schemaVersion sessionId sequenceNumber control requestType) := by
  simp only [prefixText, requestJson, jsonObject, jsonMembers, jsonMember, quotedText,
    requestTemplate, versionSlots, requestValues, versionValues, render, List.append_assoc,
    List.cons_append, List.nil_append]

theorem responseText_eq (schemaVersion : Int) (sessionId : Guid) (sequenceNumber : Int)
    (accepted : Bool) (resultingState reason : Int) :
    prefixText responseMessageType schemaVersion ++
        responseJson schemaVersion sessionId sequenceNumber accepted resultingState reason =
      render responseTemplate
        (responseValues schemaVersion sessionId sequenceNumber accepted resultingState reason) := by
  simp only [prefixText, responseJson, jsonObject, jsonMembers, jsonMember, quotedText,
    responseTemplate, versionSlots, responseValues, versionValues, render, List.append_assoc,
    List.cons_append, List.nil_append]

theorem requestValues_clean (schemaVersion : Int) (sessionId : Guid) (sequenceNumber : Int)
    (control requestType : Int) :
    Clean requestTemplate
      (requestValues schemaVersion sessionId sequenceNumber control requestType) := by
  have hcontrol : NamesApart c012ControlNames := by decide
  have hrequestType : NamesApart c012RequestTypeNames := by decide
  exact ⟨by decide, notMem_integerToString (by decide) _, notMem_integerToString (by decide) _,
    quote_notMem_guidText _, notMem_integerToString (by decide) _, hcontrol.quote_notMem _,
    hrequestType.quote_notMem _, List.not_mem_nil, trivial⟩

theorem responseValues_clean (schemaVersion : Int) (sessionId : Guid) (sequenceNumber : Int)
    (accepted : Bool) (resultingState reason : Int) :
    Clean responseTemplate
      (responseValues schemaVersion sessionId sequenceNumber accepted resultingState reason) := by
  have hstate : NamesApart c012StateNames := by decide
  have hreason : NamesApart c012RejectionReasonNames := by decide
  exact ⟨by decide, notMem_integerToString (by decide) _, notMem_integerToString (by decide) _,
    quote_notMem_guidText _, notMem_integerToString (by decide) _, comma_notMem_boolText _,
    hstate.quote_notMem _, hreason.quote_notMem _, List.not_mem_nil, trivial⟩

/-- The text behind a payload. -/
def payloadText : SignedMessage → List Char
  | .request schemaVersion sessionId sequenceNumber control requestType =>
    render requestTemplate
      (requestValues schemaVersion sessionId sequenceNumber control requestType)
  | .response schemaVersion sessionId sequenceNumber accepted resultingState reason =>
    render responseTemplate
      (responseValues schemaVersion sessionId sequenceNumber accepted resultingState reason)

theorem payload_eq (message : SignedMessage) :
    message.payload = utf8Bytes (String.ofList (payloadText message)) := by
  cases message with
  | request schemaVersion sessionId sequenceNumber control requestType =>
    show withPrefix _ _ _ = _
    rw [withPrefix_eq, requestText_eq]
    rfl
  | response schemaVersion sessionId sequenceNumber accepted resultingState reason =>
    show withPrefix _ _ _ = _
    rw [withPrefix_eq, responseText_eq]
    rfl

/-- The kind of a message stands before the second zero. -/
theorem request_ne_response (schemaVersion schemaVersion' : Int) (sessionId sessionId' : Guid)
    (sequenceNumber sequenceNumber' control requestType resultingState reason : Int)
    (accepted : Bool) :
    payloadText (.request schemaVersion sessionId sequenceNumber control requestType) ≠
      payloadText (.response schemaVersion' sessionId' sequenceNumber' accepted resultingState
        reason) := by
  intro h
  have hrequest : '\x00' ∉ requestMessageType := by decide
  have hresponse : '\x00' ∉ responseMessageType := by decide
  have hkind := (delimiter_inj hrequest hresponse (List.append_cancel_left h)).1
  exact absurd hkind (by decide)

theorem payloadText_inj {message message' : SignedMessage}
    (h : payloadText message = payloadText message') : message = message' := by
  cases message with
  | request schemaVersion sessionId sequenceNumber control requestType =>
    cases message' with
    | request schemaVersion' sessionId' sequenceNumber' control' requestType' =>
      have hvalues := render_inj (requestValues_clean _ _ _ _ _) (requestValues_clean _ _ _ _ _) h
      simp only [requestValues, versionValues, List.cons_append, List.nil_append, List.cons.injEq]
        at hvalues
      obtain ⟨_, hversion, _, hsession, hsequence, hcontrol, htype, _⟩ := hvalues
      have hcontrols : NamesApart c012ControlNames := by decide
      have htypes : NamesApart c012RequestTypeNames := by decide
      rw [integerToString_inj hversion, guidText_inj hsession, integerToString_inj hsequence,
        hcontrols.enumText_inj hcontrol, htypes.enumText_inj htype]
    | response => exact absurd h (request_ne_response _ _ _ _ _ _ _ _ _ _ _)
  | response schemaVersion sessionId sequenceNumber accepted resultingState reason =>
    cases message' with
    | request => exact absurd h.symm (request_ne_response _ _ _ _ _ _ _ _ _ _ _)
    | response schemaVersion' sessionId' sequenceNumber' accepted' resultingState' reason' =>
      have hvalues := render_inj (responseValues_clean _ _ _ _ _ _)
        (responseValues_clean _ _ _ _ _ _) h
      simp only [responseValues, versionValues, List.cons_append, List.nil_append,
        List.cons.injEq] at hvalues
      obtain ⟨_, hversion, _, hsession, hsequence, haccepted, hstate, hreason, _⟩ := hvalues
      have hstates : NamesApart c012StateNames := by decide
      have hreasons : NamesApart c012RejectionReasonNames := by decide
      rw [integerToString_inj hversion, guidText_inj hsession, integerToString_inj hsequence,
        boolText_inj haccepted, hstates.enumText_inj hstate, hreasons.enumText_inj hreason]

theorem payload_inj {message message' : SignedMessage} (h : message.payload = message'.payload) :
    message = message' := by
  rw [payload_eq, payload_eq] at h
  exact payloadText_inj (String.ofList_injective (utf8Bytes_injective h))

end C012CanonicalPayload

def C012State.number : C012State → Int
  | .notStarted => 0
  | .c0JobCreating => 1
  | .c0RootLaunching => 2
  | .c0Retained => 3
  | .c1DiscoveryRunning => 4
  | .c1Retained => 5
  | .c2Submitting => 6
  | .c2LoginWindow => 7
  | .c2Teardown => 8
  | .terminated => 9
  | .failedClosed => 10

def C012RejectionReason.number : C012RejectionReason → Int
  | .none => 0
  | .illegalTransition => 1
  | .terminalState => 2
  | .sessionMismatch => 3
  | .sequenceOutOfOrder => 4
  | .invalidRequest => 5
  | .operationFailed => 6
  | .rootProcessDied => 7

def C012Control.number : C012Control → Int
  | .c0 => 0
  | .c1 => 1
  | .c2 => 2

def C012RequestType.number : C012RequestType → Int
  | .start => 0
  | .query => 1
  | .submitConfig => 2

def C012CanonicalPayload.signedMessage : C012CanonicalPayload → SignedMessage
  | .request schemaVersion sessionId sequenceNumber control requestType =>
    .request schemaVersion sessionId sequenceNumber control.number requestType.number
  | .response schemaVersion sessionId sequenceNumber accepted resultingState reason =>
    .response schemaVersion sessionId sequenceNumber accepted resultingState.number reason.number

namespace C012MessageAuthenticator

variable (hashData : HashData) (secret : List UInt8)

theorem matchesTag_iff (payload : List UInt8) (tag : List Char) :
    matchesTag hashData secret payload tag = true ↔
      fromHexString tag = some (hashData secret payload) := by
  unfold matchesTag
  cases fromHexString tag with
  | none => simp
  | some actual =>
    simp only [Bool.and_eq_true, beq_iff_eq, Option.some.injEq]
    constructor
    · intro h
      exact h.2.symm
    · intro h
      rw [h]
      exact ⟨rfl, rfl⟩

/-- The payload names its message, whatever its fields hold. A tag made for one message is
accepted for another only where two different payloads have the same hash. -/
theorem canonicalPayload_binds :
    Function.Injective SignedMessage.payload ∧
      ∀ message message', verify hashData secret message' (sign hashData secret message) = true ↔
        message = message' ∨ (message.payload ≠ message'.payload ∧
          hashData secret message.payload = hashData secret message'.payload) := by
  refine ⟨fun _ _ h => C012CanonicalPayload.payload_inj h, fun message message' => ?_⟩
  show matchesTag hashData secret message'.payload _ = true ↔ _
  rw [matchesTag_iff, sign, fromHexString_toHex, Option.some.injEq]
  constructor
  · intro h
    by_cases hsame : message = message'
    · exact Or.inl hsame
    · exact Or.inr ⟨fun heq => hsame (C012CanonicalPayload.payload_inj heq), h⟩
  · intro h
    cases h with
    | inl hsame => rw [hsame]
    | inr hcollision => exact hcollision.2

theorem isLowerHex_iff (value : String) : C012WireValidation.isLowerHex value = true ↔
    value.toList.length = 64 ∧
      ∀ c ∈ value.toList, ('0' ≤ c ∧ c ≤ '9') ∨ ('a' ≤ c ∧ c ≤ 'f') := by
  simp only [C012WireValidation.isLowerHex, Bool.and_eq_true, beq_iff_eq, List.all_eq_true,
    Bool.or_eq_true, decide_eq_true_eq]

/-- The authenticator of a session, as the channels see it. -/
def hmacSha256 (hlength : ∀ payload, (hashData secret payload).length = 32) : HmacSha256 where
  sign payload := String.ofList (sign hashData secret payload.signedMessage)
  isHex payload := by
    rw [isLowerHex_iff, String.toList_ofList]
    constructor
    · rw [sign, toHex_length, hlength]
    · intro c hc
      exact mem_toHex hc

theorem tag_eq_sign_iff (hlength : ∀ payload, (hashData secret payload).length = 32)
    (payload : C012CanonicalPayload) {tag : String}
    (htag : C012WireValidation.isLowerHex tag = true) :
    (tag == (hmacSha256 hashData secret hlength).sign payload) =
      verify hashData secret payload.signedMessage tag.toList := by
  rw [Bool.eq_iff_iff, beq_iff_eq]
  show _ ↔ matchesTag hashData secret payload.signedMessage.payload tag.toList = true
  rw [matchesTag_iff]
  have hlower := ((isLowerHex_iff tag).mp htag).2
  constructor
  · intro h
    rw [h]
    show fromHexString (String.ofList _).toList = _
    rw [String.toList_ofList, sign, fromHexString_toHex]
  · intro h
    have htext := toHex_fromHexString hlower h
    show tag = String.ofList (toHex _)
    rw [htext, String.ofList_toList]

/-- A request that was found well formed is verified as its bytes are. -/
theorem request_verify (hlength : ∀ payload, (hashData secret payload).length = 32)
    {request : C012WireRequest} (h : request.isValid = true) :
    request.verify (hmacSha256 hashData secret hlength) =
      verify hashData secret request.payload.signedMessage request.hmacSha256Hex.toList := by
  unfold C012WireRequest.isValid at h
  rw [Bool.and_eq_true] at h
  exact tag_eq_sign_iff hashData secret hlength request.payload h.2

theorem response_verify (hlength : ∀ payload, (hashData secret payload).length = 32)
    {response : C012WireResponse} (h : response.isValid = true) :
    response.verify (hmacSha256 hashData secret hlength) =
      verify hashData secret response.payload.signedMessage response.hmacSha256Hex.toList := by
  unfold C012WireResponse.isValid at h
  rw [Bool.and_eq_true] at h
  exact tag_eq_sign_iff hashData secret hlength response.payload h.2

end C012MessageAuthenticator

end TradeJournalWorker
