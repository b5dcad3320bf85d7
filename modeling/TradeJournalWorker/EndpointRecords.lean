import Mathlib.Data.List.DropRight
import TradeJournalWorker.EventNormalizer
import TradeJournalWorker.ExceptRules

namespace TradeJournalWorker

/-- The two tables of the Unicode standard that the registry consults: the case folding and
`str.isalnum` of one character. Blanks fold to themselves and are not alphanumeric, and nothing
else folds to a blank or to nothing. -/
structure Unicode where
  fold : Char → List Char
  isAlnum : Char → Bool
  fold_blank : ∀ c, isPySpace c → fold c = [c]
  fold_ne_nil : ∀ c, fold c ≠ []
  fold_nonblank : ∀ c, ¬ isPySpace c → ∀ d ∈ fold c, ¬ isPySpace d
  blank_not_alnum : ∀ c, isPySpace c → isAlnum c = false

/-- `str.casefold`. -/
@[irreducible] def Unicode.casefold (unicode : Unicode) (text : String) : String :=
  String.ofList (text.toList.flatMap unicode.fold)

/-- `str.strip` with a text as its result. -/
@[irreducible] def stripText (text : String) : String := String.ofList (pyStrip text)

inductive IpAddress where
  | v4 (bits : BitVec 32)
  | v6 (bits : BitVec 128)
  deriving DecidableEq, Repr

namespace IpAddress

def isUnspecified : IpAddress → Bool
  | v4 bits => bits = 0
  | v6 bits => bits = 0

def isMulticast : IpAddress → Bool
  | v4 bits => bits >>> 28 = 0xE
  | v6 bits => bits >>> 120 = 0xFF

def isLoopback : IpAddress → Bool
  | v4 bits => bits >>> 24 = 127
  | v6 bits => bits = 1

def isLinkLocal : IpAddress → Bool
  | v4 bits => bits >>> 16 = 0xA9FE
  | v6 bits => bits >>> 118 = 0x3FA

def usable (address : IpAddress) : Bool :=
  ¬ address.isUnspecified ∧ ¬ address.isMulticast ∧ ¬ address.isLoopback ∧ ¬ address.isLinkLocal

end IpAddress

/-- The text of a host: the address it denotes, if any, and whether it is written as
`compressed` writes that address. -/
structure HostText where
  address : Option IpAddress
  compressed : Bool := true
  deriving DecidableEq, Repr

inductive EndpointStatus where
  | verified
  | invalid
  | superseded
  | candidate
  | metaquotesCdn
  | expired
  | other
  deriving DecidableEq, Repr

inductive InvalidationReason where
  | connectionFailed
  | connectionRefused
  | protocolIncompatible
  | serverUnrecognized
  | serverIdentityMismatch
  | supersededByNewVerification
  | legacyProvenanceInsufficient
  | legacyStatusMigration
  | other
  deriving DecidableEq, Repr

inductive Confidence where
  | low
  | medium
  | high
  | other
  deriving DecidableEq, Repr

/-- A record of registry v3 with the fields and JSON types it must have. -/
structure EndpointRecord where
  serverName : Option String
  host : HostText
  port : Int
  protocol : String
  status : EndpointStatus
  observedAt : Int
  discoveryMethod : String
  verificationPid : Int
  processCreationTime : Option Int
  verificationSessionId : String
  confidence : Confidence
  artifactRelativePath : String
  artifactSha256 : String
  invalidatedAt : Option Int := none
  invalidationReason : Option InvalidationReason := none
  invalidationEventId : Option String := none
  deriving DecidableEq, Repr

structure VerifiedBrokerEndpoint where
  brokerLabel : String
  serverName : Option String
  host : IpAddress
  port : Int
  protocol : String
  observedAt : Int
  discoveryMethod : String
  verificationPid : Int
  processCreationTime : Option Int
  verificationSessionId : String
  confidence : Confidence
  artifactRelativePath : String
  artifactSha256 : String
  deriving DecidableEq, Repr

def isLowerHex (c : Char) : Bool := c.isDigit ∨ 'a' ≤ c ∧ c ≤ 'f'

/-- `_SHA256.fullmatch`. -/
def isSha256 (text : String) : Bool := text.length = 64 ∧ text.toList.all isLowerHex

/-- `_UUID4.fullmatch`. -/
def isUuid4 (text : String) : Bool :=
  text.length = 36 ∧ text.toList.zipIdx.all fun (c, i) =>
    if i ∈ [8, 13, 18, 23] then c = '-'
    else if i = 14 then c = '4'
    else if i = 19 then c ∈ ['8', '9', 'a', 'b']
    else isLowerHex c

/-- A label or server name: not blank, at most 128 characters on one line. -/
def validName (text : String) : Bool :=
  stripText text ≠ "" ∧ text.length ≤ 128 ∧ text.toList.all fun c => c ≠ '\r' ∧ c ≠ '\n'

/-- `_validate_text`. -/
def validateText (text : String) : Option String :=
  if validName text then some (stripText text) else none

/-- `_broker_key`. -/
@[irreducible] def brokerKey (unicode : Unicode) (label : String) : String :=
  String.ofList ((unicode.casefold label).toList.filter unicode.isAlnum)

def verifiedMethods : List String :=
  ["MT5_LOGIN_DIALOG_IP", "MT5_NONINTERACTIVE_CONFIG", "MT5_MANAGED_INVESTOR_LOGIN"]

def EndpointRecord.legacyInvalid (record : EndpointRecord) : Bool :=
  record.status = .invalid ∧ (record.invalidationReason = some .legacyProvenanceInsufficient ∨
    record.invalidationReason = some .legacyStatusMigration)

/-- Closed records say when, why and by which event they were closed, open ones do not. -/
def EndpointRecord.invalidationError (record : EndpointRecord) : Option String :=
  if record.status = .invalid ∨ record.status = .superseded then
    if ¬ record.invalidatedAt.any (0 < ·) ∨ record.invalidationReason = none ∨
        record.invalidationReason = some .other ∨ ¬ record.invalidationEventId.any isUuid4 then
      some "endpoint invalidation metadata is invalid"
    else if record.status = .superseded ∧
        record.invalidationReason ≠ some .supersededByNewVerification then
      some "superseded endpoint reason is invalid"
    else if record.status = .invalid ∧
        record.invalidationReason = some .supersededByNewVerification then
      some "invalid endpoint reason is invalid"
    else none
  else if record.invalidatedAt.isSome ∨ record.invalidationReason.isSome ∨
      record.invalidationEventId.isSome then
    some "active endpoint contains invalidation metadata"
  else none

/-- The checks of `_record` between the host and the invalidation fields. -/
def EndpointRecord.fieldError (record : EndpointRecord) : Option String :=
  if ¬ (1 ≤ record.port ∧ record.port ≤ 65535) then some "endpoint port is invalid"
  else if record.protocol ≠ "TCP/TLS" then some "endpoint protocol is unsupported"
  else if record.status = .expired ∨ record.status = .other then
    some "endpoint status is invalid"
  else if record.discoveryMethod = "" then some "endpoint discovery method is invalid"
  else if record.status = .verified ∧ record.discoveryMethod ∉ verifiedMethods then
    some "verified endpoint method is not verifiable"
  else if ¬ (record.legacyInvalid ∧ record.serverName = none) ∧
      ¬ record.serverName.any validName then
    some "endpoint server name is invalid"
  else if record.observedAt ≤ 0 then some "endpoint observation timestamp is invalid"
  else if record.verificationPid ≤ 0 then some "endpoint verification PID is invalid"
  else if ¬ (record.legacyInvalid ∧ record.processCreationTime = none) ∧
      ¬ record.processCreationTime.any (0 < ·) then
    some "endpoint process creation time is invalid"
  else if ¬ isUuid4 record.verificationSessionId then
    some "endpoint verification session is invalid"
  else if record.confidence = .other then some "endpoint confidence is invalid"
  else if ¬ isSha256 record.artifactSha256 then some "endpoint artifact digest is invalid"
  else if record.artifactRelativePath = "" then some "endpoint artifact path is invalid"
  else none

/-- The endpoint of a record whose host denotes this address. -/
def EndpointRecord.endpoint (record : EndpointRecord) (label : String) (address : IpAddress) :
    VerifiedBrokerEndpoint where
  brokerLabel := label
  serverName := record.serverName.map stripText
  host := address
  port := record.port
  protocol := record.protocol
  observedAt := record.observedAt
  discoveryMethod := record.discoveryMethod
  verificationPid := record.verificationPid
  processCreationTime := record.processCreationTime
  verificationSessionId := record.verificationSessionId
  confidence := record.confidence
  artifactRelativePath := record.artifactRelativePath
  artifactSha256 := record.artifactSha256

/-- `_record`. -/
def parseRecord (label : String) (record : EndpointRecord) :
    Except String VerifiedBrokerEndpoint :=
  match record.host.address with
  | none => .error "endpoint host is invalid"
  | some address =>
    if ¬ address.usable then .error "endpoint host is not usable"
    else
      match record.fieldError.or record.invalidationError with
      | some error => .error error
      | none => .ok (record.endpoint label address)

theorem parseRecord_eq_ok {label : String} {record : EndpointRecord}
    {endpoint : VerifiedBrokerEndpoint} (h : parseRecord label record = .ok endpoint) :
    ∃ address, record.host.address = some address ∧ endpoint = record.endpoint label address := by
  unfold parseRecord at h
  split at h
  next => cases h
  next address haddress =>
    split at h
    · cases h
    · split at h
      · cases h
      · cases h
        exact ⟨address, haddress, rfl⟩

section Strip

theorem pyStrip_eq (text : String) :
    pyStrip text = (text.toList.dropWhile isPySpace).rdropWhile isPySpace := rfl

/-- What is left of a text has no blank at its ends. -/
theorem pyStrip_stripText (text : String) : pyStrip (stripText text) = pyStrip text := by
  have hlist : (stripText text).toList = pyStrip text := by
    unfold stripText
    exact String.toList_ofList
  have hfront : pyStrip text <+: text.toList.dropWhile isPySpace := List.rdropWhile_prefix _ _
  have hfront : (pyStrip text).dropWhile isPySpace = pyStrip text := by
    rw [List.dropWhile_eq_self_iff]
    intro hlength
    obtain ⟨rest, hrest⟩ := hfront
    have hself := List.dropWhile_eq_self_iff.mp (List.dropWhile_idempotent isPySpace text.toList)
    have hlong : 0 < (text.toList.dropWhile isPySpace).length := by
      rw [← hrest, List.length_append]
      omega
    have hhead : (pyStrip text)[0] = (text.toList.dropWhile isPySpace)[0] := by
      simp only [← hrest, List.getElem_append_left hlength]
    rw [hhead]
    exact hself hlong
  rw [pyStrip_eq (stripText text), hlist, hfront, pyStrip_eq]
  exact List.rdropWhile_idempotent isPySpace _

theorem stripText_idem (text : String) : stripText (stripText text) = stripText text := by
  have hstrip := pyStrip_stripText text
  unfold stripText at hstrip ⊢
  rw [hstrip]

end Strip

section Blanks

variable {unicode : Unicode}

/-- No blank at either end. -/
def Trimmed (cs : List Char) : Prop :=
  (∀ c, cs.head? = some c → ¬ isPySpace c) ∧ ∀ c, cs.getLast? = some c → ¬ isPySpace c

theorem dropWhile_eq_self_iff_head (cs : List Char) :
    cs.dropWhile isPySpace = cs ↔ ∀ c, cs.head? = some c → ¬ isPySpace c := by
  cases cs with
  | nil => simp
  | cons c rest =>
    rw [List.dropWhile_eq_self_iff]
    simp

theorem pyStrip_eq_self_iff (text : String) : pyStrip text = text.toList ↔ Trimmed text.toList := by
  have hlast : ∀ cs : List Char, (cs.reverse.dropWhile isPySpace).reverse = cs ↔
      ∀ c, cs.getLast? = some c → ¬ isPySpace c := by
    intro cs
    rw [← List.head?_reverse, ← dropWhile_eq_self_iff_head, List.reverse_eq_iff]
  have hsuffix := List.dropWhile_suffix (l := text.toList) isPySpace
  constructor
  · intro h
    have hfront : pyStrip text <+: text.toList.dropWhile isPySpace := List.rdropWhile_prefix _ _
    have hfront : text.toList.dropWhile isPySpace = text.toList :=
      hsuffix.eq_of_length (Nat.le_antisymm hsuffix.length_le (h ▸ hfront.length_le))
    unfold pyStrip at h
    rw [hfront] at h
    exact ⟨(dropWhile_eq_self_iff_head _).mp hfront, (hlast _).mp h⟩
  · intro h
    obtain ⟨hhead, htail⟩ := h
    unfold pyStrip
    rw [(dropWhile_eq_self_iff_head _).mpr hhead]
    exact (hlast _).mpr htail

theorem stripText_eq_self_iff (text : String) : stripText text = text ↔ Trimmed text.toList := by
  rw [← pyStrip_eq_self_iff]
  unfold stripText
  constructor
  · intro h
    have hlist := congrArg String.toList h
    rwa [String.toList_ofList] at hlist
  · intro h
    rw [h, String.ofList_toList]

theorem isPySpace_of_mem_fold {c d : Char} (h : d ∈ unicode.fold c) :
    isPySpace d = isPySpace c := by
  by_cases hblank : isPySpace c
  · rw [unicode.fold_blank c hblank, List.mem_singleton] at h
    rw [h]
  · have hd := unicode.fold_nonblank c hblank d h
    simp [hblank, hd]

theorem trimmed_fold (cs : List Char) : Trimmed (cs.flatMap unicode.fold) ↔ Trimmed cs := by
  refine and_congr ?_ ?_
  · cases cs with
    | nil => exact Iff.rfl
    | cons c rest =>
      obtain ⟨d, ds, hfold⟩ := List.exists_cons_of_ne_nil (unicode.fold_ne_nil c)
      have hd : isPySpace d = isPySpace c :=
        isPySpace_of_mem_fold (hfold ▸ List.mem_cons_self)
      simp [List.flatMap_cons, hfold, hd]
  · obtain rfl | ⟨front, c, rfl⟩ := List.eq_nil_or_concat cs
    · exact Iff.rfl
    · obtain ⟨ds, d, hfold⟩ := List.eq_nil_or_concat (unicode.fold c) |>.resolve_left
        (unicode.fold_ne_nil c)
      have hmem : d ∈ unicode.fold c := by
        rw [hfold]
        simp
      have hd : isPySpace d = isPySpace c := isPySpace_of_mem_fold hmem
      simp [List.flatMap_append, hfold, hd]

/-- A text that folds like one without blanks at its ends has none either. -/
theorem stripText_of_casefold {text other : String}
    (h : unicode.casefold text = unicode.casefold other) (hother : stripText other = other) :
    stripText text = text := by
  have hlist := congrArg String.toList h
  unfold Unicode.casefold at hlist
  rw [String.toList_ofList, String.toList_ofList] at hlist
  have htrimmed := (stripText_eq_self_iff other).mp hother
  have hfolded := (@trimmed_fold unicode other.toList).mpr htrimmed
  rw [← hlist] at hfolded
  exact (stripText_eq_self_iff text).mpr (trimmed_fold _ |>.mp hfolded)

theorem mem_stripText {text : String} {c : Char} (h : c ∈ (stripText text).toList) :
    c ∈ text.toList := by
  unfold stripText at h
  rw [String.toList_ofList] at h
  have hfront : pyStrip text <+: text.toList.dropWhile isPySpace := List.rdropWhile_prefix _ _
  exact (List.dropWhile_suffix isPySpace).subset (hfront.subset h)

theorem length_stripText (text : String) : (stripText text).length ≤ text.length := by
  unfold stripText
  have hfront : pyStrip text <+: text.toList.dropWhile isPySpace := List.rdropWhile_prefix _ _
  have hsuffix := List.dropWhile_suffix (l := text.toList) isPySpace
  rw [String.length_ofList]
  exact hfront.length_le.trans hsuffix.length_le

theorem validName_stripText {text : String} (h : validName text) : validName (stripText text) := by
  obtain ⟨hblank, hlength, hline⟩ := of_decide_eq_true h
  have hshort := length_stripText text
  refine decide_eq_true ⟨by rw [stripText_idem]; exact hblank, hshort.trans hlength, ?_⟩
  exact List.all_eq_true.mpr fun c hc => List.all_eq_true.mp hline c (mem_stripText hc)

theorem flatMap_dropWhile {α β : Type} {p : α → Bool} {g : α → List β} (hg : ∀ a, p a → g a = [])
    (xs : List α) : (xs.dropWhile p).flatMap g = xs.flatMap g := by
  induction xs with
  | nil => rfl
  | cons a rest ih =>
    rw [List.dropWhile_cons]
    split
    next ha => rw [ih, List.flatMap_cons, hg a ha, List.nil_append]
    next => rfl

theorem flatMap_rdropWhile {α β : Type} {p : α → Bool} {g : α → List β}
    (hg : ∀ a, p a → g a = []) (xs : List α) : (xs.rdropWhile p).flatMap g = xs.flatMap g := by
  induction xs using List.reverseRecOn with
  | nil => rfl
  | append_singleton front a ih =>
    rw [List.rdropWhile_concat]
    split
    next ha => rw [ih, List.flatMap_append, List.flatMap_singleton, hg a ha, List.append_nil]
    next => rfl

/-- Blanks at the ends of a label do not count. -/
theorem brokerKey_stripText (label : String) :
    brokerKey unicode (stripText label) = brokerKey unicode label := by
  have hfilter : ∀ cs : List Char, (cs.flatMap unicode.fold).filter unicode.isAlnum =
      cs.flatMap fun c => (unicode.fold c).filter unicode.isAlnum := by
    intro cs
    induction cs with
    | nil => rfl
    | cons c rest ih => rw [List.flatMap_cons, List.filter_append, ih, List.flatMap_cons]
  have hblank : ∀ c, isPySpace c → (unicode.fold c).filter unicode.isAlnum = [] := by
    intro c hc
    rw [unicode.fold_blank c hc]
    simp [unicode.blank_not_alnum c hc]
  unfold brokerKey Unicode.casefold stripText
  rw [String.toList_ofList, String.toList_ofList, String.toList_ofList, hfilter, hfilter,
    pyStrip_eq, flatMap_rdropWhile hblank, flatMap_dropWhile hblank]

end Blanks

section Ascii

/-- Lower case changes the Latin capitals only, and to the letters 32 places on. -/
theorem toLower_cases (c : Char) :
    c.toLower = c ∨ 65 ≤ c.toNat ∧ c.toNat ≤ 90 ∧ c.toLower.toNat = c.toNat + 32 := by
  unfold Char.toLower
  split
  next h =>
    right
    obtain ⟨hlow, hhigh⟩ := h
    have hlow' : 65 ≤ c.toNat := hlow
    have hhigh' : c.toNat ≤ 90 := hhigh
    refine ⟨hlow', hhigh', ?_⟩
    show (c.val + ('a'.val - 'A'.val)).toNat = c.toNat + 32
    rw [UInt32.toNat_add]
    have h32 : ('a'.val - 'A'.val).toNat = 32 := by decide
    rw [h32]
    have : c.val.toNat = c.toNat := rfl
    omega
  next => exact Or.inl rfl

theorem isPySpace_toLower (c : Char) : isPySpace c.toLower = isPySpace c := by
  obtain hsame | ⟨hlow, hhigh, hmoved⟩ := toLower_cases c
  · rw [hsame]
  · have hcapital : ¬ isPySpace c := by
      simp [isPySpace]
      omega
    have hletter : ¬ isPySpace c.toLower := by
      simp [isPySpace, hmoved]
      omega
    simp [hcapital, hletter]

theorem isAlphanum_of_blank (c : Char) (h : isPySpace c) : c.isAlphanum = false := by
  simp [isPySpace] at h
  delta Char.isAlphanum Char.isAlpha Char.isUpper Char.isLower Char.isDigit
  have hval : c.val.toNat = c.toNat := rfl
  simp [UInt32.le_iff_toNat_le, UInt32.lt_iff_toNat_lt]
  omega

/-- The two tables on ASCII texts. -/
def asciiUnicode : Unicode where
  fold c := [c.toLower]
  isAlnum := Char.isAlphanum
  fold_blank c hblank := by
    obtain hsame | ⟨hlow, hhigh, _⟩ := toLower_cases c
    · rw [hsame]
    · simp [isPySpace] at hblank
      omega
  fold_ne_nil c := List.cons_ne_nil _ _
  fold_nonblank c hblank d hd := by
    rw [List.mem_singleton.mp hd, isPySpace_toLower]
    exact hblank
  blank_not_alnum := isAlphanum_of_blank

end Ascii

end TradeJournalWorker
