import Mathlib.Data.List.Sort
import Mathlib.Data.String.Basic
import TradeJournalWorker.EndpointRecords
import TradeJournalWorker.JsonValues
import TradeJournalWorker.LabTexts

namespace TradeJournalWorker.Lab

/-- `text.encode("utf-8")`. -/
def utf8Bytes (text : String) : List UInt8 := text.toUTF8.data.toList

theorem utf8Bytes_injective {a b : String} (h : utf8Bytes a = utf8Bytes b) : a = b := by
  unfold utf8Bytes at h
  rw [Array.toList_inj] at h
  apply String.toByteArray_inj.mp
  exact ByteArray.ext h

/-- `ipaddress`: how a text is read and written, and the registries of special addresses. -/
structure AddressTables where
  parse : String → Option IpAddress
  compressed : IpAddress → String
  isGlobal : IpAddress → Bool
  isPrivate : IpAddress → Bool
  isReserved : IpAddress → Bool

/-- The parts of Python's library that are tables or a hash. -/
structure LabEnv where
  unicode : UnicodeTables
  addresses : AddressTables
  /-- `repr` of a number that is not whole -/
  floatText : Rat → String
  /-- `json.loads` of UTF-8 bytes, `none` where it raises -/
  loads : List UInt8 → Option JsonValue
  sha256 : List UInt8 → String
  sha256_hex : ∀ bytes, isLowerSha256 (sha256 bytes) = true

def hexDigit (n : Nat) : Char := if n < 10 then Char.ofNat (48 + n) else Char.ofNat (87 + n)

/-- What `json.dumps` writes for a character without `ensure_ascii`. -/
def jsonChar (c : Char) : List Char :=
  if c = '"' then ['\\', '"']
  else if c = '\\' then ['\\', '\\']
  else if c = '\n' then ['\\', 'n']
  else if c = '\r' then ['\\', 'r']
  else if c = '\t' then ['\\', 't']
  else if c.toNat = 8 then ['\\', 'b']
  else if c.toNat = 12 then ['\\', 'f']
  else if c.toNat < 32 then
    ['\\', 'u', '0', '0', hexDigit (c.toNat / 16), hexDigit (c.toNat % 16)]
  else [c]

def jsonText (text : String) : String :=
  String.ofList (['"'] ++ text.toList.flatMap jsonChar ++ ['"'])

def joinTexts (separator : String) : List String → String
  | [] => ""
  | [text] => text
  | text :: rest => text ++ separator ++ joinTexts separator rest

/-- `canonical_json`: keys in order, no blanks. -/
def canonicalJson (floatText : Rat → String) : JsonValue → String
  | .null => "null"
  | .bool value => if value then "true" else "false"
  | .int value => toString value
  | .float value => floatText value
  | .str text => jsonText text
  | .arr items => "[" ++ joinTexts "," (itemTexts items) ++ "]"
  | .obj members =>
    "\x7b" ++ joinTexts "," (((memberTexts members).insertionSort (fun a b => a.1 ≤ b.1)).map
      fun member => jsonText member.1 ++ ":" ++ member.2) ++ "\x7d"
where
  itemTexts : List JsonValue → List String
    | [] => []
    | item :: rest => canonicalJson floatText item :: itemTexts rest
  memberTexts : List (String × JsonValue) → List (String × String)
    | [] => []
    | (key, value) :: rest => (key, canonicalJson floatText value) :: memberTexts rest

/-- The text whose bytes `contract_digest` hashes; `verifier_contract_digest` repeats it. -/
def contractPreimage (env : LabEnv) (artifactType : String) (schemaVersion : Nat)
    (payload : JsonValue) : String :=
  "MT5_DIRECT_ENDPOINT\x00" ++ artifactType ++ "\x00" ++ toString schemaVersion ++ "\x00" ++
    canonicalJson env.floatText payload

def contractDigest (env : LabEnv) (artifactType : String) (schemaVersion : Nat)
    (payload : JsonValue) : String :=
  env.sha256 (utf8Bytes (contractPreimage env artifactType schemaVersion payload))

theorem contractDigest_hex (env : LabEnv) (artifactType : String) (schemaVersion : Nat)
    (payload : JsonValue) :
    isLowerSha256 (contractDigest env artifactType schemaVersion payload) = true :=
  env.sha256_hex _

end TradeJournalWorker.Lab
