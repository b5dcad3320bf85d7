import Mathlib.Data.Char
import Mathlib.Data.List.Lex
import Mathlib.Data.Prod.Lex
import TradeJournalWorker.AuthoritativeSymbol
import TradeJournalWorker.BrokerRegistry
import TradeJournalWorker.DictGroups
import TradeJournalWorker.JsonValues
import TradeJournalWorker.StableSorting

namespace TradeJournalWorker.MtapiSearch

open FirstOccurrences Lab Routing StableSorting

/-- What `ipaddress.ip_address` makes of a text. -/
structure IpText where
  version6 : Bool
  packed : Nat
  scope : Option (List Char)
  deriving DecidableEq, Repr

/-- `ipv4_mapped is not None`. -/
def IpText.isIpv4Mapped (address : IpText) : Bool :=
  address.version6 && address.packed / 2 ^ 32 = 0xFFFF

/-- The Unicode tables and the module `ipaddress`. -/
structure SearchEnv where
  tables : UnicodeTables
  parseIp : List Char → Option IpText
  isGlobal : IpText → Bool
  compressed : IpText → List Char

/-- The order in which the members of a set come out of it, which nothing promises. -/
structure SetOrder where
  members : List String → List String
  members_perm : ∀ names, (members names).Perm (firsts names)

/-- One endpoint of a row; the names of all its companies are not joined yet. -/
structure Endpoint where
  companyName : String
  serverName : String
  host : List Char
  port : Nat
  deriving DecidableEq, Repr

structure MtApiEndpointCandidate where
  companyName : String
  serverName : String
  host : List Char
  port : Nat
  companyNames : List String
  deriving DecidableEq, Repr

inductive SearchOutcome where
  | exactMatch
  | noMatch
  | ambiguous
  deriving DecidableEq, Repr

structure MtApiSearchResult where
  outcome : SearchOutcome
  candidates : List MtApiEndpointCandidate
  companyNames : List String
  fetchedAtUnixMs : Int
  deriving DecidableEq, Repr

section Texts

variable (env : SearchEnv)

/-- `_server_identifier`. -/
def serverIdentifier (value : JsonValue) : Except String String :=
  match value with
  | .str text =>
    let normalized := env.tables.strip text.toList
    if isServerLabel normalized then .ok (String.ofList normalized)
    else .error "server identifier is invalid"
  | _ => .error "server identifier is invalid"

/-- `_company_name`. -/
def companyName (value : JsonValue) : Except String String :=
  match value with
  | .str text =>
    let normalized := env.tables.strip text.toList
    if normalized = [] ∨ 256 < normalized.length ∨ normalized.any (fun c => c.toNat < 32) = true then
      .error "MTAPI Search company is invalid"
    else .ok (String.ofList normalized)
  | _ => .error "MTAPI Search company is invalid"

/-- `_HOSTNAME_PATTERN`. -/
def isHostname (text : List Char) : Bool :=
  let labels := text.splitOn '.'
  let last := labels.getLastD []
  1 ≤ text.length && text.length ≤ 253 && 2 ≤ labels.length && labels.dropLast.all isDnsLabel &&
    2 ≤ last.length && last.length ≤ 63 && last.all Char.isAlpha

/-- The texts of the host and of the port. -/
def endpointParts (raw : List Char) : Option (List Char × List Char) :=
  match raw with
  | '[' :: rest =>
    let host := rest.takeWhile (· ≠ ']')
    match rest.dropWhile (· ≠ ']') with
    | ']' :: ':' :: port => if host = [] then none else some (host, port)
    | _ => none
  | _ =>
    match raw.splitOn ':' with
    | [host, port] => some (host, port)
    | _ => none

/-- The host in its normal form. -/
def normalizedHost (host : List Char) : Except String (List Char) :=
  match env.parseIp host with
  | none =>
    let folded := env.tables.casefoldText (String.ofList host)
    if isHostname folded then .ok folded else .error "MTAPI Search endpoint is invalid"
  | some address =>
    if env.isGlobal address = false ∨ address.isIpv4Mapped = true then
      .error "MTAPI Search endpoint is unsafe"
    else .ok (env.compressed address)

/-- `_endpoint` of a text. -/
def endpoint (value companyName serverName : String) : Except String Endpoint :=
  if 128 < value.toList.length then .error "MTAPI Search endpoint is invalid"
  else
    match endpointParts (env.tables.strip value.toList) with
    | none => .error "MTAPI Search endpoint is invalid"
    | some (host, portText) =>
      match pyInt (env.tables.strip portText) with
      | none => .error "MTAPI Search endpoint is invalid"
      | some port =>
        if port < 1 ∨ 65535 < port then .error "MTAPI Search endpoint is unsafe"
        else do
          let host ← normalizedHost env host
          return ⟨companyName, serverName, host, port.toNat⟩

/-- `server_address`. -/
def serverAddress (host : List Char) (port : Nat) : List Char :=
  let digits := Nat.toDigits 10 port
  match env.parseIp host with
  | none => host ++ ':' :: digits
  | some address =>
    if address.version6 then '[' :: env.compressed address ++ ']' :: ':' :: digits
    else env.compressed address ++ ':' :: digits

def Endpoint.address (item : Endpoint) : List Char := serverAddress env item.host item.port

def MtApiEndpointCandidate.address (item : MtApiEndpointCandidate) : List Char :=
  serverAddress env item.host item.port

/-- The tuples that `candidate_order` returns. -/
abbrev OrderKey := Nat ×ₗ List Nat ×ₗ Nat

def orderKey (host : List Char) (port : Nat) : OrderKey :=
  match env.parseIp host with
  | none =>
    toLex (0, toLex ((env.tables.casefoldText (String.ofList host)).map Char.toNat, port))
  | some address =>
    toLex (1, toLex ([if address.version6 then 6 else 4, address.packed], port))

def candidateOrder (item : MtApiEndpointCandidate) : OrderKey := orderKey env item.host item.port

end Texts

/-- `set(value) == {...}` for the keys of an object. -/
def hasKeys (members : List (String × JsonValue)) (keys : List String) : Bool :=
  members.all (fun member => keys.contains member.1) &&
    keys.all fun key => (members.map Prod.fst).contains key

/-- A row for the expected server. -/
structure ExactRow where
  companyName : String
  serverName : String
  endpoints : List Endpoint
  deriving DecidableEq, Repr

section Rows

variable (env : SearchEnv)

/-- The endpoints of an access list; a bad one is left out. -/
def rowEndpoints (access : List String) (companyName serverName : String) : List Endpoint :=
  access.filterMap fun item => (endpoint env item companyName serverName).toOption

def exactRow (expectedServerName companyName serverName : String) (access : List String) :
    Option ExactRow :=
  if env.tables.casefoldText serverName = env.tables.casefoldText expectedServerName then
    some ⟨companyName, serverName, rowEndpoints env access companyName serverName⟩
  else none

def invalidResponse {α : Type} : Except String α := .error "MTAPI Search response is invalid"

def asText : JsonValue → Except String String
  | .str text => .ok text
  | _ => invalidResponse

def asArray : JsonValue → Except String (List JsonValue)
  | .arr items => .ok items
  | _ => invalidResponse

/-- A list of texts only. -/
def accessTexts (value : JsonValue) : Except String (List String) := do
  let items ← asArray value
  items.mapM asText

def parseRow (expectedServerName companyName : String) (row : JsonValue) :
    Except String (Option ExactRow) :=
  match row with
  | .obj members =>
    if hasKeys members ["name", "access"] = false then invalidResponse
    else do
      let serverName ← serverIdentifier env (JsonValue.get members "name")
      let access ← accessTexts (JsonValue.get members "access")
      return exactRow env expectedServerName companyName serverName access
  | _ => invalidResponse

def parseCompany (expectedServerName : String) (company : JsonValue) :
    Except String (List ExactRow) :=
  match company with
  | .obj members =>
    if hasKeys members ["companyName", "results"] = false then invalidResponse
    else do
      let companyName ← companyName env (JsonValue.get members "companyName")
      let results ← asArray (JsonValue.get members "results")
      let rows ← results.mapM (parseRow env expectedServerName companyName)
      return rows.filterMap id
  | _ => invalidResponse

/-- The rows for the expected server, in the order of the response. -/
def exactRows (expectedServerName : String) (payload : JsonValue) :
    Except String (List ExactRow) := do
  let companies ← asArray payload
  let rows ← companies.mapM (parseCompany env expectedServerName)
  return rows.flatten

end Rows

section Merging

variable (env : SearchEnv) (sets : SetOrder)

/-- `sorted({...}, key=str.casefold)`. -/
def sortedNames (names : List String) : List String :=
  stableSort env.tables.casefoldText (sets.members names)

/-- The candidate of one address; its list holds at least the item that made the entry. -/
def mergedCandidate : List Endpoint → Option MtApiEndpointCandidate
  | [] => none
  | first :: rest =>
    let companies := sortedNames env sets ((first :: rest).map Endpoint.companyName)
    some ⟨companies.headD first.companyName, first.serverName, first.host, first.port, companies⟩

def byAddress (items : List Endpoint) : OrderedDict (List Char) (List Endpoint) :=
  OrderedDict.groupBy (Endpoint.address env) items

def mergedCandidates (items : List Endpoint) : List MtApiEndpointCandidate :=
  stableSort (candidateOrder env) ((byAddress env items).values.filterMap (mergedCandidate env sets))

/-- `_parse_document`. -/
def parseDocument (payload : JsonValue) (expectedServerName : String) (fetchedAtUnixMs : Int) :
    Except String MtApiSearchResult := do
  let rows ← exactRows env expectedServerName payload
  if rows = [] then return ⟨.noMatch, [], [], fetchedAtUnixMs⟩
  else
    let companyNames := sortedNames env sets (rows.map ExactRow.companyName)
    let items := rows.flatMap ExactRow.endpoints
    if items = [] then .error "MTAPI Search exact match has no endpoints"
    else return ⟨if companyNames.length = 1 then .exactMatch else .ambiguous,
      mergedCandidates env sets items, companyNames, fetchedAtUnixMs⟩

end Merging

end TradeJournalWorker.MtapiSearch
