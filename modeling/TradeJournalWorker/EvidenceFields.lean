import TradeJournalWorker.EvidenceModel
import TradeJournalWorker.ExceptRules

namespace TradeJournalWorker.Lab

abbrev Members := List (String × JsonValue)

/-- `repr` of a list of names. -/
def reprNames (names : List String) : String :=
  "[" ++ joinTexts ", " (names.map fun name => "'" ++ name ++ "'") ++ "]"

def sortedNames (names : List String) : List String := names.insertionSort (· ≤ ·)

section Fields

variable (context : String)

/-- `_require_mapping`. -/
def requireMapping (value : JsonValue) : Except String Members :=
  match value with
  | .obj members => .ok members
  | _ => .error (context ++ " must be a JSON object")

/-- `_require_exact_keys`. -/
def requireExactKeys (members : Members) (expected : List String) : Except String Unit :=
  let keys := members.map Prod.fst
  let missing := sortedNames (expected.filter (· ∉ keys))
  let extra := sortedNames (keys.filter (· ∉ expected))
  demand (missing = [] ∧ extra = [])
    (context ++ " has invalid fields (missing=" ++ reprNames missing ++ ", extra=" ++
      reprNames extra ++ ")")

def requireBool (members : Members) (key : String) : Except String Bool :=
  match JsonValue.get members key with
  | .bool value => .ok value
  | _ => .error (context ++ "." ++ key ++ " must be boolean")

/-- A count of `_require_bool_int_mapping`. -/
def requireCount (members : Members) (key : String) : Except String Int :=
  let message := context ++ "." ++ key ++ " must be a non-negative integer"
  match JsonValue.get members key with
  | .int value => if 0 ≤ value then .ok value else .error message
  | _ => .error message

/-- `_require_bool_mapping`; the keys come in order. -/
def requireBoolMapping (value : JsonValue) (keys : List String) : Except String BoolMapping := do
  let members ← requireMapping context value
  requireExactKeys context members keys
  (sortedNames keys).mapM fun key => do return (key, ← requireBool context members key)

end Fields

section Leaves

variable (value : JsonValue) (field : String)

/-- `_validated_sha256`. -/
def validatedSha256 : Except String String :=
  match value with
  | .str text =>
    if isSha256 text then .ok (lowerDigest text) else .error (field ++ " must be a SHA-256 digest")
  | _ => .error (field ++ " must be a SHA-256 digest")

/-- `_validated_nullable_sha256`. -/
def validatedNullableSha256 : Except String (Option String) :=
  match value with
  | .null => .ok none
  | value => do return some (← validatedSha256 value field)

/-- `_validated_uuid`; texts that `uuid.UUID` refuses and those it rewrites differ only in the
message. -/
def validatedUuid : Except String String :=
  match value with
  | .str text =>
    if isCanonicalUuid text then .ok text
    else .error (field ++ " must use canonical lowercase UUID syntax")
  | _ => .error (field ++ " must be a UUID string")

/-- `_validated_text`. -/
def validatedText (env : LabEnv) (maximum : Nat) : Except String String :=
  match value with
  | .str text =>
    if isValidText env.unicode text.toList field maximum then .ok text
    else .error (field ++ " is invalid")
  | _ => .error (field ++ " is invalid")

/-- `_require_exact_version`. -/
def requireExactVersion (expected : Int) : Except String Unit :=
  match value with
  | .int version => demand (version = expected) ("unsupported " ++ field)
  | _ => .error ("unsupported " ++ field)

end Leaves

/-- A whole number within bounds; `error` is the message of any other value. -/
def requireInt (value : JsonValue) (least : Int) (most : Option Int) (error : String) :
    Except String Int :=
  match value with
  | .int n => if least ≤ n ∧ (∀ bound ∈ most, n ≤ bound) then .ok n else .error error
  | _ => .error error

/-- A value that must equal a text. -/
def requireText (value : JsonValue) (expected error : String) : Except String Unit :=
  demand (value.isText expected = true) error

/-- A value that must be one of some texts. -/
def requireOneOf (value : JsonValue) (allowed : List String) (error : String) :
    Except String String :=
  match value with
  | .str text => if text ∈ allowed then .ok text else .error error
  | _ => .error error

/-- `_require_values` and its copies: the first field that is not as expected. -/
def requireValues (control : Control) (space : String) (agrees : List (String × Bool)) :
    Except String Unit :=
  match agrees.find? fun entry => !entry.2 with
  | some entry => .error (space ++ "." ++ entry.1 ++ " is not applicable to " ++ control.text)
  | none => .ok ()

/-- What a mapping says of a name. -/
def flag (mapping : BoolMapping) (key : String) : Bool := (mapping.lookup key).getD false

/-- `FORBIDDEN_EVIDENCE_KEYS`. -/
def forbiddenEvidenceKeys : List String :=
  ["password", "investor_password", "master_password", "secret", "token", "credential",
    "credential_envelope", "login", "account_number", "account_id", "connection_id",
    "client_name", "customer_name", "balance", "equity", "positions", "orders", "deals",
    "history", "servers_dat", "accounts_dat", "startup_config", "pcap_payload"]

/-- `raw_key.casefold().replace("-", "_")`. -/
def normalizedKey (tables : UnicodeTables) (key : String) : List Char :=
  (tables.casefoldText key).map fun c => if c = '-' then '_' else c

def isForbiddenKey (tables : UnicodeTables) (key : String) : Bool :=
  forbiddenEvidenceKeys.any fun forbidden => forbidden.toList = normalizedKey tables key

/-- `reject_sensitive_content`; `path` leads to the value. -/
def rejectSensitiveContent (tables : UnicodeTables) (path : List String) :
    JsonValue → Except String Unit
  | .str text =>
    if isSecretText tables text.toList then
      .error ("sensitive text pattern found at " ++
        if path = [] then "<root>" else joinTexts "." path)
    else .ok ()
  | .arr items => walkItems path 0 items
  | .obj members => walkMembers path members
  | _ => .ok ()
where
  walkItems (path : List String) (index : Nat) : List JsonValue → Except String Unit
    | [] => .ok ()
    | item :: rest =>
      match rejectSensitiveContent tables (path ++ [toString index]) item with
      | .error error => .error error
      | .ok () => walkItems path (index + 1) rest
  walkMembers (path : List String) : List (String × JsonValue) → Except String Unit
    | [] => .ok ()
    | (key, value) :: rest =>
      if isForbiddenKey tables key then
        .error ("forbidden sensitive field: " ++ joinTexts "." (path ++ [key]))
      else
        match rejectSensitiveContent tables (path ++ [key]) value with
        | .error error => .error error
        | .ok () => walkMembers path rest

end TradeJournalWorker.Lab
