import TradeJournalWorker.JsonValues
import TradeJournalWorker.ResolutionPlans

namespace TradeJournalWorker.Routing

open Lab (UnicodeTables)
open JsonValue (get)

def topLevelKeys : List String := ["schema_version", "revision", "profiles"]

def profileRequiredKeys : List String :=
  ["profile_id", "broker_id", "broker_name", "server", "environment", "aliases",
    "discovery_queries", "source"]

def profileOptionalKeys : List String := ["connection_target", "target_verified_at"]

def schemaVersion : Int := 1

section Documents

variable (env : RegistryEnv)

def requireExactKeys (payload : List (String × JsonValue)) (expected : List String)
    (context : String) : Except String Unit :=
  if (∀ key ∈ payload.map Prod.fst, key ∈ expected) ∧
      ∀ key ∈ expected, key ∈ payload.map Prod.fst then .ok ()
  else .error (context ++ " has missing or unsupported fields")

def requireAllowedAndRequiredKeys (payload : List (String × JsonValue))
    (required allowed : List String) (context : String) : Except String Unit :=
  if (∀ key ∈ required, key ∈ payload.map Prod.fst) ∧
      ∀ key ∈ payload.map Prod.fst, key ∈ required ++ allowed then .ok ()
  else .error (context ++ " has missing or unsupported fields")

/-- A check of a text; a value of another type is refused before it. -/
def ofText {α : Type} (value : JsonValue) (refusal : String) (check : String → Except String α) :
    Except String α :=
  match value with
  | .str text => check text
  | _ => .error refusal

def ofList {α : Type} (value : JsonValue) (refusal : String)
    (check : List JsonValue → Except String α) : Except String α :=
  match value with
  | .arr items => check items
  | _ => .error refusal

def readServers (field : String) (items : List JsonValue) : Except String (List String) := do
  let result ← items.mapM fun item =>
    ofText item (field ++ " is invalid") fun text => validatedServer env.tables text field
  if (result.map (serverKey env.tables)).Nodup then return result
  else .error (field ++ " contains duplicates")

def readTexts (field : String) (maxLength : Nat) (items : List JsonValue) :
    Except String (List String) := do
  let result ← items.mapM fun item =>
    ofText item (field ++ " is invalid") fun text =>
      validatedCleanText env.tables text field maxLength
  if result.any hasPathSeparator then .error (field ++ " cannot contain path separators")
  else if (result.map env.tables.casefoldText).Nodup then return result
  else .error (field ++ " contains duplicates")

def readQueries (items : List JsonValue) : Except String (List String) := do
  let queries ← readTexts env "discovery_queries" 128 items
  if queries = [] then .error "discovery_queries cannot be empty" else return queries

def readTarget (raw : List (String × JsonValue)) :
    Except String (Option String × Option String) :=
  match raw.lookup "connection_target", raw.lookup "target_verified_at" with
  | none, none => .ok (none, none)
  | some target, some verifiedAt => do
    let target ← ofText target "connection_target is invalid" (validatedConnectionTarget env.tables)
    let verifiedAt ← ofText verifiedAt
      "target_verified_at must be an ISO-8601 UTC timestamp ending in Z" (validatedUtcTimestamp env)
    return (some target, some verifiedAt)
  | _, _ => .error "connection_target and target_verified_at must be provided together"

/-- `_parse_profile` after the check of the keys. -/
def readProfile (raw : List (String × JsonValue)) : Except String BrokerProfile := do
  let profileId ← ofText (get raw "profile_id") "profile_id is invalid"
    fun text => validatedId text "profile_id"
  let brokerId ← ofText (get raw "broker_id") "broker_id is invalid"
    fun text => validatedId text "broker_id"
  let brokerName ← ofText (get raw "broker_name") "broker_name is invalid"
    fun text => validatedCleanText env.tables text "broker_name" 128
  let server ← ofText (get raw "server") "server is invalid"
    fun text => validatedServer env.tables text "server"
  let environment ← ofText (get raw "environment") "environment must be live or demo"
    validatedEnvironment
  let aliases ← ofList (get raw "aliases") "aliases must be a list" (readServers env "aliases")
  let discoveryQueries ← ofList (get raw "discovery_queries") "discovery_queries must be a list"
    (readQueries env)
  let source ← ofText (get raw "source") "source is invalid"
    fun text => validatedCleanText env.tables text "source" 256
  let target ← readTarget env raw
  return ⟨profileId, brokerId, brokerName, server, environment, aliases, discoveryQueries, source,
    target.1, target.2⟩

/-- `_parse_profile`. -/
def profileFromDict (raw : JsonValue) : Except String BrokerProfile :=
  match raw with
  | .obj raw => do
    requireAllowedAndRequiredKeys raw profileRequiredKeys profileOptionalKeys "registry profile"
    readProfile env raw
  | _ => .error "registry profile must be an object"

def checkSchemaVersion : JsonValue → Except String Unit
  | .int version =>
    if version = schemaVersion then .ok () else .error "unsupported registry schema_version"
  | _ => .error "unsupported registry schema_version"

def readRevision : JsonValue → Except String Int
  | .int revision =>
    if revision < 1 then .error "registry revision must be a positive integer" else .ok revision
  | _ => .error "registry revision must be a positive integer"

def readProfiles (items : List JsonValue) : Except String (List BrokerProfile) :=
  if items.isEmpty then .error "registry profiles cannot be empty"
  else items.mapM (profileFromDict env)

/-- `BrokerRegistry.from_dict`. -/
def fromDict (payload : JsonValue) : Except String (BrokerRegistry env) :=
  match payload with
  | .obj payload => do
    requireExactKeys payload topLevelKeys "registry"
    checkSchemaVersion (get payload "schema_version")
    let revision ← readRevision (get payload "revision")
    let profiles ← ofList (get payload "profiles") "registry profiles must be a list"
      (readProfiles env)
    registryOf env revision profiles
  | _ => .error "registry must be an object"

end Documents

/-- The target and its time, where the profile has a target. -/
def BrokerProfile.targetMembers (profile : BrokerProfile) : List (String × JsonValue) :=
  match profile.connectionTarget with
  | none => []
  | some target =>
    [("connection_target", .str target),
      ("target_verified_at", match profile.targetVerifiedAt with
        | some verifiedAt => .str verifiedAt
        | none => .null)]

def BrokerProfile.toDict (profile : BrokerProfile) : JsonValue :=
  .obj ([("profile_id", .str profile.profileId), ("broker_id", .str profile.brokerId),
    ("broker_name", .str profile.brokerName), ("server", .str profile.server),
    ("environment", .str profile.environment), ("aliases", .arr (profile.aliases.map .str)),
    ("discovery_queries", .arr (profile.discoveryQueries.map .str)),
    ("source", .str profile.source)] ++ profile.targetMembers)

def BrokerRegistry.toDict {env : RegistryEnv} (registry : BrokerRegistry env) : JsonValue :=
  .obj [("schema_version", .int schemaVersion), ("revision", .int registry.revision),
    ("profiles", .arr (registry.profiles.map BrokerProfile.toDict))]

section Reading

variable {env : RegistryEnv}

theorem ofText_ok {α : Type} {value : JsonValue} {refusal : String}
    {check : String → Except String α} {result : α}
    (h : ofText value refusal check = .ok result) :
    ∃ text, value = .str text ∧ check text = .ok result := by
  cases value with
  | str text => exact ⟨text, rfl, h⟩
  | null => cases h
  | bool value => cases h
  | int value => cases h
  | float value => cases h
  | arr items => cases h
  | obj members => cases h

theorem ofList_ok {α : Type} {value : JsonValue} {refusal : String}
    {check : List JsonValue → Except String α} {result : α}
    (h : ofList value refusal check = .ok result) :
    ∃ items, value = .arr items ∧ check items = .ok result := by
  cases value with
  | arr items => exact ⟨items, rfl, h⟩
  | null => cases h
  | bool value => cases h
  | int value => cases h
  | float value => cases h
  | str text => cases h
  | obj members => cases h

theorem validatedId_ok {value field result : String} (h : validatedId value field = .ok result) :
    result = value := by
  unfold validatedId at h
  split at h
  next => cases h; rfl
  next => cases h

theorem validatedCleanText_ok {value field result : String} {maxLength : Nat}
    (h : validatedCleanText env.tables value field maxLength = .ok result) : result = value := by
  unfold validatedCleanText at h
  split at h
  next => cases h
  next =>
    split at h
    next => cases h
    next => cases h; rfl

theorem validatedEnvironment_ok {value result : String}
    (h : validatedEnvironment value = .ok result) : result = value := by
  unfold validatedEnvironment at h
  split at h
  next => cases h; rfl
  next => cases h

theorem validatedConnectionTarget_ok {value result : String}
    (h : validatedConnectionTarget env.tables value = .ok result) : result = value := by
  simp only [validatedConnectionTarget] at h
  split at h
  next => cases h
  next =>
    split at h
    next =>
      split at h
      next => cases h
      next =>
        obtain ⟨_, _, h⟩ := except_bind_eq_ok h
        cases h
        rfl
    next =>
      split at h
      next =>
        obtain ⟨_, _, h⟩ := except_bind_eq_ok h
        obtain ⟨_, _, h⟩ := except_bind_eq_ok h
        cases h
        rfl
      next => cases h

theorem validatedUtcTimestamp_ok {value result : String}
    (h : validatedUtcTimestamp env value = .ok result) : result = value := by
  unfold validatedUtcTimestamp at h
  split at h
  next => cases h
  next =>
    split at h
    next => cases h; rfl
    next => cases h

/-- Texts that were read are read again from the list of them. -/
theorem mapM_ofText {items : List JsonValue} {refusal : String}
    {check : String → Except String String} (hcheck : ∀ text result, check text = .ok result →
      result = text) {texts : List String}
    (h : items.mapM (fun item => ofText item refusal check) = .ok texts) :
    (texts.map JsonValue.str).mapM (fun item => ofText item refusal check) = .ok texts := by
  induction items generalizing texts with
  | nil =>
    cases h
    rfl
  | cons item items ih =>
    rw [List.mapM_cons] at h
    obtain ⟨text, htext, h⟩ := except_bind_eq_ok h
    obtain ⟨rest, hrest, h⟩ := except_bind_eq_ok h
    cases h
    obtain ⟨original, hitem, hread⟩ := ofText_ok htext
    rw [← hcheck original text hread] at hread
    rw [List.map_cons, List.mapM_cons, ih hrest]
    show (check text >>= _) = _
    rw [hread]
    rfl

theorem readServers_again {field : String} {items : List JsonValue} {servers : List String}
    (h : readServers env field items = .ok servers) :
    readServers env field (servers.map .str) = .ok servers := by
  obtain ⟨result, hresult, hrest⟩ := except_bind_eq_ok h
  have hsame : servers = result := by
    split at hrest
    next => cases hrest; rfl
    next => cases hrest
  subst hsame
  have hagain := mapM_ofText (fun text result hread => (validatedServer_ok.mp hread).2.2) hresult
  unfold readServers
  rw [hagain]
  exact hrest

theorem readTexts_again {field : String} {maxLength : Nat} {items : List JsonValue}
    {texts : List String} (h : readTexts env field maxLength items = .ok texts) :
    readTexts env field maxLength (texts.map .str) = .ok texts := by
  obtain ⟨result, hresult, hrest⟩ := except_bind_eq_ok h
  have hsame : texts = result := by
    split at hrest
    next => cases hrest
    next =>
      split at hrest
      next => cases hrest; rfl
      next => cases hrest
  subst hsame
  have hagain := mapM_ofText (fun text result hread => validatedCleanText_ok hread) hresult
  unfold readTexts
  rw [hagain]
  exact hrest

theorem readQueries_again {items : List JsonValue} {queries : List String}
    (h : readQueries env items = .ok queries) :
    readQueries env (queries.map .str) = .ok queries := by
  obtain ⟨result, hresult, hrest⟩ := except_bind_eq_ok h
  have hsame : queries = result := by
    split at hrest
    next => cases hrest
    next => cases hrest; rfl
  subst hsame
  unfold readQueries
  rw [readTexts_again hresult]
  exact hrest

theorem readTarget_isSome {raw : List (String × JsonValue)}
    {target : Option String × Option String} (h : readTarget env raw = .ok target) :
    target.1.isSome = target.2.isSome := by
  unfold readTarget at h
  split at h
  next => cases h; rfl
  next =>
    obtain ⟨_, _, h⟩ := except_bind_eq_ok h
    obtain ⟨_, _, h⟩ := except_bind_eq_ok h
    cases h
    rfl
  next => cases h

/-- What the members about the target say is read again from the members written for it. -/
theorem readTarget_again {raw members : List (String × JsonValue)}
    {target : Option String × Option String} (h : readTarget env raw = .ok target)
    (htarget : members.lookup "connection_target" = target.1.map .str)
    (hverified : members.lookup "target_verified_at" = target.2.map .str) :
    readTarget env members = .ok target := by
  unfold readTarget at h
  split at h
  next =>
    cases h
    unfold readTarget
    rw [htarget, hverified]
    rfl
  next rawTarget rawVerified _ _ =>
    obtain ⟨text, htext, h⟩ := except_bind_eq_ok h
    obtain ⟨time, htime, h⟩ := except_bind_eq_ok h
    cases h
    obtain ⟨original, _, hread⟩ := ofText_ok htext
    obtain ⟨moment, _, hmoment⟩ := ofText_ok htime
    rw [← validatedConnectionTarget_ok hread] at hread
    rw [← validatedUtcTimestamp_ok hmoment] at hmoment
    unfold readTarget
    rw [htarget, hverified]
    show (validatedConnectionTarget env.tables text >>= fun _ => _) = _
    rw [hread]
    show (validatedUtcTimestamp env time >>= fun _ => _) = _
    rw [hmoment]
    rfl
  next => cases h

theorem readProfile_again {raw : List (String × JsonValue)} {profile : BrokerProfile}
    (h : readProfile env raw = .ok profile) :
    profileFromDict env profile.toDict = .ok profile := by
  obtain ⟨profileId, hprofileId, h⟩ := except_bind_eq_ok h
  obtain ⟨brokerId, hbrokerId, h⟩ := except_bind_eq_ok h
  obtain ⟨brokerName, hbrokerName, h⟩ := except_bind_eq_ok h
  obtain ⟨server, hserver, h⟩ := except_bind_eq_ok h
  obtain ⟨environment, henvironment, h⟩ := except_bind_eq_ok h
  obtain ⟨aliases, haliases, h⟩ := except_bind_eq_ok h
  obtain ⟨queries, hqueries, h⟩ := except_bind_eq_ok h
  obtain ⟨source, hsource, h⟩ := except_bind_eq_ok h
  obtain ⟨target, htarget, h⟩ := except_bind_eq_ok h
  cases h
  obtain ⟨_, _, hprofileId⟩ := ofText_ok hprofileId
  rw [← validatedId_ok hprofileId] at hprofileId
  obtain ⟨_, _, hbrokerId⟩ := ofText_ok hbrokerId
  rw [← validatedId_ok hbrokerId] at hbrokerId
  obtain ⟨_, _, hbrokerName⟩ := ofText_ok hbrokerName
  rw [← validatedCleanText_ok hbrokerName] at hbrokerName
  obtain ⟨_, _, hserver⟩ := ofText_ok hserver
  rw [← (validatedServer_ok.mp hserver).2.2] at hserver
  obtain ⟨_, _, henvironment⟩ := ofText_ok henvironment
  rw [← validatedEnvironment_ok henvironment] at henvironment
  obtain ⟨_, _, hsource⟩ := ofText_ok hsource
  rw [← validatedCleanText_ok hsource] at hsource
  obtain ⟨_, _, haliases⟩ := ofList_ok haliases
  obtain ⟨_, _, hqueries⟩ := ofList_ok hqueries
  have haliases := readServers_again haliases
  have hqueries := readQueries_again hqueries
  obtain ⟨connectionTarget, targetVerifiedAt⟩ := target
  generalize hprofile : (⟨profileId, brokerId, brokerName, server, environment, aliases, queries,
    source, connectionTarget, targetVerifiedAt⟩ : BrokerProfile) = profile
  obtain ⟨members, hmembers⟩ : ∃ members, profile.toDict = .obj members := ⟨_, rfl⟩
  have hread : get members "profile_id" = .str profileId ∧
      get members "broker_id" = .str brokerId ∧ get members "broker_name" = .str brokerName ∧
      get members "server" = .str server ∧ get members "environment" = .str environment ∧
      get members "aliases" = .arr (aliases.map .str) ∧
      get members "discovery_queries" = .arr (queries.map .str) ∧
      get members "source" = .str source := by
    subst hprofile
    cases hmembers
    exact ⟨rfl, rfl, rfl, rfl, rfl, rfl, rfl, rfl⟩
  have htogether := readTarget_isSome htarget
  have hrest : requireAllowedAndRequiredKeys members profileRequiredKeys profileOptionalKeys
        "registry profile" = .ok () ∧
      members.lookup "connection_target" = connectionTarget.map .str ∧
      members.lookup "target_verified_at" = targetVerifiedAt.map .str := by
    subst hprofile
    cases connectionTarget with
    | none =>
      cases targetVerifiedAt with
      | none =>
        cases hmembers
        exact ⟨rfl, rfl, rfl⟩
      | some verifiedAt => cases htogether
    | some target =>
      cases targetVerifiedAt with
      | none => cases htogether
      | some verifiedAt =>
        cases hmembers
        exact ⟨rfl, rfl, rfl⟩
  obtain ⟨hkeys, hconnection, hverified⟩ := hrest
  have hboth := readTarget_again htarget hconnection hverified
  obtain ⟨hid, hbroker, hname, hlabel, hkind, hothers, htexts, hfrom⟩ := hread
  rw [hmembers]
  unfold profileFromDict
  simp only [hkeys]
  show readProfile env members = _
  unfold readProfile
  rw [hid, hbroker, hname, hlabel, hkind, hothers, htexts, hfrom]
  simp only [ofText, ofList, hprofileId, hbrokerId, hbrokerName, hserver, henvironment, haliases,
    hqueries, hsource, hboth, except_ok_bind]
  rw [← hprofile]
  rfl

theorem profileFromDict_again {raw : JsonValue} {profile : BrokerProfile}
    (h : profileFromDict env raw = .ok profile) :
    profileFromDict env profile.toDict = .ok profile := by
  cases raw with
  | obj members =>
    obtain ⟨_, _, hread⟩ := except_bind_eq_ok h
    exact readProfile_again hread
  | null => cases h
  | bool value => cases h
  | int value => cases h
  | float value => cases h
  | str text => cases h
  | arr items => cases h

theorem registryOf_ok {revision : Int} {profiles : List BrokerProfile}
    {registry : BrokerRegistry env} (h : registryOf env revision profiles = .ok registry) :
    registry.revision = revision ∧ registry.profiles = profiles := by
  unfold registryOf at h
  split at h
  next => cases h
  next =>
    cases h
    exact ⟨rfl, rfl⟩

/-- What an accepted document holds. -/
theorem fromDict_ok {payload : JsonValue} {registry : BrokerRegistry env}
    (h : fromDict env payload = .ok registry) :
    ∃ members items, payload = .obj members ∧
      requireExactKeys members topLevelKeys "registry" = .ok () ∧
      checkSchemaVersion (get members "schema_version") = .ok () ∧
      get members "revision" = .int registry.revision ∧ 1 ≤ registry.revision ∧
      get members "profiles" = .arr items ∧ items ≠ [] ∧
      items.mapM (profileFromDict env) = .ok registry.profiles ∧
      registryOf env registry.revision registry.profiles = .ok registry := by
  cases payload with
  | obj members =>
    obtain ⟨_, hkeys, h⟩ := except_bind_eq_ok h
    obtain ⟨_, hversion, h⟩ := except_bind_eq_ok h
    obtain ⟨revision, hrevision, h⟩ := except_bind_eq_ok h
    obtain ⟨profiles, hprofiles, h⟩ := except_bind_eq_ok h
    obtain ⟨items, hitems, hread⟩ := ofList_ok hprofiles
    obtain ⟨hsameRevision, hsameProfiles⟩ := registryOf_ok h
    have hnumber : get members "revision" = .int revision ∧ 1 ≤ revision := by
      unfold readRevision at hrevision
      split at hrevision
      next number heq =>
        split at hrevision
        next => cases hrevision
        next hpositive =>
          cases hrevision
          exact ⟨heq, by omega⟩
      next => cases hrevision
    have hall : items ≠ [] ∧ items.mapM (profileFromDict env) = .ok profiles := by
      unfold readProfiles at hread
      split at hread
      next => cases hread
      next hsome =>
        refine ⟨fun hnil => hsome ?_, hread⟩
        rw [hnil]
        rfl
    refine ⟨members, items, rfl, hkeys, hversion, ?_, ?_, hitems, hall.1, ?_, ?_⟩
    · rw [hsameRevision]
      exact hnumber.1
    · rw [hsameRevision]
      exact hnumber.2
    · rw [hsameProfiles]
      exact hall.2
    · rw [hsameRevision, hsameProfiles]
      exact h
  | null => cases h
  | bool value => cases h
  | int value => cases h
  | float value => cases h
  | str text => cases h
  | arr items => cases h

theorem fromDict_of {members : List (String × JsonValue)} {revision : Int}
    {items : List JsonValue} {profiles : List BrokerProfile} {registry : BrokerRegistry env}
    (hkeys : requireExactKeys members topLevelKeys "registry" = .ok ())
    (hversion : checkSchemaVersion (get members "schema_version") = .ok ())
    (hrevision : get members "revision" = .int revision) (hpositive : 1 ≤ revision)
    (hitems : get members "profiles" = .arr items) (hsome : items ≠ [])
    (hprofiles : items.mapM (profileFromDict env) = .ok profiles)
    (hregistry : registryOf env revision profiles = .ok registry) :
    fromDict env (.obj members) = .ok registry := by
  have hread : readRevision (get members "revision") = .ok revision := by
    rw [hrevision]
    exact if_neg (by omega)
  have hall : readProfiles env items = .ok profiles := by
    unfold readProfiles
    rw [if_neg, hprofiles]
    intro hempty
    exact hsome (List.isEmpty_iff.mp hempty)
  unfold fromDict
  simp only [hkeys, hversion, hread, hitems, ofList, hall, hregistry, except_ok_bind]

theorem fromDict_toDict {payload : JsonValue} {registry : BrokerRegistry env}
    (h : fromDict env payload = .ok registry) :
    fromDict env registry.toDict = .ok registry := by
  obtain ⟨members, items, hpayload, hkeys, hversion, hrevision, hpositive, hitems, hsome,
    hprofiles, hregistry⟩ := fromDict_ok h
  have hagain : (registry.profiles.map BrokerProfile.toDict).mapM (profileFromDict env) =
      .ok registry.profiles := by
    apply mapM_of_forall₂
    rw [List.forall₂_map_left_iff, List.forall₂_same]
    intro profile hmem
    obtain ⟨raw, _, hraw⟩ := exists_of_mem_right (forall₂_of_mapM hprofiles) hmem
    exact profileFromDict_again hraw
  have hwritten : registry.profiles.map BrokerProfile.toDict ≠ [] := by
    intro hnil
    have hnone : registry.profiles = [] := List.map_eq_nil_iff.mp hnil
    rw [hnone] at hprofiles
    have hpairs := forall₂_of_mapM hprofiles
    cases hpairs
    exact hsome rfl
  exact fromDict_of rfl rfl rfl hpositive rfl hwritten hagain hregistry

end Reading

section Order

variable {env : RegistryEnv}

theorem claimLabels_of_nodup {keys claimed : List (List Char)} (h : (claimed ++ keys).Nodup) :
    keys.foldlM claimLabel claimed = .ok (claimed ++ keys) := by
  induction keys generalizing claimed with
  | nil =>
    rw [List.append_nil]
    rfl
  | cons key keys ih =>
    have hnew : key ∉ claimed := by
      intro hmem
      exact (List.nodup_append.mp h).2.2 key hmem key List.mem_cons_self rfl
    have hclaim : claimLabel claimed key = .ok (claimed ++ [key]) := if_neg hnew
    have hmoved : claimed ++ key :: keys = claimed ++ [key] ++ keys := by
      rw [List.append_assoc]
      rfl
    rw [hmoved] at h ⊢
    rw [List.foldlM_cons, hclaim]
    exact ih h

theorem claimProfiles_of_nodup (claimed : ClaimedLabels) {profiles : List BrokerProfile}
    (hids : (claimed.ids ++ profiles.map BrokerProfile.profileId).Nodup)
    (hlabels : (claimed.labels ++ profiles.flatMap (·.labels env)).Nodup) :
    ∃ after, profiles.foldlM (claimProfile env) claimed = .ok after := by
  induction profiles generalizing claimed with
  | nil => exact ⟨claimed, rfl⟩
  | cons profile profiles ih =>
    have hnew : profile.profileId ∉ claimed.ids := by
      intro hmem
      exact (List.nodup_append.mp hids).2.2 _ hmem _ List.mem_cons_self rfl
    rw [List.flatMap_cons, ← List.append_assoc] at hlabels
    have hclaim : claimProfile env claimed profile =
        .ok ⟨claimed.ids ++ [profile.profileId], claimed.labels ++ profile.labels env⟩ := by
      unfold claimProfile
      rw [if_neg hnew, claimLabels_of_nodup (List.nodup_append.mp hlabels).1]
      rfl
    have hmoved : claimed.ids ++ (profile :: profiles).map BrokerProfile.profileId =
        claimed.ids ++ [profile.profileId] ++ profiles.map BrokerProfile.profileId := by
      rw [List.append_assoc]
      rfl
    rw [hmoved] at hids
    obtain ⟨after, hafter⟩ := ih ⟨_, claimed.labels ++ profile.labels env⟩ hids hlabels
    refine ⟨after, ?_⟩
    rw [List.foldlM_cons, hclaim]
    exact hafter

theorem claimProfiles_ids {profiles : List BrokerProfile} {claimed after : ClaimedLabels}
    (h : profiles.foldlM (claimProfile env) claimed = .ok after) (hnodup : claimed.ids.Nodup) :
    (claimed.ids ++ profiles.map BrokerProfile.profileId).Nodup := by
  induction profiles generalizing claimed with
  | nil =>
    rw [List.map_nil, List.append_nil]
    exact hnodup
  | cons profile profiles ih =>
    rw [List.foldlM_cons] at h
    obtain ⟨next, hnext, h⟩ := except_bind_eq_ok h
    unfold claimProfile at hnext
    split at hnext
    next => cases hnext
    next hnew =>
      obtain ⟨labels, _, hnext⟩ := except_bind_eq_ok hnext
      cases hnext
      have hlonger : (claimed.ids ++ [profile.profileId]).Nodup := by
        apply List.Nodup.append hnodup (List.nodup_singleton _)
        intro id hmem hlast
        exact hnew (List.mem_singleton.mp hlast ▸ hmem)
      have hrest := ih h hlonger
      rw [List.append_assoc] at hrest
      exact hrest

/-- A registry is accepted exactly when no identifier and no label is claimed twice. -/
theorem registryOf_iff (revision : Int) (profiles : List BrokerProfile) :
    (∃ registry, registryOf env revision profiles = .ok registry) ↔
      (profiles.map BrokerProfile.profileId).Nodup ∧
        (profiles.flatMap (·.labels env)).Nodup := by
  constructor
  · intro ⟨registry, h⟩
    have hprofiles := (registryOf_ok h).2
    unfold registryOf at h
    split at h
    next => cases h
    next after hclaimed =>
      have hids := claimProfiles_ids hclaimed List.nodup_nil
      rw [List.nil_append] at hids
      refine ⟨hids, ?_⟩
      rw [← hprofiles]
      exact registry.labels_nodup
  · intro ⟨hids, hlabels⟩
    obtain ⟨after, hafter⟩ := claimProfiles_of_nodup ⟨[], []⟩ hids hlabels
    unfold registryOf
    split
    next herror =>
      rw [hafter] at herror
      cases herror
    next => exact ⟨_, rfl⟩

theorem find?_perm {α : Type} {p : α → Bool} {xs ys : List α} (hperm : xs.Perm ys)
    (hunique : ∀ a ∈ xs, ∀ b ∈ xs, p a = true → p b = true → a = b) :
    xs.find? p = ys.find? p := by
  cases hx : xs.find? p with
  | none =>
    symm
    rw [List.find?_eq_none] at hx ⊢
    exact fun a ha => hx a (hperm.mem_iff.mpr ha)
  | some a =>
    have hmem := List.mem_of_find?_eq_some hx
    have hholds := List.find?_some hx
    cases hy : ys.find? p with
    | none => exact absurd hholds (List.find?_eq_none.mp hy a (hperm.mem_iff.mp hmem))
    | some b =>
      have hother := hperm.mem_iff.mpr (List.mem_of_find?_eq_some hy)
      rw [hunique a hmem b hother hholds (List.find?_some hy)]

/-- A label names its profile. -/
theorem profile_of_label (registry : BrokerRegistry env) {key : List Char}
    {profile other : BrokerProfile} (hprofile : profile ∈ registry.profiles)
    (hother : other ∈ registry.profiles) (hkey : key ∈ profile.labels env)
    (hkey' : key ∈ other.labels env) : profile = other := by
  by_contra hne
  have hapart := (List.nodup_flatMap.mp registry.labels_nodup).2
  have hsymm : Std.Symm (Function.onFun List.Disjoint fun other : BrokerProfile =>
      other.labels env) := ⟨fun _ _ h _ hb ha => h ha hb⟩
  exact hapart.forall hprofile hother hne hkey hkey'

theorem lookup_perm {registry other : BrokerRegistry env}
    (hrevision : registry.revision = other.revision)
    (hperm : registry.profiles.Perm other.profiles) (server : String) :
    registry.lookup server = other.lookup server := by
  have hcanonical : ∀ key, registry.canonical key = other.canonical key := by
    intro key
    apply find?_perm hperm
    intro a ha b hb hholds hholds'
    rw [decide_eq_true_eq] at hholds hholds'
    have hkey : key ∈ a.labels env := hholds ▸ List.mem_cons_self
    have hkey' : key ∈ b.labels env := hholds' ▸ List.mem_cons_self
    exact profile_of_label registry ha hb hkey hkey'
  have halias : ∀ key, registry.aliasOf key = other.aliasOf key := by
    intro key
    apply find?_perm hperm
    intro a ha b hb hholds hholds'
    rw [decide_eq_true_eq] at hholds hholds'
    exact profile_of_label registry ha hb (List.mem_cons_of_mem _ hholds)
      (List.mem_cons_of_mem _ hholds')
  unfold BrokerRegistry.lookup
  rw [hcanonical, halias]
  unfold BrokerRegistry.resolution BrokerRegistry.unresolvedPlan
  rw [hrevision]

/-- The resolution without what repeats how the label was spelled. -/
def BrokerResolution.unspelled (resolution : BrokerResolution) : BrokerResolution :=
  { resolution with
    requestedServer := ""
    matchedBy := if resolution.matchedBy = "exact" then "casefold" else resolution.matchedBy }

theorem lookup_unspelled (registry : BrokerRegistry env) {server other : String}
    (h : serverKey env.tables server = serverKey env.tables other) :
    (registry.lookup server).unspelled = (registry.lookup other).unspelled := by
  unfold BrokerRegistry.lookup
  rw [h]
  cases registry.canonical (serverKey env.tables other) with
  | some profile =>
    have hmatched : ∀ condition : Prop, ∀ _ : Decidable condition,
        (if (if condition then "exact" else "casefold") = "exact" then "casefold"
          else if condition then "exact" else "casefold") = "casefold" := by
      intro condition hdecidable
      by_cases hc : condition
      · rw [if_pos hc, if_pos rfl]
      · rw [if_neg hc, if_neg (by decide)]
    unfold BrokerResolution.unspelled BrokerRegistry.resolution
    simp only [hmatched]
  | none =>
    cases registry.aliasOf (serverKey env.tables other) with
    | some profile => rfl
    | none => rfl

theorem lookup_exact_iff (registry : BrokerRegistry env) (server : String) :
    (registry.lookup server).matchedBy = "exact" ↔
      (registry.lookup server).expectedServer = some server := by
  unfold BrokerRegistry.lookup
  cases hcanonical : registry.canonical (serverKey env.tables server) with
  | some profile =>
    show (if server = profile.server then "exact" else "casefold") = "exact" ↔
      some profile.server = some server
    by_cases hserver : server = profile.server
    · rw [if_pos hserver, hserver]
      exact iff_of_true rfl rfl
    · rw [if_neg hserver]
      exact iff_of_false (by decide) fun heq => hserver (Option.some.inj heq).symm
  | none =>
    cases halias : registry.aliasOf (serverKey env.tables server) with
    | some profile =>
      have hother : "alias" ≠ "exact" := by decide
      refine iff_of_false hother fun heq => ?_
      have hserver : profile.server = server := Option.some.inj heq
      have hmem := List.mem_of_find?_eq_some halias
      have hfound := canonical_server registry hmem
      rw [hserver, hcanonical] at hfound
      cases hfound
    | none =>
      have hother : "none" ≠ "exact" := by decide
      exact iff_of_false hother fun heq => nomatch heq

end Order

section Guarantee

variable {env : RegistryEnv}

/-- The document with other profiles. -/
def withProfiles (items : List JsonValue) (payload : JsonValue) : JsonValue :=
  payload.updateMember "profiles" fun _ => .arr items

theorem fromDict_perm {members : List (String × JsonValue)} {items items' : List JsonValue}
    {registry : BrokerRegistry env} (h : fromDict env (.obj members) = .ok registry)
    (hitems : get members "profiles" = .arr items) (hperm : items'.Perm items) :
    ∃ registry', fromDict env (withProfiles items' (.obj members)) = .ok registry' ∧
      registry'.profiles.Perm registry.profiles ∧
      ∀ server, registry'.resolve server = registry.resolve server := by
  obtain ⟨members', stored, hpayload, hkeys, hversion, hrevision, hpositive, hstored, hsome,
    hprofiles, hregistry⟩ := fromDict_ok h
  cases hpayload
  rw [hitems] at hstored
  cases hstored
  obtain ⟨profiles', hprofiles', hsame⟩ := mapM_perm hprofiles hperm
  obtain ⟨hids, hlabels⟩ := (registryOf_iff _ _).mp ⟨registry, hregistry⟩
  have hids' := ((hsame.map BrokerProfile.profileId).nodup_iff).mpr hids
  have hlabels' := ((hsame.flatMap_right (·.labels env)).nodup_iff).mpr hlabels
  obtain ⟨registry', hregistry'⟩ := (registryOf_iff _ _).mpr ⟨hids', hlabels'⟩
  obtain ⟨hrevision', hstored'⟩ := registryOf_ok hregistry'
  have hsome' : items' ≠ [] := fun hnil => hsome (List.nil_perm.mp (hnil ▸ hperm))
  have hkeys' : requireExactKeys
      (JsonValue.updateMembers "profiles" (fun _ => .arr items') members) topLevelKeys "registry" =
        .ok () := by
    unfold requireExactKeys at hkeys ⊢
    rw [JsonValue.keys_updateMembers]
    exact hkeys
  have hmem : "profiles" ∈ members.map Prod.fst := by
    unfold requireExactKeys at hkeys
    split at hkeys
    next hexact => exact hexact.2 "profiles" (by decide)
    next => cases hkeys
  refine ⟨registry', ?_, ?_, ?_⟩
  · apply fromDict_of hkeys' _ _ hpositive _ hsome' hprofiles' hregistry'
    · rw [JsonValue.get_updateMembers_of_ne (by decide)]
      exact hversion
    · rw [JsonValue.get_updateMembers_of_ne (by decide)]
      exact hrevision
    · exact JsonValue.get_updateMembers hmem
  · rw [hstored']
    exact hsame
  · intro server
    rw [← hstored'] at hsame
    have hlookup := lookup_perm hrevision' hsame
    unfold BrokerRegistry.resolve
    simp only [hlookup]

theorem label_once (registry : BrokerRegistry env) (key : List Char) :
    (registry.profiles.filter fun profile => key ∈ profile.labels env).length ≤ 1 := by
  have hapart := ((List.nodup_flatMap.mp registry.labels_nodup).2).filter
    (fun profile => decide (key ∈ profile.labels env))
  have hall : ∀ profile ∈ registry.profiles.filter fun profile => key ∈ profile.labels env,
      key ∈ profile.labels env := by
    intro profile hmem
    exact of_decide_eq_true (List.mem_filter.mp hmem).2
  generalize registry.profiles.filter (fun profile => key ∈ profile.labels env) = owners at *
  match owners with
  | [] => exact Nat.zero_le 1
  | [profile] => exact Nat.le_refl 1
  | first :: second :: rest =>
    have hdisjoint := (List.pairwise_cons.mp hapart).1 second List.mem_cons_self
    have hfirst := hall first List.mem_cons_self
    have hsecond := hall second (List.mem_cons_of_mem _ List.mem_cons_self)
    exact (hdisjoint hfirst hsecond).elim

theorem lookup_requestedServer (registry : BrokerRegistry env) (server : String) :
    (registry.lookup server).requestedServer = server := by
  unfold BrokerRegistry.lookup
  cases registry.canonical (serverKey env.tables server) with
  | some profile => rfl
  | none =>
    cases registry.aliasOf (serverKey env.tables server) with
    | some profile => rfl
    | none => rfl

/-- An accepted registry is read back from what it writes, resolves by the folded label whatever
the order of its profiles, and gives each label to one profile at most. -/
theorem registry_accepted {payload : JsonValue} {registry : BrokerRegistry env}
    (h : fromDict env payload = .ok registry) :
    fromDict env registry.toDict = .ok registry ∧
    (∀ server other plan plan', serverKey env.tables server = serverKey env.tables other →
      registry.resolve server = .ok plan → registry.resolve other = .ok plan' →
        plan.unspelled = plan'.unspelled) ∧
    (∀ server plan, registry.resolve server = .ok plan → plan.requestedServer = server ∧
      (plan.matchedBy = "exact" ↔ plan.expectedServer = some server)) ∧
    (∀ members items items', payload = .obj members → get members "profiles" = .arr items →
      items'.Perm items → ∃ registry', fromDict env (withProfiles items' payload) = .ok registry' ∧
        registry'.profiles.Perm registry.profiles ∧
        ∀ server, registry'.resolve server = registry.resolve server) ∧
    ∀ key, (registry.profiles.filter fun profile => key ∈ profile.labels env).length ≤ 1 := by
  refine ⟨fromDict_toDict h, ?_, ?_, ?_, label_once registry⟩
  · intro server other plan plan' hkey hplan hplan'
    rw [(resolve_eq_ok.mp hplan).2, (resolve_eq_ok.mp hplan').2]
    exact lookup_unspelled registry hkey
  · intro server plan hplan
    rw [(resolve_eq_ok.mp hplan).2]
    exact ⟨lookup_requestedServer registry server, lookup_exact_iff registry server⟩
  · intro members items items' hpayload hitems hperm
    subst hpayload
    exact fromDict_perm h hitems hperm

theorem registry_accepted_shipped :
    fromDict plainEnv (defaultRegistry plainEnv).toDict = .ok (defaultRegistry plainEnv) ∧
      fromDict plainEnv (defaultRegistry plainEnv).toDict = .ok (defaultRegistry plainEnv) := by
  have hprofiles : [shippedProfile.toDict].mapM (profileFromDict plainEnv) =
      .ok [shippedProfile] := by decide +kernel
  have h : fromDict plainEnv (defaultRegistry plainEnv).toDict = .ok (defaultRegistry plainEnv) :=
    fromDict_of rfl rfl rfl (by decide) rfl (List.cons_ne_nil _ _) hprofiles rfl
  exact ⟨h, (registry_accepted h).1⟩

/-- The plan repeats the label as it was asked for and tells whether it is the exact one. -/
theorem resolve_spelling :
    serverKey plainEnv.tables "FPMTrading-Live" = serverKey plainEnv.tables "fpmtrading-live" ∧
      (defaultRegistry plainEnv).resolve "FPMTrading-Live" =
        .ok ((defaultRegistry plainEnv).resolution "FPMTrading-Live" "exact" shippedProfile) ∧
      (defaultRegistry plainEnv).resolve "fpmtrading-live" =
        .ok ((defaultRegistry plainEnv).resolution "fpmtrading-live" "casefold"
          shippedProfile) ∧
      (defaultRegistry plainEnv).resolve "FPMTrading-Live" ≠
        (defaultRegistry plainEnv).resolve "fpmtrading-live" := by
  decide +kernel

end Guarantee

end TradeJournalWorker.Routing
