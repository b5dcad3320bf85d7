import TradeJournalWorker.BrokerRegistry

namespace TradeJournalWorker.Routing

open Lab (UnicodeTables)

def shippedProfile : BrokerProfile where
  profileId := "fpm-trading-live"
  brokerId := "fpm-trading"
  brokerName := "FPM Trading Ltd"
  server := "FPMTrading-Live"
  environment := "live"
  aliases := []
  discoveryQueries := ["FPM Trading Ltd", "FPM Trading"]
  source := "vps-find-broker-validated-2026-07-22"
  connectionTarget := none
  targetVerifiedAt := none

section Plans

variable (env : RegistryEnv)

/-- `BrokerRegistry.default()`, the registry in the shipped file. -/
def defaultRegistry : BrokerRegistry env where
  revision := 1
  profiles := [shippedProfile]
  labels_nodup := by simp [BrokerProfile.labels, shippedProfile]

/-- A `broker_hint`: absent, a text, or a value of another type. -/
inductive BrokerHint where
  | absent
  | text (value : String)
  | other
  deriving DecidableEq, Repr

/-- `_validated_optional_hint`. -/
def validatedOptionalHint : BrokerHint → Except String (Option String)
  | .absent => .ok none
  | .other => .error "broker_hint is invalid"
  | .text value =>
    if value.toList = [] ∨ 128 < value.toList.length then .error "broker_hint is invalid"
    else if value.toList ≠ env.tables.strip value.toList ∨ hasPathSeparator value then
      .error "broker_hint is invalid"
    else if value.toList.any fun c => env.tables.category c = .other then
      .error "broker_hint is invalid"
    else do
      rejectNetworkTarget env.tables value "broker_hint"
      return some value

/-- The folded texts a hint for a known profile may have. -/
def acceptedHints (plan : BrokerResolution) : List (List Char) :=
  env.tables.casefoldText (plan.expectedServer.getD "") ::
    env.tables.casefoldText (plan.brokerName.getD "") ::
      plan.discoveryQueries.map env.tables.casefoldText

attribute [local instance] lawfulText

/-- `_reject_conflicting_known_hint`. -/
def rejectConflictingKnownHint (plan : BrokerResolution) : Option String → Except String Unit
  | none => .ok ()
  | some hint =>
    if env.tables.casefoldText hint ∈ acceptedHints env plan then .ok ()
    else .error "broker_hint conflicts with the known broker profile"

/-- The exact server first, and the hint when it is another text. -/
def planQueries (expectedServer : String) : Option String → List String
  | none => [expectedServer]
  | some hint =>
    if env.tables.casefoldText hint = env.tables.casefoldText expectedServer then [expectedServer]
    else [expectedServer, hint]

def discoveryPlan (revision : Int) (expectedServer : String) (hint : Option String) :
    BrokerResolution where
  requestedServer := expectedServer
  method := .terminalDiscovery
  expectedServer := some expectedServer
  connectionTarget := none
  discoveryQueries := planQueries env expectedServer hint
  profileId := none
  brokerId := none
  brokerName := none
  environment := none
  revision
  matchedBy := "generic_exact_server"

/-- `ZeroLicenseBrokerResolver.resolve` over a registry. -/
def zeroLicenseResolve (registry : BrokerRegistry env) (expectedServer : String)
    (brokerHint : BrokerHint) : Except String BrokerResolution := do
  let known ← registry.resolve expectedServer
  let hint ← validatedOptionalHint env brokerHint
  if known.method ≠ .unresolved then do
    rejectConflictingKnownHint env known hint
    return known
  else do
    rejectNetworkTarget env.tables expectedServer "expected_server"
    return discoveryPlan env registry.revision expectedServer hint

/-- The profile of the synthetic registry a plan is checked with. -/
def planProfile (plan : BrokerResolution) (expectedServer : String) : BrokerProfile where
  profileId := "injected-plan"
  brokerId := "injected-plan"
  brokerName := "Injected broker plan"
  server := expectedServer
  environment := "live"
  aliases := []
  discoveryQueries := plan.discoveryQueries
  source := "dependency-injected-resolver"
  connectionTarget := plan.connectionTarget
  targetVerifiedAt := plan.connectionTarget.map fun _ => "2000-01-01T00:00:00Z"

/-- Direct targets and other identities come from the trusted registry only. -/
def checkRouting (plan trusted : BrokerResolution) (expectedServer requestedServer : String) :
    Except String Unit :=
  if (plan.method = .directEndpoint ∨
      env.tables.casefoldText expectedServer ≠ env.tables.casefoldText requestedServer) ∧
      plan ≠ trusted then
    .error "broker resolver returned an untrusted routing plan"
  else .ok ()

def checkQueries (plan : BrokerResolution) (expectedServer : String) : Except String Unit :=
  if plan.method = .terminalDiscovery then do
    rejectNetworkTarget env.tables expectedServer "expected_server"
    plan.discoveryQueries.forM fun query => rejectNetworkTarget env.tables query "discovery_query"
  else .ok ()

def checkMethod (plan : BrokerResolution) : Except String Unit :=
  match plan.method with
  | .directEndpoint =>
    if plan.connectionTarget = none then .error "direct broker plan has no connection target"
    else .ok ()
  | .terminalDiscovery =>
    if plan.connectionTarget ≠ none then
      .error "terminal discovery plan cannot carry a direct target"
    else .ok ()
  | .unresolved => .error "broker resolver returned an unsupported method"

/-- The registry's answer to the requested server. -/
def trustedPlan (trusted : BrokerRegistry env) (requestedServer : String) :
    Except String BrokerResolution :=
  match trusted.resolve requestedServer with
  | .ok plan => .ok plan
  | .error _ => .error "trusted broker registry is unavailable"

def checkTarget (plan validated : BrokerResolution) : Except String Unit :=
  if validated.connectionTarget ≠ plan.connectionTarget then
    .error "broker resolver returned an invalid connection target"
  else .ok ()

/-- The checks of a plan with a server and queries. -/
def validateCompletePlan (trusted : BrokerRegistry env) (plan : BrokerResolution)
    (expectedServer requestedServer : String) : Except String BrokerResolution := do
  let trustedPlan ← trustedPlan env trusted requestedServer
  checkRouting env plan trustedPlan expectedServer requestedServer
  checkQueries env plan expectedServer
  let validation ← registryFromDict env 1 [planProfile plan expectedServer]
  let validated ← validation.resolve expectedServer
  checkMethod plan
  checkTarget plan validated
  return plan

/-- `validate_resolution_plan` with the trusted registry; an object of another class is `none`. -/
def validateResolutionPlan (trusted : BrokerRegistry env) (plan : Option BrokerResolution)
    (requestedServer : String) : Except String BrokerResolution :=
  match plan with
  | none => .error "broker resolver returned an invalid plan"
  | some plan =>
    if plan.method = .unresolved then .error "broker resolver returned an unusable plan"
    else if plan.requestedServer ≠ requestedServer then
      .error "broker resolver changed the requested server"
    else
      match plan.expectedServer with
      | none => .error "broker resolver returned an incomplete plan"
      | some expectedServer =>
        if expectedServer = "" ∨ plan.discoveryQueries = [] then
          .error "broker resolver returned an incomplete plan"
        else validateCompletePlan env trusted plan expectedServer requestedServer

end Plans

section Texts

variable {env : RegistryEnv} {value field : String}

theorem validatedServer_ok {tables : UnicodeTables} {result : String} :
    validatedServer tables value field = .ok result ↔
      isServerLabel value.toList = true ∧ value.toList = tables.strip value.toList ∧
        result = value := by
  unfold validatedServer
  split
  next h => simp [h]
  next h =>
    split
    next hstrip => simp [hstrip]
    next hstrip =>
      push Not at hstrip
      simp only [Except.ok.injEq]
      constructor
      · intro heq
        exact ⟨by simpa using h, hstrip, heq.symm⟩
      · intro hall
        exact hall.2.2.symm

theorem isControl_of_isServerChar {c : Char} (h : isServerChar c = true) :
    isControl c = false ∧ c ≠ '/' ∧ c ≠ '\\' := by
  unfold isServerChar at h
  have hcases : c.isAlphanum = true ∨ c = '.' ∨ c = '_' ∨ c = ' ' ∨ c = '-' := by
    simpa using h
  rcases hcases with h | rfl | rfl | rfl | rfl
  · have hval : c.toNat = c.val.toNat := rfl
    delta Char.isAlphanum Char.isAlpha Char.isUpper Char.isLower Char.isDigit at h
    simp only [Bool.or_eq_true, Bool.and_eq_true, decide_eq_true_eq, UInt32.le_iff_toNat_le, ge_iff_le] at h
    have hbounds : 48 ≤ c.toNat ∧ c.toNat ≤ 122 ∧ c.toNat ≠ 92 := by
      have h0 : '0'.val.toNat = 48 := rfl
      have h9 : '9'.val.toNat = 57 := rfl
      have hA : 'A'.val.toNat = 65 := rfl
      have hZ : 'Z'.val.toNat = 90 := rfl
      have ha : 'a'.val.toNat = 97 := rfl
      have hz : 'z'.val.toNat = 122 := rfl
      omega
    refine ⟨?_, ?_, ?_⟩
    · simp [isControl]
      omega
    · rintro rfl
      exact absurd hbounds (by decide)
    · rintro rfl
      exact absurd hbounds (by decide)
  all_goals decide

/-- What the registry asks of a discovery query. -/
structure CleanQuery (env : RegistryEnv) (query : String) : Prop where
  ne_nil : query.toList ≠ []
  short : query.toList.length ≤ 128
  stripped : query.toList = env.tables.strip query.toList
  printable : ∀ c ∈ query.toList, isControl c = false
  no_separator : hasPathSeparator query = false

theorem CleanQuery.validated (h : CleanQuery env value) :
    validatedCleanText env.tables value field 128 = .ok value := by
  unfold validatedCleanText
  rw [if_neg, if_neg]
  · have hstripped := h.stripped
    have hprintable := h.printable
    simp only [ne_eq, List.any_eq_true, not_or, not_not, not_exists, not_and]
    exact ⟨hstripped, fun c hc => by simp [hprintable c hc]⟩
  · have hnil := h.ne_nil
    have hshort := h.short
    simp only [not_or, Nat.not_lt]
    exact ⟨hnil, hshort⟩

theorem cleanQuery_of_server (hlabel : isServerLabel value.toList = true)
    (hstripped : value.toList = env.tables.strip value.toList) : CleanQuery env value := by
  unfold isServerLabel at hlabel
  simp only [Bool.and_eq_true, decide_eq_true_eq, List.all_eq_true] at hlabel
  obtain ⟨⟨hnil, hshort⟩, hchars⟩ := hlabel
  have hseparator : hasPathSeparator value = false := by
    unfold hasPathSeparator
    have hslash : '/' ∉ value.toList := fun hmem =>
      (isControl_of_isServerChar (hchars _ hmem)).2.1 rfl
    have hback : '\\' ∉ value.toList := fun hmem =>
      (isControl_of_isServerChar (hchars _ hmem)).2.2 rfl
    simp [hslash, hback]
  exact ⟨by simpa using hnil, hshort, hstripped,
    fun c hc => (isControl_of_isServerChar (hchars c hc)).1, hseparator⟩

theorem category_of_isControl {tables : UnicodeTables} {c : Char} (h : isControl c = true) :
    tables.category c = .other := by
  unfold isControl at h
  have hbounds : c.toNat < 32 ∨ c.toNat = 127 := by simpa using h
  have hascii : Lab.isAscii c = true := by
    unfold Lab.isAscii
    simp only [decide_eq_true_eq]
    omega
  unfold UnicodeTables.category Lab.asciiMajor
  rw [if_pos hascii, if_pos]
  simpa using hbounds

theorem validatedOptionalHint_some {brokerHint : BrokerHint} {hint : String}
    (h : validatedOptionalHint env brokerHint = .ok (some hint)) :
    CleanQuery env hint ∧ isNetworkTarget env.tables hint = false := by
  cases brokerHint with
  | absent => cases h
  | other => cases h
  | text value =>
    simp only [validatedOptionalHint] at h
    split at h
    next => cases h
    next hlength =>
      split at h
      next => cases h
      next hshape =>
        split at h
        next => cases h
        next hcategory =>
          obtain ⟨checked, htarget, h⟩ := except_bind_eq_ok h
          cases h
          simp only [not_or, Nat.not_lt] at hlength
          simp only [ne_eq, not_or, not_not, Bool.not_eq_true] at hshape
          simp only [List.any_eq_true, decide_eq_true_eq, not_exists, not_and] at hcategory
          have hprintable : ∀ c ∈ hint.toList, isControl c = false := by
            intro c hc
            by_contra hcontrol
            exact hcategory c hc (category_of_isControl (by simpa using hcontrol))
          exact ⟨⟨hlength.1, hlength.2, hshape.1, hprintable, hshape.2⟩,
            (rejectNetworkTarget_ok env.tables).mp htarget⟩

end Texts

end TradeJournalWorker.Routing
