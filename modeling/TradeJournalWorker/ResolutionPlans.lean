import Mathlib.Data.List.Nodup
import Mathlib.Data.List.Pairwise
import TradeJournalWorker.BrokerResolution

namespace TradeJournalWorker.Routing

open Lab (UnicodeTables)

section Registries

variable {env : RegistryEnv}

/-- No profile before the one that holds the label claims it. -/
theorem canonical_server (registry : BrokerRegistry env) {profile : BrokerProfile}
    (hmem : profile ∈ registry.profiles) :
    registry.canonical (serverKey env.tables profile.server) = some profile := by
  unfold BrokerRegistry.canonical
  obtain ⟨-, hdisjoint⟩ := List.nodup_flatMap.mp registry.labels_nodup
  obtain ⟨found, hfound⟩ : ∃ found, registry.profiles.find?
      (fun other => serverKey env.tables other.server = serverKey env.tables profile.server) =
        some found := by
    rw [← Option.isSome_iff_exists, List.find?_isSome]
    exact ⟨profile, hmem, by simp⟩
  have hkey : serverKey env.tables found.server = serverKey env.tables profile.server := by
    simpa using List.find?_some hfound
  rw [hfound]
  by_contra hne
  have hother : found ≠ profile := fun heq => hne (by rw [heq])
  have hsymm : Std.Symm (Function.onFun List.Disjoint fun other : BrokerProfile =>
      other.labels env) := ⟨fun _ _ h _ hb ha => h ha hb⟩
  have happart := hdisjoint.forall (List.mem_of_find?_eq_some hfound) hmem hother
  refine happart (a := serverKey env.tables profile.server) ?_ ?_
  · rw [← hkey]
    simp [BrokerProfile.labels]
  · simp [BrokerProfile.labels]

theorem lookup_server (registry : BrokerRegistry env) {profile : BrokerProfile}
    (hmem : profile ∈ registry.profiles) :
    registry.lookup profile.server = registry.resolution profile.server "exact" profile := by
  unfold BrokerRegistry.lookup
  rw [canonical_server registry hmem]
  simp

theorem resolve_eq_ok {registry : BrokerRegistry env} {server : String} {plan : BrokerResolution} :
    registry.resolve server = .ok plan ↔
      validatedServer env.tables server "requested_server" = .ok server ∧
        plan = registry.lookup server := by
  unfold BrokerRegistry.resolve
  constructor
  · intro h
    obtain ⟨checked, hserver, h⟩ := except_bind_eq_ok h
    obtain ⟨hlabel, hstripped, heq⟩ := validatedServer_ok.mp hserver
    cases h
    rw [heq] at hserver ⊢
    exact ⟨hserver, rfl⟩
  · rintro ⟨hserver, rfl⟩
    rw [hserver]
    rfl

theorem registryFromDict_single {raw profile : BrokerProfile}
    (hparse : parseProfile env raw = .ok profile) (haliases : profile.aliases = []) :
    ∃ registry, registryFromDict env 1 [raw] = .ok registry ∧ registry.profiles = [profile] := by
  have hmap : [raw].mapM (parseProfile env) = .ok [profile] := by
    rw [List.mapM_cons, hparse]
    rfl
  have hclaim : ∃ claimed, [profile].foldlM (claimProfile env) ⟨[], []⟩ = .ok claimed := by
    refine ⟨⟨[profile.profileId], [serverKey env.tables profile.server]⟩, ?_⟩
    rw [List.foldlM_cons]
    unfold claimProfile BrokerProfile.labels
    rw [haliases]
    rfl
  obtain ⟨claimed, hclaim⟩ := hclaim
  have hregistry : ∃ registry, registryOf env 1 [profile] = .ok registry ∧
      registry.profiles = [profile] := by
    unfold registryOf
    split
    next h =>
      rw [hclaim] at h
      cases h
    next h => exact ⟨_, rfl, rfl⟩
  obtain ⟨registry, hregistry, hprofiles⟩ := hregistry
  refine ⟨registry, ?_, hprofiles⟩
  unfold registryFromDict
  rw [if_neg (by decide), if_neg (by simp), hmap]
  exact hregistry

theorem defaultRegistry_loaded :
    registryFromDict env 1 [shippedProfile] = .ok (defaultRegistry env) := by
  unfold registryFromDict
  rw [if_neg (by decide), if_neg (by simp)]
  rfl

/-- The shipped registry knows one server and no alias of it. -/
theorem lookup_default (server : String) :
    (serverKey env.tables server = serverKey env.tables shippedProfile.server ∧
      ∃ matchedBy, (defaultRegistry env).lookup server =
        (defaultRegistry env).resolution server matchedBy shippedProfile) ∨
    (defaultRegistry env).lookup server = (defaultRegistry env).unresolvedPlan server := by
  by_cases hkey : serverKey env.tables server = serverKey env.tables shippedProfile.server
  · left
    have hfound := canonical_server (defaultRegistry env) (List.mem_singleton_self shippedProfile)
    refine ⟨hkey, if server = shippedProfile.server then "exact" else "casefold", ?_⟩
    unfold BrokerRegistry.lookup
    rw [hkey, hfound]
  · right
    have hcanonical : (defaultRegistry env).canonical (serverKey env.tables server) = none := by
      unfold BrokerRegistry.canonical defaultRegistry
      simpa using fun h => hkey h.symm
    have halias : (defaultRegistry env).aliasOf (serverKey env.tables server) = none := by
      simp [BrokerRegistry.aliasOf, defaultRegistry, shippedProfile]
    unfold BrokerRegistry.lookup
    rw [hcanonical, halias]

end Registries

section Accepted

variable {env : RegistryEnv} {plan : BrokerResolution} {expectedServer requestedServer : String}

theorem validatedTextList_ok {queries : List String} {field : String}
    (hclean : ∀ query ∈ queries, CleanQuery env query)
    (hnodup : (queries.map env.tables.casefoldText).Nodup) :
    validatedTextList env.tables queries field 128 = .ok queries := by
  have hmap : queries.mapM (fun item => validatedCleanText env.tables item field 128) =
      .ok queries := mapM_eq_self fun query hmem => (hclean query hmem).validated
  have hseparator : queries.any hasPathSeparator = false := by
    rw [List.any_eq_false]
    intro query hmem
    simp [(hclean query hmem).no_separator]
  unfold validatedTextList
  rw [hmap]
  show (if queries.any hasPathSeparator then _ else _) = _
  rw [if_neg (by simp [hseparator]), if_pos hnodup]
  rfl

/-- What the validator asks of a plan for terminal discovery. -/
structure DiscoveryQueries (env : RegistryEnv) (queries : List String) : Prop where
  ne_nil : queries ≠ []
  clean : ∀ query ∈ queries, CleanQuery env query
  folded_nodup : (queries.map env.tables.casefoldText).Nodup
  no_target : ∀ query ∈ queries, isNetworkTarget env.tables query = false

theorem parseProfile_planProfile (htarget : plan.connectionTarget = none)
    (hserver : validatedServer env.tables expectedServer "server" = .ok expectedServer)
    (hqueries : DiscoveryQueries env plan.discoveryQueries) :
    parseProfile env (planProfile plan expectedServer) = .ok (planProfile plan expectedServer) := by
  have hlist : validatedQueries env plan.discoveryQueries = .ok plan.discoveryQueries := by
    unfold validatedQueries
    rw [validatedTextList_ok hqueries.clean hqueries.folded_nodup]
    show (if plan.discoveryQueries = [] then _ else _) = _
    rw [if_neg hqueries.ne_nil]
    rfl
  have hnone : parseTarget env (planProfile plan expectedServer) = .ok (none, none) := by
    unfold parseTarget planProfile
    rw [htarget]
    rfl
  have hid : validatedId "injected-plan" "profile_id" = .ok "injected-plan" := by decide +kernel
  have hbroker : validatedId "injected-plan" "broker_id" = .ok "injected-plan" := by
    decide +kernel
  have hname : validatedCleanText env.tables "Injected broker plan" "broker_name" 128 =
      .ok "Injected broker plan" := rfl
  have hsource : validatedCleanText env.tables "dependency-injected-resolver" "source" 256 =
      .ok "dependency-injected-resolver" := rfl
  have hlive : validatedEnvironment "live" = .ok "live" := rfl
  have haliases : validatedServerList env.tables [] "aliases" = .ok [] := rfl
  unfold parseProfile
  rw [hnone]
  unfold planProfile
  rw [hid, hbroker, hname, hserver, hlive, haliases, hlist, hsource, htarget]
  rfl

theorem checkQueries_ok (hname : isNetworkTarget env.tables expectedServer = false)
    (hqueries : ∀ query ∈ plan.discoveryQueries, isNetworkTarget env.tables query = false) :
    checkQueries env plan expectedServer = .ok () := by
  unfold checkQueries
  split
  next =>
    rw [(rejectNetworkTarget_ok env.tables).mpr hname]
    exact forM_ok_iff.mpr fun query hmem =>
      (rejectNetworkTarget_ok env.tables).mpr (hqueries query hmem)
  next => rfl

theorem validateCompletePlan_discovery {trusted : BrokerRegistry env} {known : BrokerResolution}
    (hmethod : plan.method = .terminalDiscovery) (htarget : plan.connectionTarget = none)
    (hserver : isServerLabel expectedServer.toList = true ∧
      expectedServer.toList = env.tables.strip expectedServer.toList)
    (hname : isNetworkTarget env.tables expectedServer = false)
    (hqueries : DiscoveryQueries env plan.discoveryQueries)
    (htrusted : trusted.resolve requestedServer = .ok known)
    (hsame : env.tables.casefoldText expectedServer = env.tables.casefoldText requestedServer) :
    validateCompletePlan env trusted plan expectedServer requestedServer = .ok plan := by
  have hchecked : ∀ field, validatedServer env.tables expectedServer field = .ok expectedServer :=
    fun field => validatedServer_ok.mpr ⟨hserver.1, hserver.2, rfl⟩
  have hplan : trustedPlan env trusted requestedServer = .ok known := by
    unfold trustedPlan
    rw [htrusted]
  have hrouting : checkRouting env plan known expectedServer requestedServer = .ok () := by
    unfold checkRouting
    rw [if_neg]
    simp [hmethod, hsame]
  obtain ⟨registry, hregistry, hprofiles⟩ := registryFromDict_single
    (parseProfile_planProfile htarget (hchecked "server") hqueries) rfl
  have hmem : planProfile plan expectedServer ∈ registry.profiles := by simp [hprofiles]
  have hvalidated : registry.resolve expectedServer =
      .ok (registry.resolution expectedServer "exact" (planProfile plan expectedServer)) :=
    resolve_eq_ok.mpr ⟨hchecked "requested_server", (lookup_server registry hmem).symm⟩
  have hfits : checkMethod plan = .ok () := by
    unfold checkMethod
    rw [hmethod]
    simp [htarget]
  unfold validateCompletePlan
  rw [hplan, except_ok_bind, hrouting, except_ok_bind, checkQueries_ok hname hqueries.no_target,
    except_ok_bind, hregistry, except_ok_bind, hvalidated, except_ok_bind, hfits]
  unfold checkTarget
  rw [if_neg (by simp [BrokerRegistry.resolution, planProfile])]
  rfl

/-- What an accepted plan says: a discovery under the requested identity, or the trusted plan. -/
theorem validateResolutionPlan_bound {trusted : BrokerRegistry env}
    {injected : Option BrokerResolution} {accepted : BrokerResolution}
    (h : validateResolutionPlan env trusted injected requestedServer = .ok accepted) :
    injected = some accepted ∧ accepted.requestedServer = requestedServer ∧
      accepted.method ≠ .unresolved ∧
      ∃ expectedServer, accepted.expectedServer = some expectedServer ∧
        (trusted.resolve requestedServer = .ok accepted ∨
          accepted.method = .terminalDiscovery ∧ accepted.connectionTarget = none ∧
            env.tables.casefoldText expectedServer = env.tables.casefoldText requestedServer) := by
  unfold validateResolutionPlan at h
  split at h
  next => cases h
  next plan =>
    split at h
    next => cases h
    next hmethod =>
      split at h
      next => cases h
      next hrequested =>
        split at h
        next => cases h
        next expectedServer hexpected =>
          split at h
          next => cases h
          next =>
            unfold validateCompletePlan at h
            obtain ⟨known, hknown, h⟩ := except_bind_eq_ok h
            obtain ⟨routed, hrouting, h⟩ := except_bind_eq_ok h
            obtain ⟨-, -, h⟩ := except_bind_eq_ok h
            obtain ⟨validation, -, h⟩ := except_bind_eq_ok h
            obtain ⟨validated, -, h⟩ := except_bind_eq_ok h
            obtain ⟨fitting, hfits, h⟩ := except_bind_eq_ok h
            obtain ⟨-, -, h⟩ := except_bind_eq_ok h
            obtain rfl : plan = accepted := by
              cases h
              rfl
            push Not at hrequested
            refine ⟨rfl, hrequested, hmethod, expectedServer, hexpected, ?_⟩
            have htrusted : trusted.resolve requestedServer = .ok known := by
              unfold trustedPlan at hknown
              split at hknown
              next hresolve =>
                cases hknown
                exact hresolve
              next => cases hknown
            by_cases hsame : plan = known
            · left
              rw [hsame]
              exact htrusted
            · right
              unfold checkRouting at hrouting
              split at hrouting
              next => cases hrouting
              next hown =>
                have hown : plan.method ≠ .directEndpoint ∧
                    env.tables.casefoldText expectedServer =
                      env.tables.casefoldText requestedServer := by
                  by_contra hother
                  exact hown ⟨by tauto, hsame⟩
                have hdiscovery : plan.method = .terminalDiscovery := by
                  cases hcase : plan.method with
                  | directEndpoint => exact absurd hcase hown.1
                  | terminalDiscovery => rfl
                  | unresolved => exact absurd hcase hmethod
                refine ⟨hdiscovery, ?_, hown.2⟩
                unfold checkMethod at hfits
                rw [hdiscovery] at hfits
                by_contra hsome
                simp [hsome] at hfits

end Accepted

section Resolver

variable {env : RegistryEnv} {requestedServer : String} {plan : BrokerResolution}

theorem shipped_queries : DiscoveryQueries env shippedProfile.discoveryQueries where
  ne_nil := by decide
  clean := by
    intro query hmem
    have hcases : query = "FPM Trading Ltd" ∨ query = "FPM Trading" := by
      simpa [shippedProfile] using hmem
    have hprintable : (query.toList.all fun c => !isControl c) = true := by
      rcases hcases with rfl | rfl
      all_goals decide
    have hclear : ∀ c ∈ query.toList, isControl c = false := by
      simpa only [List.all_eq_true, Bool.not_eq_true'] using hprintable
    rcases hcases with rfl | rfl
    · exact ⟨by decide, by decide, rfl, hclear, by decide⟩
    · exact ⟨by decide, by decide, rfl, hclear, by decide⟩
  folded_nodup := by
    have hfirst : env.tables.casefoldText "FPM Trading Ltd" = "fpm trading ltd".toList := rfl
    have hsecond : env.tables.casefoldText "FPM Trading" = "fpm trading".toList := rfl
    show [env.tables.casefoldText "FPM Trading Ltd", env.tables.casefoldText "FPM Trading"].Nodup
    rw [hfirst, hsecond]
    decide
  no_target := by
    intro query hmem
    have hcases : query = "FPM Trading Ltd" ∨ query = "FPM Trading" := by
      simpa [shippedProfile] using hmem
    rcases hcases with rfl | rfl
    · rfl
    · rfl

/-- The queries of a generic plan pass the validator when its server does. -/
theorem planQueries_discovery {hint : Option String}
    (hserver : isServerLabel requestedServer.toList = true ∧
      requestedServer.toList = env.tables.strip requestedServer.toList)
    (hname : isNetworkTarget env.tables requestedServer = false)
    (hhint : ∀ text, hint = some text →
      CleanQuery env text ∧ isNetworkTarget env.tables text = false) :
    DiscoveryQueries env (planQueries env requestedServer hint) := by
  have hclean := cleanQuery_of_server hserver.1 hserver.2
  have halone : DiscoveryQueries env [requestedServer] :=
    ⟨by simp, by simpa using hclean, by simp, by simpa using hname⟩
  cases hint with
  | none => exact halone
  | some text =>
    obtain ⟨htext, htarget⟩ := hhint text rfl
    simp only [planQueries]
    split
    next => exact halone
    next hother =>
      refine ⟨by simp, ?_, ?_, ?_⟩
      · simp [hclean, htext]
      · simpa using fun h => hother h.symm
      · simp [hname, htarget]

theorem validateResolutionPlan_complete {trusted : BrokerRegistry env} {expectedServer : String}
    (hmethod : plan.method ≠ .unresolved) (hrequested : plan.requestedServer = requestedServer)
    (hexpected : plan.expectedServer = some expectedServer) (hne : expectedServer ≠ "")
    (hqueries : plan.discoveryQueries ≠ []) :
    validateResolutionPlan env trusted (some plan) requestedServer =
      validateCompletePlan env trusted plan expectedServer requestedServer := by
  simp [validateResolutionPlan, hmethod, hrequested, hexpected, hne, hqueries]

theorem resolved_validated {brokerHint : BrokerHint}
    (h : zeroLicenseResolve env (defaultRegistry env) requestedServer brokerHint = .ok plan) :
    validateResolutionPlan env (defaultRegistry env) (some plan) requestedServer = .ok plan := by
  unfold zeroLicenseResolve at h
  obtain ⟨known, hknown, h⟩ := except_bind_eq_ok h
  obtain ⟨hint, hhint, h⟩ := except_bind_eq_ok h
  obtain ⟨hvalid, hlookup⟩ := resolve_eq_ok.mp hknown
  obtain ⟨hlabel, hstripped, -⟩ := validatedServer_ok.mp hvalid
  rcases @lookup_default env requestedServer with ⟨hkey, matchedBy, hfound⟩ | hnone
  · rw [hlookup, hfound] at h
    rw [if_pos (by simp [BrokerRegistry.resolution, shippedProfile])] at h
    obtain ⟨-, -, h⟩ := except_bind_eq_ok h
    cases h
    have hcomplete := @validateResolutionPlan_complete env requestedServer
      ((defaultRegistry env).resolution requestedServer matchedBy shippedProfile)
      (defaultRegistry env) shippedProfile.server
    rw [hcomplete]
    · have hshipped : isServerLabel shippedProfile.server.toList = true ∧
          shippedProfile.server.toList = env.tables.strip shippedProfile.server.toList :=
        ⟨by decide +kernel, rfl⟩
      exact validateCompletePlan_discovery rfl rfl hshipped rfl shipped_queries
        (resolve_eq_ok.mpr ⟨hvalid, hfound.symm⟩) hkey.symm
    · simp [BrokerRegistry.resolution, shippedProfile]
    · rfl
    · rfl
    · decide
    · exact (@shipped_queries env).ne_nil
  · rw [hlookup, hnone, if_neg (by simp [BrokerRegistry.unresolvedPlan])] at h
    obtain ⟨checked, htarget, h⟩ := except_bind_eq_ok h
    cases h
    have hname := (rejectNetworkTarget_ok env.tables).mp htarget
    have hqueries : DiscoveryQueries env (planQueries env requestedServer hint) :=
      planQueries_discovery ⟨hlabel, hstripped⟩ hname fun text htext =>
        validatedOptionalHint_some (by rw [hhint, htext])
    have hne : requestedServer ≠ "" := by
      rintro rfl
      exact (cleanQuery_of_server hlabel hstripped).ne_nil rfl
    have hcomplete := @validateResolutionPlan_complete env requestedServer
      (discoveryPlan env (defaultRegistry env).revision requestedServer hint)
      (defaultRegistry env) requestedServer
    rw [hcomplete]
    · exact validateCompletePlan_discovery rfl rfl ⟨hlabel, hstripped⟩ hname hqueries hknown rfl
    · simp [discoveryPlan]
    · rfl
    · rfl
    · exact hne
    · exact hqueries.ne_nil

/-- A plan of the resolver passes the validator, and a plan that passes it, whoever made it, is a
terminal discovery of the requested server under its own name. -/
theorem plans_validated (env : RegistryEnv) (requestedServer : String) :
    (∀ brokerHint plan,
      zeroLicenseResolve env (defaultRegistry env) requestedServer brokerHint = .ok plan →
        validateResolutionPlan env (defaultRegistry env) (some plan) requestedServer = .ok plan) ∧
    ∀ injected accepted,
      validateResolutionPlan env (defaultRegistry env) injected requestedServer = .ok accepted →
        injected = some accepted ∧ accepted.requestedServer = requestedServer ∧
          accepted.method = .terminalDiscovery ∧ accepted.connectionTarget = none ∧
          ∃ expectedServer, accepted.expectedServer = some expectedServer ∧
            env.tables.casefoldText expectedServer = env.tables.casefoldText requestedServer := by
  constructor
  · intro brokerHint plan h
    exact resolved_validated h
  · intro injected accepted h
    obtain ⟨hinjected, hrequested, hmethod, expectedServer, hexpected, hplan⟩ :=
      validateResolutionPlan_bound h
    refine ⟨hinjected, hrequested, ?_⟩
    rcases hplan with htrusted | ⟨hdiscovery, htarget, hsame⟩
    · obtain ⟨-, hlookup⟩ := resolve_eq_ok.mp htrusted
      rcases @lookup_default env requestedServer with ⟨hkey, matchedBy, hfound⟩ | hnone
      · rw [hlookup, hfound]
        exact ⟨rfl, rfl, _, rfl, hkey.symm⟩
      · rw [hlookup, hnone] at hmethod
        exact absurd rfl hmethod
    · exact ⟨hdiscovery, htarget, expectedServer, hexpected, hsame⟩

/-- Tables without a character outside ASCII, and no readable time. -/
def plainEnv : RegistryEnv where
  tables := ⟨fun _ => .other, fun _ => false, fun _ => false, fun c => [c], id⟩
  fromIsoformat := fun _ => false

theorem plans_validated_unknown : ∃ plan,
    zeroLicenseResolve plainEnv (defaultRegistry plainEnv) "NewBroker-Live" (.text "New Broker") =
      .ok plan ∧
    validateResolutionPlan plainEnv (defaultRegistry plainEnv) (some plan) "NewBroker-Live" =
      .ok plan := by
  have hresolve : zeroLicenseResolve plainEnv (defaultRegistry plainEnv) "NewBroker-Live"
      (.text "New Broker") =
        .ok (discoveryPlan plainEnv 1 "NewBroker-Live" (some "New Broker")) := by
    decide +kernel
  exact ⟨_, hresolve, (plans_validated plainEnv "NewBroker-Live").1 _ _ hresolve⟩

end Resolver

end TradeJournalWorker.Routing
