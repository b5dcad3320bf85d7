import TradeJournalWorker.EndpointRuns

namespace TradeJournalWorker

open FaultProgram

section Selection

variable {unicode : Unicode}

/-- What a filter keeps one of comes from one element. -/
theorem eq_of_filterMap_singleton {α β : Type} {f : α → Option β} {xs : List α} {y : β}
    (h : xs.filterMap f = [y]) {a b : α} (ha : a ∈ xs) (hb : b ∈ xs) (hfa : (f a).isSome)
    (hfb : (f b).isSome) : a = b := by
  induction xs with
  | nil => exact absurd ha List.not_mem_nil
  | cons x rest ih =>
    cases hx : f x with
    | none =>
      rw [List.filterMap_cons_none hx] at h
      have hrest : ∀ c, c ∈ x :: rest → (f c).isSome → c ∈ rest := by
        intro c hc hfc
        obtain rfl | hc := List.mem_cons.mp hc
        · rw [hx] at hfc
          cases hfc
        · exact hc
      exact ih h (hrest a ha hfa) (hrest b hb hfb)
    | some z =>
      rw [List.filterMap_cons_some hx] at h
      have hnone : ∀ c ∈ rest, f c = none := List.filterMap_eq_nil_iff.mp (List.cons.inj h).2
      have hfirst : ∀ c, c ∈ x :: rest → (f c).isSome → c = x := by
        intro c hc hfc
        obtain rfl | hc := List.mem_cons.mp hc
        · rfl
        · rw [hnone c hc] at hfc
          cases hfc
      rw [hfirst a ha hfa, hfirst b hb hfb]

/-- The record is verified for what the resolver is asked. -/
structure Matching (unicode : Unicode) (request : Option String × String)
    (brokers : Brokers EndpointRecord) (broker : String × List EndpointRecord)
    (record : EndpointRecord) : Prop where
  broker_mem : broker ∈ brokers
  record_mem : record ∈ broker.2
  verified : record.status = .verified
  key : ∀ key, request.1 = some key → brokerKey unicode broker.1 = key
  server : ∃ name, record.serverName = some name ∧
    unicode.casefold (stripText name) = unicode.casefold request.2

/-- A matching record is among those that the resolver chooses from. -/
theorem Matching.pair {updatedAt : Int} {brokers : Brokers EndpointRecord}
    {parsed : List (String × List (EndpointRecord × VerifiedBrokerEndpoint))}
    {request : Option String × String} {broker : String × List EndpointRecord}
    {record : EndpointRecord} (hmatch : Matching unicode request brokers broker record)
    (hparsed : resolveBrokers unicode (.v3 updatedAt brokers) = .ok parsed) :
    ∃ endpoint, parseRecord broker.1 record = .ok endpoint ∧
      (record, endpoint) ∈
        (parsed.filter fun broker => request.1.all (broker.1 = ·)).flatMap Prod.snd ∧
      endpoint.serverName.any fun name =>
        unicode.casefold name = unicode.casefold request.2 := by
  obtain ⟨found, hfound, hparse⟩ := exists_of_mem_left
    (forall₂_of_mapM (resolveBrokers_v3 hparsed)) hmatch.broker_mem
  obtain ⟨hname, endpoints, hzip, hrecords⟩ := parseBroker_eq_ok hparse
  obtain ⟨index, hindex, hat⟩ := List.mem_iff_getElem.mp hmatch.record_mem
  have hlong : index < endpoints.length := by
    rw [← hrecords.length_eq]
    exact hindex
  have hendpoint : parseRecord broker.1 record = .ok endpoints[index] := by
    have hget := hrecords.get hindex hlong
    simpa [hat] using hget
  refine ⟨endpoints[index], hendpoint, ?_, ?_⟩
  · refine List.mem_flatMap.mpr ⟨found, List.mem_filter.mpr ⟨hfound, ?_⟩, ?_⟩
    · cases hrequest : request.1 with
      | none => rfl
      | some key =>
        rw [hname, hmatch.key key hrequest]
        simp
    · rw [hzip]
      refine List.mem_iff_getElem.mpr ⟨index, ?_, ?_⟩
      · rw [List.length_zip]
        omega
      · rw [List.getElem_zip, hat]
  · obtain ⟨name, hserver, hfold⟩ := hmatch.server
    obtain ⟨address, _, hvalue⟩ := parseRecord_eq_ok hendpoint
    rw [hvalue]
    simp [EndpointRecord.endpoint, hserver, hfold]

/-- The resolver selects something only if one record matches. -/
theorem selectVerified_unique {updatedAt : Int} {brokers : Brokers EndpointRecord}
    {parsed : List (String × List (EndpointRecord × VerifiedBrokerEndpoint))}
    {request : Option String × String} {endpoint : VerifiedBrokerEndpoint}
    (hparsed : resolveBrokers unicode (.v3 updatedAt brokers) = .ok parsed)
    (hselected : selectVerified unicode request parsed = .ok endpoint)
    {broker other : String × List EndpointRecord} {record twin : EndpointRecord}
    (hmatch : Matching unicode request brokers broker record)
    (htwin : Matching unicode request brokers other twin) :
    parseRecord broker.1 record = .ok endpoint ∧ record = twin := by
  have hone := selectVerified_eq_ok hselected
  obtain ⟨found, hfound, hpair, hserver⟩ := hmatch.pair hparsed
  obtain ⟨second, _, hpair', hserver'⟩ := htwin.pair hparsed
  unfold verifiedEndpoints at hone
  have hsame := eq_of_filterMap_singleton hone hpair hpair'
    (by simp [hmatch.verified, hserver]) (by simp [htwin.verified, hserver'])
  have hmem : found ∈ [endpoint] := by
    rw [← hone]
    exact List.mem_filterMap.mpr ⟨(record, found), hpair, by simp [hmatch.verified, hserver]⟩
  rw [List.mem_singleton.mp hmem] at hfound
  exact ⟨hfound, congrArg Prod.fst hsame⟩

end Selection

section Runs

variable {unicode : Unicode}

/-- What one call does to the records of the registry. -/
inductive Rewritten (unicode : Unicode) (before after : Brokers EndpointRecord) :
    EndpointStep → Prop where
  | kept (step : EndpointStep) (same : after = before) : Rewritten unicode before after step
  | published (promotion : EndpointPromotion) (env : PublicationEnv) (canonical : String)
      (address : IpAddress)
      (records : PublishedRecords unicode promotion before after canonical address) :
      Rewritten unicode before after (.publish promotion env)
  | invalidated (invalidation : EndpointInvalidation) (env : PublicationEnv)
      (records : InvalidatedRecords unicode invalidation before after) :
      Rewritten unicode before after (.invalidate invalidation env)

theorem step_rewritten (unicode : Unicode) (files : EndpointFiles) (step : EndpointStep) :
    Rewritten unicode files.registry.brokers (step.run unicode files).registry.brokers step := by
  cases step with
  | publish promotion env =>
    obtain hkept | ⟨plan, hplan, hwritten⟩ := publish_registry unicode promotion env files
    · exact Rewritten.kept _ (congrArg RegistryFile.brokers hkept)
    · obtain ⟨address, hrecords⟩ := publishedRecords hplan
      have hbrokers : ((EndpointStep.publish promotion env).run unicode files).registry.brokers =
          plan.brokers := (congrArg RegistryFile.brokers hwritten).trans
            (brokers_v3 hrecords.stripped)
      exact Rewritten.published promotion env plan.canonicalBroker address
        (hbrokers.symm ▸ hrecords)
  | invalidate invalidation env =>
    obtain ⟨_, hkept⟩ | ⟨registry, label, target, hprepared, hwritten⟩ :=
      invalidate_registry unicode invalidation env files
    · exact Rewritten.kept _ (congrArg RegistryFile.brokers hkept)
    · have hrecords := invalidatedRecords hprepared
      have hbrokers :
          ((EndpointStep.invalidate invalidation env).run unicode files).registry.brokers =
            registry.brokers := (congrArg RegistryFile.brokers hwritten).trans
              (brokers_v3 hrecords.stripped)
      exact Rewritten.invalidated invalidation env (hbrokers.symm ▸ hrecords)

theorem verifiedCount_published {promotion : EndpointPromotion} {canonical : String}
    {address : IpAddress} {files after : EndpointFiles}
    (h : PublishedRecords unicode promotion files.registry.brokers after.registry.brokers canonical
      address) (key server : String) :
    verifiedCount unicode key server after =
      if key = promotion.key unicode ∧ promotion.server unicode = server then 1
      else verifiedCount unicode key server files := by
  unfold verifiedCount
  by_cases hkey : key = promotion.key unicode
  · rw [hkey, h.promoted, countP_promote]
    simp
  · rw [h.others key hkey]
    simp [hkey]

theorem verifiedCount_step (files : EndpointFiles) (step : EndpointStep) (key server : String) :
    verifiedCount unicode key server (step.run unicode files) ≤
      max 1 (verifiedCount unicode key server files) := by
  generalize hafter : step.run unicode files = after
  have hrewritten := step_rewritten unicode files step
  rw [hafter] at hrewritten
  cases hrewritten with
  | kept _ hsame =>
    unfold verifiedCount
    rw [hsame]
    omega
  | published promotion env canonical address hrecords =>
    rw [verifiedCount_published hrecords]
    split
    · omega
    · omega
  | invalidated invalidation env hrecords =>
    unfold verifiedCount
    by_cases hkey : key = invalidation.endpoint.key unicode
    · have hclosed := @countP_invalidate unicode invalidation
        (brokerRecords unicode (invalidation.endpoint.key unicode) files.registry.brokers) server
      rw [hkey, hrecords.changed]
      omega
    · rw [hrecords.others key hkey]
      omega

theorem verifiedCount_run (steps : List EndpointStep) (start : EndpointFiles)
    (key server : String) :
    verifiedCount unicode key server (runSteps unicode steps start) ≤
      max 1 (verifiedCount unicode key server start) := by
  induction steps generalizing start with
  | nil =>
    show verifiedCount unicode key server start ≤ _
    omega
  | cons step rest ih =>
    have hstep := @verifiedCount_step unicode start step key server
    have hrest := ih (step.run unicode start)
    show verifiedCount unicode key server (runSteps unicode rest (step.run unicode start)) ≤ _
    omega

/-- The call promotes this record below a label with this key. -/
def EndpointStep.promotes (unicode : Unicode) (key : String) (record : EndpointRecord) :
    EndpointStep → Prop
  | .publish promotion _ => promotion.key unicode = key ∧
      ∃ address, promotion.observation.host.address = some address ∧
        record = promotedRecord promotion address
  | .invalidate _ _ => False

/-- A record that is verified after a call was so before, or it is the one promoted. -/
theorem verified_step {files : EndpointFiles} {step : EndpointStep} {key : String}
    {record : EndpointRecord}
    (hrecord : record ∈ brokerRecords unicode key (step.run unicode files).registry.brokers)
    (hverified : record.status = .verified) :
    record ∈ brokerRecords unicode key files.registry.brokers ∨
      step.promotes unicode key record := by
  generalize hafter : step.run unicode files = after at hrecord
  have hrewritten := step_rewritten unicode files step
  rw [hafter] at hrewritten
  cases hrewritten with
  | kept _ hsame => exact Or.inl (hsame ▸ hrecord)
  | published promotion env canonical address hrecords =>
    by_cases hkey : key = promotion.key unicode
    · subst hkey
      rw [hrecords.promoted] at hrecord
      obtain hrecord | hrecord := List.mem_append.mp hrecord
      · obtain ⟨old, hold, rfl⟩ := List.mem_map.mp hrecord
        obtain ⟨hsame, _⟩ := supersede_verified hverified
        exact Or.inl (hsame.symm ▸ hold)
      · exact Or.inr ⟨rfl, address, hrecords.observed, List.mem_singleton.mp hrecord⟩
    · exact Or.inl (hrecords.others key hkey ▸ hrecord)
  | invalidated invalidation env hrecords =>
    by_cases hkey : key = invalidation.endpoint.key unicode
    · subst hkey
      rw [hrecords.changed] at hrecord
      obtain ⟨old, hold, rfl⟩ := List.mem_map.mp hrecord
      obtain ⟨hsame, _⟩ := invalidate_verified hverified
      exact Or.inl (hsame.symm ▸ hold)
    · exact Or.inl (hrecords.others key hkey ▸ hrecord)

theorem verified_run {steps : List EndpointStep} {start : EndpointFiles} {key : String}
    {record : EndpointRecord}
    (hrecord : record ∈ brokerRecords unicode key (runSteps unicode steps start).registry.brokers)
    (hverified : record.status = .verified) :
    record ∈ brokerRecords unicode key start.registry.brokers ∨
      ∃ step ∈ steps, step.promotes unicode key record := by
  induction steps generalizing start with
  | nil => exact Or.inl hrecord
  | cons step rest ih =>
    obtain hearlier | ⟨later, hlater, hpromotes⟩ := ih hrecord
    · obtain hstart | hpromotes := verified_step hearlier hverified
      · exact Or.inl hstart
      · exact Or.inr ⟨step, List.mem_cons_self, hpromotes⟩
    · exact Or.inr ⟨later, List.mem_cons_of_mem _ hlater, hpromotes⟩

theorem mem_brokerRecords_named {brokers : Brokers EndpointRecord} {key : String}
    {record : EndpointRecord} :
    record ∈ brokerRecords unicode key (namedBrokers id brokers) ↔
      ∃ broker ∈ brokers, brokerKey unicode broker.1 = key ∧ record ∈ broker.2 := by
  constructor
  · intro h
    obtain ⟨named, hnamed, hrecord⟩ := List.mem_flatMap.mp h
    obtain ⟨hmem, hkey⟩ := List.mem_filter.mp hnamed
    obtain ⟨broker, hbroker, rfl⟩ := List.mem_map.mp hmem
    have hkey' := of_decide_eq_true hkey
    rw [brokerKey_stripText] at hkey'
    exact ⟨broker, hbroker, hkey', by simpa using hrecord⟩
  · intro h
    obtain ⟨broker, hbroker, hkey, hrecord⟩ := h
    refine List.mem_flatMap.mpr ⟨(stripText broker.1, broker.2.map id), ?_, by simpa using hrecord⟩
    refine List.mem_filter.mpr ⟨List.mem_map.mpr ⟨broker, hbroker, rfl⟩, decide_eq_true ?_⟩
    rw [brokerKey_stripText]
    exact hkey

/-- What the resolver returns comes from a matching record of its broker. -/
theorem resolveEndpoint_matching {files : EndpointFiles} {brokerLabel : Option String}
    {serverName : String} {endpoint : VerifiedBrokerEndpoint}
    (h : resolveEndpoint unicode files brokerLabel serverName = .ok endpoint) :
    ∃ updatedAt brokers request parsed broker record address,
      files.registry = .v3 updatedAt brokers ∧
      resolveBrokers unicode (.v3 updatedAt brokers) = .ok parsed ∧
      selectVerified unicode request parsed = .ok endpoint ∧
      Matching unicode request brokers broker record ∧
      record.host.address = some address ∧ endpoint = record.endpoint broker.1 address := by
  obtain ⟨request, _, parsed, _, _, _, _, hparsed, hselected, _⟩ := resolveEndpoint_eq_ok.mp h
  obtain ⟨updatedAt, brokers, hregistry, _⟩ := selectable_record ⟨request, parsed, hparsed, hselected⟩
  rw [hregistry] at hparsed
  obtain ⟨broker, hbroker, record, hrecord, hverified, hparse, hkey, name, hname, hfold⟩ :=
    selectVerified_record hparsed hselected
  obtain ⟨address, haddress, hendpoint⟩ := parseRecord_eq_ok hparse
  rw [hendpoint] at hname
  obtain ⟨raw, hraw, hstrip⟩ := Option.map_eq_some_iff.mp hname
  have hmatch : Matching unicode request brokers broker record :=
    { broker_mem := hbroker
      record_mem := hrecord
      verified := hverified
      key := hkey
      server := ⟨raw, hraw, by rw [hstrip]; exact hfold⟩ }
  exact ⟨updatedAt, brokers, request, parsed, broker, record, address, hregistry, hparsed,
    hselected, hmatch, haddress, hendpoint⟩

/-- No verified record of its broker makes this endpoint. -/
def Unlisted (unicode : Unicode) (endpoint : VerifiedBrokerEndpoint) (files : EndpointFiles) :
    Prop :=
  ∀ record ∈ brokerRecords unicode (endpoint.key unicode) files.registry.brokers,
    record.status = .verified → ∀ address, record.host.address = some address →
      record.endpoint endpoint.brokerLabel address ≠ endpoint

theorem resolveEndpoint_ne_of_unlisted {files : EndpointFiles}
    {endpoint : VerifiedBrokerEndpoint} (h : Unlisted unicode endpoint files)
    (brokerLabel : Option String) (serverName : String) :
    resolveEndpoint unicode files brokerLabel serverName ≠ .ok endpoint := by
  intro hresolved
  obtain ⟨updatedAt, brokers, _, _, broker, record, address, hregistry, _, _, hmatch, haddress,
    hendpoint⟩ := resolveEndpoint_matching hresolved
  have hlabel : endpoint.brokerLabel = broker.1 := congrArg VerifiedBrokerEndpoint.brokerLabel hendpoint
  refine h record ?_ hmatch.verified address haddress (hlabel ▸ hendpoint.symm)
  rw [hregistry]
  refine mem_brokerRecords_named.mpr ⟨broker, hmatch.broker_mem, ?_, hmatch.record_mem⟩
  unfold VerifiedBrokerEndpoint.key
  rw [brokerKey_stripText, hlabel]

/-- A resolved endpoint that is then invalidated has no verified record left. -/
theorem unlisted_of_invalidated {files : EndpointFiles} {invalidation : EndpointInvalidation}
    {env : PublicationEnv} {brokerLabel : Option String} {serverName : String}
    (hresolved : resolveEndpoint unicode files brokerLabel serverName =
      .ok invalidation.endpoint)
    (hreturned : (invalidateEndpoint unicode invalidation env files).1 = .returned ()) :
    Unlisted unicode invalidation.endpoint
      (invalidateEndpoint unicode invalidation env files).2.2 := by
  obtain ⟨hfailed, _⟩ | ⟨registry, label, target, hprepared, hwritten⟩ :=
    invalidate_registry unicode invalidation env files
  · exact absurd hreturned hfailed
  have hrecords := invalidatedRecords hprepared
  have hbrokers := (congrArg RegistryFile.brokers hwritten).trans (brokers_v3 hrecords.stripped)
  obtain ⟨updatedAt, brokers, request, parsed, source, origin, _, hregistry, hparsed, hselected,
    horigin, _, hendpoint⟩ := resolveEndpoint_matching hresolved
  intro record hrecord hverified address haddress hsame
  rw [hbrokers, hrecords.changed] at hrecord
  obtain ⟨old, hold, rfl⟩ := List.mem_map.mp hrecord
  obtain ⟨hkept, huntouched⟩ := invalidate_verified hverified
  rw [hkept] at hverified haddress hsame
  obtain ⟨closed, htarget⟩ := hrecords.target
  obtain ⟨hclosed, hisTarget⟩ := List.mem_filter.mp (htarget ▸ List.mem_singleton_self closed)
  rw [hregistry] at hold hclosed
  obtain ⟨first, hfirst, hfirstKey, hfirstRecord⟩ := mem_brokerRecords_named.mp hold
  obtain ⟨second, hsecond, hsecondKey, hsecondRecord⟩ := mem_brokerRecords_named.mp hclosed
  have hkey : invalidation.endpoint.key unicode = brokerKey unicode source.1 := by
    unfold VerifiedBrokerEndpoint.key
    rw [brokerKey_stripText, hendpoint]
    rfl
  obtain ⟨name, hname, hfold⟩ := horigin.server
  have hserver : invalidation.endpoint.serverName = some (stripText name) := by
    rw [hendpoint]
    exact congrArg (Option.map stripText) hname
  have hfirstMatch : Matching unicode request brokers first old := by
    have hold := (congrArg VerifiedBrokerEndpoint.serverName hsame).trans hserver
    obtain ⟨raw, hraw, hstrip⟩ := Option.map_eq_some_iff.mp hold
    exact
      { broker_mem := hfirst
        record_mem := hfirstRecord
        verified := hverified
        key := fun key hrequest => (hfirstKey.trans hkey).trans (horigin.key key hrequest)
        server := ⟨raw, hraw, by rw [hstrip]; exact hfold⟩ }
  have hsecondMatch : Matching unicode request brokers second closed := by
    obtain ⟨hfor, _⟩ := of_decide_eq_true hisTarget
    obtain ⟨hstatus, raw, hraw, hrawFold⟩ := EndpointRecord.verifiedAs_iff.mp hfor
    rw [hserver] at hrawFold
    have hstripped : stripText raw = raw :=
      stripText_of_casefold hrawFold (by rw [stripText_idem])
    refine
      { broker_mem := hsecond
        record_mem := hsecondRecord
        verified := hstatus
        key := fun key hrequest => (hsecondKey.trans hkey).trans (horigin.key key hrequest)
        server := ⟨raw, hraw, ?_⟩ }
    rw [hstripped, hrawFold, Option.getD_some, stripText_idem]
    exact hfold
  obtain ⟨_, heq⟩ := selectVerified_unique hparsed hselected hsecondMatch hfirstMatch
  exact huntouched (heq ▸ hisTarget)

/-- The call publishes this endpoint again. -/
def EndpointStep.republishes (unicode : Unicode) (endpoint : VerifiedBrokerEndpoint)
    (step : EndpointStep) : Prop :=
  ∃ record address, step.promotes unicode (endpoint.key unicode) record ∧
    record.host.address = some address ∧ record.endpoint endpoint.brokerLabel address = endpoint

theorem unlisted_run {endpoint : VerifiedBrokerEndpoint} {steps : List EndpointStep}
    {start : EndpointFiles} (h : Unlisted unicode endpoint start)
    (hsteps : ∀ step ∈ steps, ¬ step.republishes unicode endpoint) :
    Unlisted unicode endpoint (runSteps unicode steps start) := by
  intro record hrecord hverified address haddress hsame
  obtain hstart | ⟨step, hstep, hpromotes⟩ := verified_run hrecord hverified
  · exact h record hstart hverified address haddress hsame
  · exact hsteps step hstep ⟨record, address, hpromotes, haddress, hsame⟩

theorem resolveRequest_eq_ok {brokerLabel : Option String} {serverName : String}
    {request : Option String × String}
    (h : resolveRequest unicode brokerLabel serverName = .ok request) :
    request = (brokerLabel.map fun label => brokerKey unicode (stripText label),
        stripText serverName) ∧
      (∀ label, brokerLabel = some label → brokerKey unicode (stripText label) ≠ "") ∧
      validName (stripText serverName) := by
  unfold resolveRequest at h
  split at h
  · cases h
  next hlabel =>
    split at h
    · cases h
    next hserver =>
      refine ⟨(Except.ok.inj h).symm, fun label hsome hempty => hlabel ?_, not_not.mp hserver⟩
      rw [hsome]
      simp [hempty]

theorem resolveRequest_some {label serverName : String} (hlabel : validName (stripText label))
    (hkey : brokerKey unicode (stripText label) ≠ "") (hserver : validName (stripText serverName)) :
    resolveRequest unicode (some label) serverName =
      .ok (some (brokerKey unicode (stripText label)), stripText serverName) := by
  simp [resolveRequest, hlabel, hkey, hserver]

/-- The published endpoint is the only verified one of its broker and server, and the resolver
returns it. -/
structure Promoted (unicode : Unicode) (promotion : EndpointPromotion)
    (endpoint : VerifiedBrokerEndpoint) (after : EndpointFiles) : Prop where
  only : verifiedCount unicode (promotion.key unicode) (promotion.server unicode) after = 1
  promoted : ∃ label address, brokerKey unicode label = promotion.key unicode ∧
    promotion.observation.host.address = some address ∧
    endpoint = (promotedRecord promotion address).endpoint label address
  resolved : resolveEndpoint unicode after (some promotion.brokerLabel) promotion.serverName =
    .ok endpoint

theorem publish_promoted {promotion : EndpointPromotion} {env : PublicationEnv}
    {files : EndpointFiles} {endpoint : VerifiedBrokerEndpoint}
    (h : (publishEndpoint unicode promotion env files).1 = .returned endpoint) :
    Promoted unicode promotion endpoint (publishEndpoint unicode promotion env files).2.2 := by
  obtain ⟨plan, hplan, hregistry, hresolved⟩ := publish_returned h
  obtain ⟨_, _, _, _, hcheck, _⟩ := preparePublication_eq_ok hplan
  obtain ⟨hlabel, hserver, _⟩ := checkPromotion_eq_ok hcheck
  obtain ⟨address, hrecords⟩ := publishedRecords hplan
  generalize (publishEndpoint unicode promotion env files).2.2 = after at hregistry hresolved ⊢
  have hbrokers := (congrArg RegistryFile.brokers hregistry).trans (brokers_v3 hrecords.stripped)
  obtain ⟨request, entries, parsed, hrequest, hpresent, hreadable, hmanifest, hparsed, hselected,
    hbind⟩ := resolveEndpoint_eq_ok.mp hresolved
  obtain ⟨hvalue, hnamed, hvalid⟩ := resolveRequest_eq_ok hrequest
  have hkey : brokerKey unicode (stripText plan.canonicalBroker) = promotion.key unicode := by
    rw [hrecords.canonicalStripped, hrecords.canonicalKey]
  have hmem : promotedRecord promotion address ∈
      brokerRecords unicode (promotion.key unicode) plan.brokers := by
    rw [hrecords.promoted]
    exact List.mem_append_right _ (List.mem_singleton_self _)
  obtain ⟨broker, hbroker, hrecord⟩ := List.mem_flatMap.mp hmem
  obtain ⟨hbrokerMem, hbrokerKey⟩ := List.mem_filter.mp hbroker
  have hmatch : Matching unicode request plan.brokers broker (promotedRecord promotion address) :=
    { broker_mem := hbrokerMem
      record_mem := hrecord
      verified := rfl
      key := by
        intro key hasked
        rw [hvalue] at hasked
        rw [of_decide_eq_true hbrokerKey, ← hkey]
        exact Option.some.inj hasked
      server := ⟨stripText promotion.serverName, rfl, by rw [hvalue]⟩ }
  rw [hregistry] at hparsed
  obtain ⟨hparse, _⟩ := selectVerified_unique hparsed hselected hmatch hmatch
  obtain ⟨found, hfound, hendpoint⟩ := parseRecord_eq_ok hparse
  have hsame : found = address := Option.some.inj hfound.symm
  refine ⟨?_, ⟨broker.1, address, of_decide_eq_true hbrokerKey, hrecords.observed, hsame ▸ hendpoint⟩,
    ?_⟩
  · have hcount := @verifiedCount_published unicode promotion plan.canonicalBroker address files
      after (hbrokers.symm ▸ hrecords) (promotion.key unicode) (promotion.server unicode)
    simpa using hcount
  · have hrequest' : resolveRequest unicode (some promotion.brokerLabel) promotion.serverName =
        .ok request := by
      rw [resolveRequest_some (validName_stripText hlabel) ?_ (validName_stripText hserver), hvalue,
        stripText_idem, Option.map_some, hkey]
      · rfl
      · have hnonempty := hnamed _ rfl
        rw [hkey] at hnonempty
        exact hnonempty
    exact resolveEndpoint_eq_ok.mpr ⟨request, entries, parsed, hrequest', hpresent, hreadable,
      hmanifest, hregistry.symm ▸ hparsed, hselected, hbind⟩


/-- No record that comes from a v1 registry is verified. -/
theorem v1_not_verified {updatedAt ttl : Int} {brokers : Brokers V1Record} {key : String}
    {record : EndpointRecord}
    (h : record ∈ brokerRecords unicode key (RegistryFile.v1 updatedAt ttl brokers).brokers) :
    record.status ≠ .verified := by
  obtain ⟨named, hnamed, hrecord⟩ := List.mem_flatMap.mp h
  obtain ⟨broker, _, rfl⟩ := List.mem_map.mp (List.mem_filter.mp hnamed).1
  obtain ⟨legacy, _, rfl⟩ := List.mem_map.mp hrecord
  intro hstatus
  cases hstatus

/-- The endpoint registry over every run of `publish` and `invalidate`, whatever the file system
answers to their writes: a publication leaves one verified record of its broker and server, which
the resolver returns, and adds none elsewhere; a resolved endpoint is gone with its invalidation
until it is published again; and a verified record was verified at the start or was published. -/
theorem endpoint_registry (unicode : Unicode) (start : EndpointFiles)
    (steps : List EndpointStep) :
    (∀ key server, verifiedCount unicode key server (runSteps unicode steps start) ≤
      max 1 (verifiedCount unicode key server start)) ∧
    (∀ promotion env endpoint,
      (publishEndpoint unicode promotion env (runSteps unicode steps start)).1 =
        .returned endpoint →
      Promoted unicode promotion endpoint
        (publishEndpoint unicode promotion env (runSteps unicode steps start)).2.2) ∧
    (∀ invalidation env brokerLabel serverName later,
      resolveEndpoint unicode (runSteps unicode steps start) brokerLabel serverName =
        .ok invalidation.endpoint →
      (invalidateEndpoint unicode invalidation env (runSteps unicode steps start)).1 =
        .returned () →
      (∀ step ∈ later, ¬ EndpointStep.republishes unicode invalidation.endpoint step) →
      ∀ otherLabel otherServer,
        resolveEndpoint unicode (runSteps unicode later
          (invalidateEndpoint unicode invalidation env (runSteps unicode steps start)).2.2)
          otherLabel otherServer ≠ .ok invalidation.endpoint) ∧
    (∀ key record,
      record ∈ brokerRecords unicode key (runSteps unicode steps start).registry.brokers →
      record.status = .verified →
      record ∈ brokerRecords unicode key start.registry.brokers ∨
        ∃ step ∈ steps, step.promotes unicode key record) ∧
    (∀ updatedAt ttl brokers, start.registry = .v1 updatedAt ttl brokers → ∀ key record,
      record ∈ brokerRecords unicode key (runSteps unicode steps start).registry.brokers →
      record.status = .verified → ∃ step ∈ steps, step.promotes unicode key record) := by
  refine ⟨verifiedCount_run steps start, fun _ _ _ => publish_promoted, ?_,
    fun _ _ => verified_run, ?_⟩
  · intro invalidation env brokerLabel serverName later hresolved hreturned hlater
    have hunlisted := unlisted_run (unlisted_of_invalidated hresolved hreturned) hlater
    exact resolveEndpoint_ne_of_unlisted hunlisted
  · intro updatedAt ttl brokers hstart key record hrecord hverified
    obtain hold | hpromoted := verified_run hrecord hverified
    · rw [hstart] at hold
      exact absurd hverified (v1_not_verified hold)
    · exact hpromoted

end Runs

/-- The endpoint of the example login. -/
def loginEndpoint (runId : String) (observedAt : Int) : VerifiedBrokerEndpoint :=
  (promotedRecord (loginPromotion runId observedAt) (.v4 0x01020304)).endpoint "Broker"
    (.v4 0x01020304)

def loginInvalidation : EndpointInvalidation where
  endpoint := loginEndpoint firstRun 1000
  reason := .connectionFailed
  invalidatedAt := 3000
  eventId := secondRun

theorem endpoint_registry_login :
    Promoted asciiUnicode (loginPromotion firstRun 1000) (loginEndpoint firstRun 1000)
      firstPublished ∧
    ∀ brokerLabel serverName,
      resolveEndpoint asciiUnicode
        (invalidateEndpoint asciiUnicode loginInvalidation { now := 4000 } firstPublished).2.2
        brokerLabel serverName ≠ .ok (loginEndpoint firstRun 1000) := by
  obtain ⟨_, hpromoted, _⟩ := endpoint_registry asciiUnicode {} []
  obtain ⟨_, _, hinvalidated, _⟩ := endpoint_registry asciiUnicode {}
    [.publish (loginPromotion firstRun 1000) { now := 2000 }]
  refine ⟨hpromoted (loginPromotion firstRun 1000) { now := 2000 } (loginEndpoint firstRun 1000)
    (by decide +kernel), ?_⟩
  exact hinvalidated loginInvalidation { now := 4000 } (some "Broker") "Broker-Live" []
    (by decide +kernel) (by decide +kernel) (fun _ h => absurd h List.not_mem_nil)

/-- A registry that was edited by hand: two verified records of one other server. -/
def doubled : EndpointFiles where
  registry := .v3 1 [("Broker", [firstRun, secondRun].map fun runId =>
    { promotedRecord (loginPromotion runId 500) (.v4 0x01020304) with
      serverName := some "Other-Live" })]

/-- `publish` accepts the registry, returns, and leaves the two records as they are. -/
theorem not_single_verified :
    (loadRegistry asciiUnicode 2000 doubled.registry).isSome ∧
    (publishEndpoint asciiUnicode (loginPromotion firstRun 1000) { now := 2000 } doubled).1 =
      .returned (loginEndpoint firstRun 1000) ∧
    ¬ verifiedCount asciiUnicode "broker" "other-live"
      (publishEndpoint asciiUnicode (loginPromotion firstRun 1000) { now := 2000 }
        doubled).2.2 ≤ 1 := by
  decide +kernel

end TradeJournalWorker
