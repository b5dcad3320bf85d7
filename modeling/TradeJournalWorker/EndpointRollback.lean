import TradeJournalWorker.EndpointPublication
import TradeJournalWorker.FaultRules

namespace TradeJournalWorker

open FaultProgram

/-- The manifest and the artifact store bind the endpoint. -/
def BoundIn (files : EndpointFiles) (endpoint : VerifiedBrokerEndpoint) : Prop :=
  ∃ entries entry, files.manifest = .files entries ∧
    entries.filter (fun other => other.relativePath = endpoint.artifactRelativePath) = [entry] ∧
    entry.sha256 = endpoint.artifactSha256 ∧
    files.artifacts endpoint.artifactRelativePath = some endpoint.artifactSha256

/-- The resolver gives the same endpoints on both. -/
def SameEndpoints (unicode : Unicode) (before after : EndpointFiles) : Prop :=
  ∀ (brokerLabel : Option String) (serverName : String),
    (resolveEndpoint unicode after brokerLabel serverName).toOption =
      (resolveEndpoint unicode before brokerLabel serverName).toOption

section Resolver

variable {unicode : Unicode}

theorem bindArtifact_eq_ok {entries : List ManifestEntry} {artifacts : String → Option String}
    {endpoint : VerifiedBrokerEndpoint} :
    bindArtifact entries artifacts endpoint = .ok () ↔
      safeRelativePath endpoint.artifactRelativePath ∧
      ∃ entry, entries.filter (fun other => other.relativePath = endpoint.artifactRelativePath) =
          [entry] ∧ entry.sha256 = endpoint.artifactSha256 ∧
        artifacts endpoint.artifactRelativePath = some endpoint.artifactSha256 := by
  unfold bindArtifact
  constructor
  · intro h
    split at h
    next entry hentries =>
      split at h
      · cases h
      next hsha =>
        split at h
        · cases h
        next hsafe =>
          split at h
          · cases h
          next hartifact =>
            exact ⟨not_not.mp hsafe, entry, hentries, not_not.mp hsha, not_not.mp hartifact⟩
    next => cases h
  · intro h
    obtain ⟨hsafe, entry, hentries, hsha, hartifact⟩ := h
    rw [hentries]
    simp [hsha, hsafe, hartifact]

/-- The steps of a resolution that succeeds. -/
theorem resolveEndpoint_eq_ok {files : EndpointFiles} {brokerLabel : Option String}
    {serverName : String} {endpoint : VerifiedBrokerEndpoint} :
    resolveEndpoint unicode files brokerLabel serverName = .ok endpoint ↔
      ∃ request entries brokers, resolveRequest unicode brokerLabel serverName = .ok request ∧
        files.registry ≠ .missing ∧ files.registry ≠ .unreadable ∧
        files.manifest = .files entries ∧
        resolveBrokers unicode files.registry = .ok brokers ∧
        selectVerified unicode request brokers = .ok endpoint ∧
        bindArtifact entries files.artifacts endpoint = .ok () := by
  constructor
  · intro h
    unfold resolveEndpoint at h
    obtain ⟨request, hrequest, h⟩ := except_bind_eq_ok h
    obtain ⟨_, hpresent, h⟩ := except_bind_eq_ok h
    obtain ⟨_, hreadable, h⟩ := except_bind_eq_ok h
    obtain ⟨entries, hentries, h⟩ := except_bind_eq_ok h
    obtain ⟨brokers, hbrokers, h⟩ := except_bind_eq_ok h
    obtain ⟨selected, hselected, h⟩ := except_bind_eq_ok h
    obtain ⟨_, hbound, h⟩ := except_bind_eq_ok h
    cases h
    have hmanifest : files.manifest = .files entries := by
      cases hfile : files.manifest with
      | missing => rw [hfile] at hentries; cases hentries
      | unreadable => rw [hfile] at hentries; cases hentries
      | files listed => rw [hfile] at hentries; cases hentries; rfl
    exact ⟨request, entries, brokers, hrequest, demand_eq_ok.mp hpresent,
      demand_eq_ok.mp hreadable, hmanifest, hbrokers, hselected, hbound⟩
  · intro h
    obtain ⟨request, entries, brokers, hrequest, hpresent, hreadable, hmanifest, hbrokers,
      hselected, hbound⟩ := h
    unfold resolveEndpoint
    rw [hrequest, demand_eq_ok.mpr hpresent, demand_eq_ok.mpr hreadable, hmanifest, hbrokers]
    show (selectVerified unicode request brokers >>= fun selected =>
      bindArtifact entries files.artifacts selected >>= fun _ => pure selected) = .ok endpoint
    rw [hselected]
    show (bindArtifact entries files.artifacts endpoint >>= fun _ => pure endpoint) = .ok endpoint
    rw [hbound]
    rfl

theorem resolveEndpoint_bound {files : EndpointFiles} {brokerLabel : Option String}
    {serverName : String} {endpoint : VerifiedBrokerEndpoint}
    (h : resolveEndpoint unicode files brokerLabel serverName = .ok endpoint) :
    BoundIn files endpoint := by
  obtain ⟨_, entries, _, _, _, _, hmanifest, _, _, hbind⟩ := resolveEndpoint_eq_ok.mp h
  obtain ⟨_, entry, hentry, hsha, hartifact⟩ := bindArtifact_eq_ok.mp hbind
  exact ⟨entries, entry, hmanifest, hentry, hsha, hartifact⟩

/-- The endpoint is one that the resolver may select in this registry. -/
def Selectable (unicode : Unicode) (registry : RegistryFile) (endpoint : VerifiedBrokerEndpoint) :
    Prop :=
  ∃ request brokers, resolveBrokers unicode registry = .ok brokers ∧
    selectVerified unicode request brokers = .ok endpoint

/-- One registry gives one selection, so only the bindings of what it selects can differ. -/
theorem resolveEndpoint_transfer {before after : EndpointFiles}
    (hregistry : after.registry = before.registry)
    (hbound : ∀ endpoint, Selectable unicode before.registry endpoint →
      BoundIn before endpoint → BoundIn after endpoint)
    {brokerLabel : Option String} {serverName : String} {endpoint : VerifiedBrokerEndpoint}
    (h : resolveEndpoint unicode before brokerLabel serverName = .ok endpoint) :
    resolveEndpoint unicode after brokerLabel serverName = .ok endpoint := by
  obtain ⟨request, entries, brokers, hrequest, hpresent, hreadable, _, hbrokers, hselected, hbind⟩ :=
    resolveEndpoint_eq_ok.mp h
  obtain ⟨hsafe, _⟩ := bindArtifact_eq_ok.mp hbind
  obtain ⟨listed, entry, hlisted, hfilter, hsha, hartifact⟩ :=
    hbound endpoint ⟨request, brokers, hbrokers, hselected⟩ (resolveEndpoint_bound h)
  rw [← hregistry] at hpresent hreadable hbrokers
  exact resolveEndpoint_eq_ok.mpr ⟨request, listed, brokers, hrequest, hpresent, hreadable, hlisted,
    hbrokers, hselected, bindArtifact_eq_ok.mpr ⟨hsafe, entry, hfilter, hsha, hartifact⟩⟩

theorem sameEndpoints_of {before after : EndpointFiles} (hregistry : after.registry = before.registry)
    (hbound : ∀ endpoint, Selectable unicode before.registry endpoint →
      (BoundIn before endpoint ↔ BoundIn after endpoint)) :
    SameEndpoints unicode before after := by
  intro brokerLabel serverName
  have hforth := @resolveEndpoint_transfer unicode before after hregistry
    (fun endpoint hselectable => (hbound endpoint hselectable).mp) brokerLabel serverName
  have hback := @resolveEndpoint_transfer unicode after before hregistry.symm
    (fun endpoint hselectable => (hbound endpoint (hregistry ▸ hselectable)).mpr)
    brokerLabel serverName
  cases hbefore : resolveEndpoint unicode before brokerLabel serverName with
  | ok endpoint => rw [hforth hbefore]
  | error error =>
    cases hafter : resolveEndpoint unicode after brokerLabel serverName with
    | ok endpoint =>
      have hsame := hback hafter
      rw [hbefore] at hsame
      cases hsame
    | error other => rfl

theorem parseBroker_eq_ok {broker : String × List EndpointRecord}
    {parsed : String × List (EndpointRecord × VerifiedBrokerEndpoint)}
    (h : parseBroker unicode broker = .ok parsed) :
    parsed.1 = brokerKey unicode broker.1 ∧
      ∃ endpoints, parsed.2 = broker.2.zip endpoints ∧
        List.Forall₂ (fun record endpoint => parseRecord broker.1 record = .ok endpoint) broker.2
          endpoints := by
  unfold parseBroker at h
  obtain ⟨_, _, h⟩ := except_bind_eq_ok h
  obtain ⟨_, _, h⟩ := except_bind_eq_ok h
  obtain ⟨endpoints, hendpoints, h⟩ := except_bind_eq_ok h
  have hvalue := Except.ok.inj h
  subst hvalue
  exact ⟨rfl, endpoints, rfl, forall₂_of_mapM hendpoints⟩

theorem resolveBrokers_v3 {updatedAt : Int} {brokers : Brokers EndpointRecord}
    {parsed : List (String × List (EndpointRecord × VerifiedBrokerEndpoint))}
    (h : resolveBrokers unicode (.v3 updatedAt brokers) = .ok parsed) :
    brokers.mapM (parseBroker unicode) = .ok parsed := by
  simp only [resolveBrokers] at h
  split at h
  · cases h
  · exact h

theorem selectVerified_eq_ok {request : Option String × String}
    {parsed : List (String × List (EndpointRecord × VerifiedBrokerEndpoint))}
    {endpoint : VerifiedBrokerEndpoint}
    (h : selectVerified unicode request parsed = .ok endpoint) :
    verifiedEndpoints unicode request.1 request.2 parsed = [endpoint] := by
  unfold selectVerified at h
  split at h
  · cases h
  · split at h
    next hendpoints =>
      cases h
      exact hendpoints
    next => cases h

/-- What the resolver selects is a verified record of the broker and the server asked for. -/
theorem selectVerified_record {updatedAt : Int} {brokers : Brokers EndpointRecord}
    {parsed : List (String × List (EndpointRecord × VerifiedBrokerEndpoint))}
    {request : Option String × String} {endpoint : VerifiedBrokerEndpoint}
    (hparsed : resolveBrokers unicode (.v3 updatedAt brokers) = .ok parsed)
    (hselected : selectVerified unicode request parsed = .ok endpoint) :
    ∃ broker ∈ brokers, ∃ record ∈ broker.2, record.status = .verified ∧
      parseRecord broker.1 record = .ok endpoint ∧
      (∀ key, request.1 = some key → brokerKey unicode broker.1 = key) ∧
      ∃ name, endpoint.serverName = some name ∧
        unicode.casefold name = unicode.casefold request.2 := by
  have hmem : endpoint ∈ verifiedEndpoints unicode request.1 request.2 parsed := by
    rw [selectVerified_eq_ok hselected]
    exact List.mem_singleton_self endpoint
  obtain ⟨pair, hpair, hendpoint⟩ := List.mem_filterMap.mp hmem
  obtain ⟨broker, hbroker, hpair⟩ := List.mem_flatMap.mp hpair
  obtain ⟨hbroker, hkey⟩ := List.mem_filter.mp hbroker
  obtain ⟨source, hsource, hparse⟩ := exists_of_mem_right
    (forall₂_of_mapM (resolveBrokers_v3 hparsed)) hbroker
  obtain ⟨hname, endpoints, hzip, hrecords⟩ := parseBroker_eq_ok hparse
  obtain ⟨record, other⟩ := pair
  rw [hzip] at hpair
  have hrecord := (List.of_mem_zip hpair).1
  have hendpoint' := (List.forall₂_iff_zip.mp hrecords).2 hpair
  simp only [Option.ite_none_right_eq_some, Option.some.injEq, Option.any_eq_true,
    decide_eq_true_eq] at hendpoint
  obtain ⟨⟨hverified, name, hserver, hfold⟩, rfl⟩ := hendpoint
  refine ⟨source, hsource, record, hrecord, hverified, hendpoint', fun key hrequest => ?_, name,
    hserver, hfold⟩
  rw [hrequest] at hkey
  rw [← hname]
  simpa using hkey

theorem selectable_record {registry : RegistryFile} {endpoint : VerifiedBrokerEndpoint}
    (h : Selectable unicode registry endpoint) :
    ∃ updatedAt brokers, registry = .v3 updatedAt brokers ∧ ∃ broker ∈ brokers,
      ∃ record ∈ broker.2, record.status = .verified ∧
        record.artifactRelativePath = endpoint.artifactRelativePath := by
  obtain ⟨request, parsed, hparsed, hselected⟩ := h
  cases registry with
  | v3 updatedAt brokers =>
    obtain ⟨broker, hbroker, record, hrecord, hverified, hparse, _⟩ :=
      selectVerified_record hparsed hselected
    obtain ⟨address, _, hendpoint⟩ := parseRecord_eq_ok hparse
    refine ⟨updatedAt, brokers, rfl, broker, hbroker, record, hrecord, hverified, ?_⟩
    rw [hendpoint]
    rfl
  | missing => cases hparsed
  | unreadable => cases hparsed
  | v1 _ _ _ => cases hparsed
  | v2 _ _ _ => cases hparsed

end Resolver

section Preparation

variable {unicode : Unicode} {now : Int} {files : EndpointFiles} {promotion : EndpointPromotion}
  {plan : PublicationPlan}

/-- The steps of a preparation that succeeds. -/
theorem preparePublication_eq_ok (h : preparePublication unicode now files promotion = .ok plan) :
    ∃ address registry entries canonicalBroker,
      checkPromotion promotion = .ok address ∧
      loadRegistry unicode now files.registry = some registry ∧
      loadManifest files.manifest = some entries ∧
      (∀ entry ∈ entries, files.artifacts entry.relativePath = some entry.sha256) ∧
      canonicalLabel unicode (stripText promotion.brokerLabel) registry.brokers =
        .ok canonicalBroker ∧
      (parseRecord canonicalBroker (promotedRecord promotion address)).toOption.isSome ∧
      (files.artifacts (artifactPathOf promotion.verificationSessionId)).all
        (· = promotion.artifactSha256) ∧
      (files.artifacts (provenancePathOf promotion.verificationSessionId)).all
        (· = promotion.provenanceSha256) ∧
      plan = {
        canonicalBroker := canonicalBroker
        record := promotedRecord promotion address
        brokers := changeBroker canonicalBroker
          (promote unicode promotion (promotedRecord promotion address)) registry.brokers
        entries := nextManifest promotion entries
        artifactPath := artifactPathOf promotion.verificationSessionId
        provenancePath := provenancePathOf promotion.verificationSessionId
        artifactExisted := (files.artifacts (artifactPathOf promotion.verificationSessionId)).isSome
        provenanceExisted :=
          (files.artifacts (provenancePathOf promotion.verificationSessionId)).isSome } := by
  unfold preparePublication at h
  obtain ⟨address, haddress, h⟩ := except_bind_eq_ok h
  obtain ⟨_, _, h⟩ := except_bind_eq_ok h
  obtain ⟨registry, hregistry, h⟩ := except_bind_eq_ok h
  obtain ⟨entries, hentries, h⟩ := except_bind_eq_ok h
  obtain ⟨_, hbound, h⟩ := except_bind_eq_ok h
  obtain ⟨canonicalBroker, hcanonical, h⟩ := except_bind_eq_ok h
  obtain ⟨_, hrecord, h⟩ := except_bind_eq_ok h
  obtain ⟨_, hartifact, h⟩ := except_bind_eq_ok h
  obtain ⟨_, hprovenance, h⟩ := except_bind_eq_ok h
  cases h
  exact ⟨address, registry, entries, canonicalBroker, haddress, orRaise_eq_ok.mp hregistry,
    orRaise_eq_ok.mp hentries, demand_eq_ok.mp hbound, hcanonical, demand_eq_ok.mp hrecord,
    demand_eq_ok.mp hartifact, demand_eq_ok.mp hprovenance, rfl⟩

/-- A path that publishing the promotion writes to. -/
def OwnPath (promotion : EndpointPromotion) (path : String) : Prop :=
  path = artifactPathOf promotion.verificationSessionId ∨
    path = provenancePathOf promotion.verificationSessionId

instance (promotion : EndpointPromotion) (path : String) : Decidable (OwnPath promotion path) :=
  inferInstanceAs (Decidable (_ ∨ _))

theorem artifactPathOf_ne_provenancePathOf (runId : String) :
    artifactPathOf runId ≠ provenancePathOf runId := by
  intro h
  have hlength := congrArg String.length h
  simp only [artifactPathOf, provenancePathOf, String.length_append] at hlength
  have hartifact : "/endpoint-verification.json".length = 27 := by decide
  have hprovenance : "/login-provenance.json".length = 22 := by decide
  omega

/-- The artifacts of a file set are those of another, except for new files of the promotion. -/
def ArtifactsKept (original : EndpointFiles) (promotion : EndpointPromotion)
    (files : EndpointFiles) : Prop :=
  ∀ path, files.artifacts path = original.artifacts path ∨
    original.artifacts path = none ∧ OwnPath promotion path

/-- No verified record names a file of the promotion, unless the manifest lists it. -/
def Unclaimed (files : EndpointFiles) (promotion : EndpointPromotion) : Prop :=
  ∀ updatedAt brokers, files.registry = .v3 updatedAt brokers →
    ∀ broker ∈ brokers, ∀ record ∈ broker.2, record.status = .verified →
      OwnPath promotion record.artifactRelativePath →
        ∃ entries entry, files.manifest = .files entries ∧ entry ∈ entries ∧
          entry.relativePath = record.artifactRelativePath

/-- Sorting aside, the manifest is the old one without the own paths and the two own entries. -/
theorem nextManifest_filter (entries : List ManifestEntry) (path : String) :
    ((nextManifest promotion entries).filter fun entry => entry.relativePath = path).Perm
      ((entries.filter fun entry => ¬ OwnPath promotion entry.relativePath ∧
          entry.relativePath = path) ++
        [(⟨artifactPathOf promotion.verificationSessionId, promotion.artifactSha256⟩ :
            ManifestEntry),
          ⟨provenancePathOf promotion.verificationSessionId, promotion.provenanceSha256⟩].filter
            fun entry => entry.relativePath = path) := by
  refine ((List.perm_insertionSort _ _).filter _).trans ?_
  rw [List.filter_append, List.filter_filter]
  refine List.Perm.append_right _ (List.Perm.of_eq (List.filter_congr fun entry _ => ?_))
  simp [OwnPath, and_comm]

theorem nextManifest_other {entries : List ManifestEntry} {path : String}
    (hpath : ¬ OwnPath promotion path) :
    ((nextManifest promotion entries).filter fun entry => entry.relativePath = path).Perm
      (entries.filter fun entry => entry.relativePath = path) := by
  refine (nextManifest_filter entries path).trans ?_
  have hartifact : artifactPathOf promotion.verificationSessionId ≠ path :=
    fun heq => hpath (Or.inl heq.symm)
  have hprovenance : provenancePathOf promotion.verificationSessionId ≠ path :=
    fun heq => hpath (Or.inr heq.symm)
  have hown : [(⟨artifactPathOf promotion.verificationSessionId, promotion.artifactSha256⟩ :
      ManifestEntry), ⟨provenancePathOf promotion.verificationSessionId,
        promotion.provenanceSha256⟩].filter (fun entry => entry.relativePath = path) = [] := by
    simp [hartifact, hprovenance]
  rw [hown, List.append_nil]
  refine List.Perm.of_eq (List.filter_congr fun entry _ => ?_)
  by_cases heq : entry.relativePath = path
  · simp [heq, hpath]
  · simp [heq]

theorem nextManifest_own {entries : List ManifestEntry} {path sha : String}
    (hpath : path = artifactPathOf promotion.verificationSessionId ∧
        sha = promotion.artifactSha256 ∨
      path = provenancePathOf promotion.verificationSessionId ∧
        sha = promotion.provenanceSha256) :
    (nextManifest promotion entries).filter (fun entry => entry.relativePath = path) =
      [⟨path, sha⟩] := by
  have hdistinct := artifactPathOf_ne_provenancePathOf promotion.verificationSessionId
  have hnone : entries.filter (fun entry => ¬ OwnPath promotion entry.relativePath ∧
      entry.relativePath = path) = [] := by
    refine List.filter_eq_nil_iff.mpr fun entry _ hentry => ?_
    obtain ⟨hforeign, rfl⟩ := of_decide_eq_true hentry
    exact hforeign (hpath.imp And.left And.left)
  have hperm := @nextManifest_filter promotion entries path
  rw [hnone, List.nil_append] at hperm
  refine List.perm_singleton.mp (hperm.trans (List.Perm.of_eq ?_))
  obtain ⟨rfl, rfl⟩ | ⟨rfl, rfl⟩ := hpath
  · simp [hdistinct.symm]
  · simp [hdistinct]

theorem loadManifest_eq_some {manifest : ManifestFile} {entries : List ManifestEntry}
    (h : loadManifest manifest = some entries) :
    (manifest = .missing ∧ entries = [] ∨ manifest = .files entries) ∧
      (entries.map ManifestEntry.relativePath).Nodup := by
  cases manifest with
  | missing => cases h; exact ⟨Or.inl ⟨rfl, rfl⟩, List.nodup_nil⟩
  | unreadable => cases h
  | files listed =>
    obtain ⟨⟨_, hnodup⟩, hlisted⟩ := Option.ite_none_right_eq_some.mp h
    cases hlisted
    exact ⟨Or.inr rfl, hnodup⟩

/-- Under distinct keys an element is all there is with its key. -/
theorem filter_eq_singleton {α κ : Type} [DecidableEq κ] {key : α → κ} {xs : List α} {x : α}
    (hnodup : (xs.map key).Nodup) (hx : x ∈ xs) : xs.filter (fun y => key y = key x) = [x] := by
  induction xs with
  | nil => exact absurd hx List.not_mem_nil
  | cons y rest ih =>
    obtain ⟨hfresh, hrest⟩ := List.nodup_cons.mp (List.map_cons ▸ hnodup)
    obtain rfl | hx := List.mem_cons.mp hx
    · have hnone : rest.filter (fun y => key y = key x) = [] := by
        refine List.filter_eq_nil_iff.mpr fun z hz hkey => hfresh ?_
        exact List.mem_map.mpr ⟨z, hz, of_decide_eq_true hkey⟩
      rw [List.filter_cons, if_pos (decide_eq_true rfl), hnone]
    · have hne : key y ≠ key x := fun heq => hfresh (List.mem_map.mpr ⟨x, hx, heq.symm⟩)
      rw [List.filter_cons, if_neg (by simpa using hne)]
      exact ih hrest hx

/-- A publication goes ahead only when every file of the manifest is there. -/
theorem artifact_of_listed {listed : List ManifestEntry} {entry : ManifestEntry}
    (hplan : preparePublication unicode now files promotion = .ok plan)
    (hlisted : files.manifest = .files listed) (hentry : entry ∈ listed) :
    files.artifacts entry.relativePath = some entry.sha256 := by
  obtain ⟨_, _, entries, _, _, _, hentries, hartifacts, _⟩ := preparePublication_eq_ok hplan
  obtain ⟨⟨hmissing, _⟩ | hfound, _⟩ := loadManifest_eq_some hentries
  · rw [hlisted] at hmissing
    cases hmissing
  · rw [hlisted] at hfound
    injection hfound with hsame
    exact hartifacts entry (hsame ▸ hentry)

theorem artifactsKept_of_some {after : EndpointFiles} {path digest : String}
    (hkept : ArtifactsKept files promotion after) (hpresent : files.artifacts path = some digest) :
    after.artifacts path = some digest := by
  obtain hsame | ⟨hnone, _⟩ := hkept path
  · exact hsame.trans hpresent
  · rw [hpresent] at hnone
    cases hnone

/-- New files under unlisted paths bind nothing. -/
theorem boundIn_of_kept {after : EndpointFiles} {endpoint : VerifiedBrokerEndpoint}
    (hplan : preparePublication unicode now files promotion = .ok plan)
    (hkept : ArtifactsKept files promotion after) (hmanifest : after.manifest = files.manifest) :
    BoundIn files endpoint ↔ BoundIn after endpoint := by
  constructor
  · intro h
    obtain ⟨listed, entry, hlisted, hfilter, hsha, hartifact⟩ := h
    exact ⟨listed, entry, hmanifest.trans hlisted, hfilter, hsha,
      artifactsKept_of_some hkept hartifact⟩
  · intro h
    obtain ⟨listed, entry, hlisted, hfilter, hsha, _⟩ := h
    rw [hmanifest] at hlisted
    obtain ⟨hentry, hpath⟩ := List.mem_filter.mp (hfilter ▸ List.mem_singleton_self entry)
    have hpresent := artifact_of_listed hplan hlisted hentry
    rw [of_decide_eq_true hpath, hsha] at hpresent
    exact ⟨listed, entry, hlisted, hfilter, hsha, hpresent⟩

theorem boundIn_iff {listed : List ManifestEntry} {endpoint : VerifiedBrokerEndpoint}
    (hlisted : files.manifest = .files listed) :
    BoundIn files endpoint ↔ ∃ entry,
      listed.filter (fun other => other.relativePath = endpoint.artifactRelativePath) = [entry] ∧
      entry.sha256 = endpoint.artifactSha256 ∧
      files.artifacts endpoint.artifactRelativePath = some endpoint.artifactSha256 := by
  constructor
  · intro h
    obtain ⟨other, entry, hother, hentry⟩ := h
    rw [hlisted] at hother
    injection hother with heq
    exact ⟨entry, heq ▸ hentry⟩
  · intro h
    obtain ⟨entry, hentry⟩ := h
    exact ⟨listed, entry, hlisted, hentry⟩

/-- The manifest of the publication binds the unclaimed endpoints as the old one does. -/
theorem boundIn_of_listed {after : EndpointFiles} {endpoint : VerifiedBrokerEndpoint}
    (hplan : preparePublication unicode now files promotion = .ok plan)
    (hunclaimed : Unclaimed files promotion) (hkept : ArtifactsKept files promotion after)
    (hmanifest : after.manifest = .files plan.entries)
    (hselectable : Selectable unicode files.registry endpoint) :
    BoundIn files endpoint ↔ BoundIn after endpoint := by
  obtain ⟨_, _, entries, _, _, _, hentries, _, _, _, hartifact, hprovenance, hvalue⟩ :=
    preparePublication_eq_ok hplan
  rw [hvalue] at hmanifest
  obtain ⟨hfound, hnodup⟩ := loadManifest_eq_some hentries
  by_cases hown : OwnPath promotion endpoint.artifactRelativePath
  · obtain ⟨updatedAt, brokers, hregistry, broker, hbroker, record, hrecord, hverified, hpath⟩ :=
      selectable_record hselectable
    obtain ⟨listed, entry, hlisted, hentry, hentryPath⟩ := hunclaimed updatedAt brokers hregistry
      broker hbroker record hrecord hverified (hpath ▸ hown)
    have hsame : listed = entries := by
      obtain ⟨hmissing, _⟩ | hfound := hfound
      · rw [hlisted] at hmissing
        cases hmissing
      · rw [hlisted] at hfound
        injection hfound
    subst hsame
    have hpresent := artifact_of_listed hplan hlisted hentry
    rw [hentryPath, hpath] at hpresent
    have hold := filter_eq_singleton hnodup hentry
    rw [hentryPath, hpath] at hold
    have hnew : (nextManifest promotion listed).filter
        (fun other => other.relativePath = endpoint.artifactRelativePath) =
          [⟨endpoint.artifactRelativePath, entry.sha256⟩] := by
      refine nextManifest_own ?_
      obtain hpart | hpart := hown
      · rw [← hpart, hpresent] at hartifact
        exact Or.inl ⟨hpart, of_decide_eq_true hartifact⟩
      · rw [← hpart, hpresent] at hprovenance
        exact Or.inr ⟨hpart, of_decide_eq_true hprovenance⟩
    rw [boundIn_iff hlisted, boundIn_iff hmanifest, hold, hnew, hpresent,
      artifactsKept_of_some hkept hpresent]
    simp
  · have hsame : after.artifacts endpoint.artifactRelativePath =
        files.artifacts endpoint.artifactRelativePath := by
      obtain hsame | ⟨_, hforeign⟩ := hkept endpoint.artifactRelativePath
      · exact hsame
      · exact absurd hforeign hown
    have hperm := @nextManifest_other promotion entries _ hown
    have hfilter : ∀ entry, (entries.filter
        (fun other => other.relativePath = endpoint.artifactRelativePath) = [entry] ↔
          (nextManifest promotion entries).filter
            (fun other => other.relativePath = endpoint.artifactRelativePath) = [entry]) :=
      fun entry => ⟨fun h => List.perm_singleton.mp (h ▸ hperm),
        fun h => List.perm_singleton.mp (h ▸ hperm).symm⟩
    rw [boundIn_iff hmanifest, hsame]
    obtain ⟨hmissing, rfl⟩ | hfound := hfound
    · constructor
      · intro h
        obtain ⟨_, _, hlisted, _⟩ := h
        rw [hmissing] at hlisted
        cases hlisted
      · intro h
        obtain ⟨entry, hentry, _⟩ := h
        cases (hfilter entry).mpr hentry
    · rw [boundIn_iff hfound]
      simp only [hfilter]

end Preparation

section Writes

variable {unicode : Unicode} {env : PublicationEnv} {original : EndpointFiles}
  {promotion : EndpointPromotion} {plan : PublicationPlan}

/-- The answers stay as they are, and the files satisfy `held`. -/
def Answered (env : PublicationEnv) (held : EndpointFiles → Prop) (env' : PublicationEnv)
    (files : EndpointFiles) : Prop :=
  env' = env ∧ held files

theorem triple_answered {answer : PublicationEnv → WriteAnswer String}
    {change : EndpointFiles → EndpointFiles} {pre mid held : EndpointFiles → Prop}
    (hdone : ∀ files, pre files → answer env = .done → mid (change files))
    (hfailed : ∀ files error, pre files → answer env = .failed error → held files)
    (hlate : ∀ files error, pre files → answer env = .failedLate error → held (change files)) :
    Triple (Answered env pre) (answered answer change)
      (raising (fun _ => Answered env mid) (Answered env held)) := by
  refine triple_write fun env' files hfiles => ?_
  obtain ⟨rfl, hfiles⟩ := hfiles
  cases hanswer : answer env' with
  | done => exact ⟨rfl, hdone files hfiles hanswer⟩
  | failed error => exact ⟨rfl, hfailed files error hfiles hanswer⟩
  | failedLate error => exact ⟨rfl, hlate files error hfiles hanswer⟩
  | crash => trivial

theorem triple_bestEffort {answer : PublicationEnv → WriteAnswer String}
    {change : EndpointFiles → EndpointFiles} {pre mid : EndpointFiles → Prop}
    {held : PublicationEnv → EndpointFiles → Prop}
    (hchange : ∀ files, pre files → mid (change files))
    (hfailed : ∀ files error, pre files → answer env = .failed error → mid files) :
    Triple (Answered env pre) (bestEffort (answered answer change))
      (raising (fun _ => Answered env mid) held) :=
  triple_handled
    (triple_answered (fun files hfiles _ => hchange files hfiles) hfailed
      (fun files _ hfiles _ => hchange files hfiles))
    (fun _ => triple_pure () fun _ _ h => h)

theorem triple_onlyIf {condition : Bool} {p : EndpointProgram Unit}
    {pre : PublicationEnv → EndpointFiles → Prop}
    {post : Exit String Unit → PublicationEnv → EndpointFiles → Prop}
    (hp : condition = true → Triple pre p post)
    (hskip : condition = false → ∀ env files, pre env files → post (.returned ()) env files) :
    Triple pre (onlyIf condition p) post := by
  cases condition with
  | true => exact hp rfl
  | false => exact triple_pure () (hskip rfl)

/-- The files of a publication under way. -/
structure PublicationStage (original : EndpointFiles) (promotion : EndpointPromotion)
    (registry : RegistryFile) (manifest : ManifestFile → Prop) (files : EndpointFiles) : Prop where
  artifacts : ArtifactsKept original promotion files
  registry : files.registry = registry
  manifest : manifest files.manifest

theorem artifactsKept_setArtifact {files : EndpointFiles} {path : String} {digest : Option String}
    (hkept : ArtifactsKept original promotion files) (hnew : original.artifacts path = none)
    (hown : OwnPath promotion path) :
    ArtifactsKept original promotion (setArtifact path digest files) := by
  intro other
  by_cases heq : other = path
  · subst heq
    exact Or.inr ⟨hnew, hown⟩
  · have hsame : (setArtifact path digest files).artifacts other = files.artifacts other :=
      if_neg heq
    rw [hsame]
    exact hkept other

theorem PublicationStage.setArtifact {files : EndpointFiles} {registry : RegistryFile}
    {manifest : ManifestFile → Prop} {path : String} {digest : Option String}
    (hstage : PublicationStage original promotion registry manifest files)
    (hnew : original.artifacts path = none) (hown : OwnPath promotion path) :
    PublicationStage original promotion registry manifest
      (TradeJournalWorker.setArtifact path digest files) where
  artifacts := artifactsKept_setArtifact hstage.artifacts hnew hown
  registry := hstage.registry
  manifest := hstage.manifest

/-- The manifest is the old one, or the new one where that makes no difference. -/
def ManifestKept (original : EndpointFiles) (promotion : EndpointPromotion)
    (plan : PublicationPlan) (manifest : ManifestFile) : Prop :=
  manifest = original.manifest ∨ Unclaimed original promotion ∧ manifest = .files plan.entries

/-- The two files of a plan are new where they have not existed. -/
structure PlanPaths (original : EndpointFiles) (promotion : EndpointPromotion)
    (plan : PublicationPlan) : Prop where
  artifact : (! plan.artifactExisted) = true → original.artifacts plan.artifactPath = none
  provenance : (! plan.provenanceExisted) = true → original.artifacts plan.provenancePath = none
  artifactOwn : OwnPath promotion plan.artifactPath
  provenanceOwn : OwnPath promotion plan.provenancePath

theorem planPaths {now : Int}
    (hplan : preparePublication unicode now original promotion = .ok plan) :
    PlanPaths original promotion plan := by
  obtain ⟨_, _, _, _, _, _, _, _, _, _, _, _, rfl⟩ := preparePublication_eq_ok hplan
  exact ⟨fun h => by simpa using h, fun h => by simpa using h, Or.inl rfl, Or.inr rfl⟩

theorem triple_removed {registry : RegistryFile} {manifest : ManifestFile → Prop} {gone : Bool}
    {path : String} {answer : PublicationEnv → WriteAnswer String}
    {held : PublicationEnv → EndpointFiles → Prop}
    (hnew : gone = true → original.artifacts path = none) (hown : OwnPath promotion path) :
    Triple (Answered env (PublicationStage original promotion registry manifest))
      (onlyIf gone (bestEffort (answered answer (setArtifact path none))))
      (raising (fun _ => Answered env (PublicationStage original promotion registry manifest)) held) := by
  refine triple_onlyIf (fun hgone => triple_bestEffort ?_ fun _ _ h _ => h) fun _ _ _ h => h
  exact fun files hstage => hstage.setArtifact (hnew hgone) hown

/-- The rollback ends with the old registry and a manifest that makes no difference. -/
theorem triple_rollBack {α : Type} {registry : RegistryFile} {manifest : ManifestFile → Prop}
    {registryWritten manifestWritten : Bool} (error : String)
    (hpaths : PlanPaths original promotion plan)
    (hkept : registryWritten = false → registry = original.registry)
    (hrestored : registryWritten = true → ∀ error, env.restoreRegistry ≠ .failed error)
    (hmanifest : ∀ listed, manifest listed →
      manifestWritten = false ∨ (∃ error, env.restoreManifest = .failed error) →
      ManifestKept original promotion plan listed)
    {mid : α → PublicationEnv → EndpointFiles → Prop} :
    Triple (Answered env (PublicationStage original promotion registry manifest))
      (rollBack original plan registryWritten manifestWritten error : EndpointProgram α)
      (raising mid (Answered env (PublicationStage original promotion original.registry
        (ManifestKept original promotion plan)))) := by
  refine @triple_raising _ _ _ _ _ _ _
    (fun _ => Answered env (PublicationStage original promotion original.registry manifest)) _ _ _
    (triple_onlyIf (fun hwritten => triple_bestEffort ?_ ?_) ?_) fun _ => ?_
  · exact fun files hstage => ⟨hstage.artifacts, rfl, hstage.manifest⟩
  · exact fun files error _ hfailed => absurd hfailed (hrestored hwritten error)
  · intro hwritten env' files hfiles
    obtain ⟨henv, hstage⟩ := hfiles
    exact ⟨henv, hstage.artifacts, hstage.registry.trans (hkept hwritten), hstage.manifest⟩
  refine @triple_raising _ _ _ _ _ _ _
    (fun _ => Answered env (PublicationStage original promotion original.registry
      (ManifestKept original promotion plan))) _ _ _
    (triple_onlyIf (fun _ => triple_bestEffort ?_ ?_) ?_) fun _ => ?_
  · exact fun files hstage => ⟨hstage.artifacts, hstage.registry, Or.inl rfl⟩
  · intro files error hstage hfailed
    exact ⟨hstage.artifacts, hstage.registry,
      hmanifest _ hstage.manifest (Or.inr ⟨error, hfailed⟩)⟩
  · intro hwritten env' files hfiles
    obtain ⟨henv, hstage⟩ := hfiles
    exact ⟨henv, hstage.artifacts, hstage.registry, hmanifest _ hstage.manifest (Or.inl hwritten)⟩
  refine triple_raising (triple_removed hpaths.artifact hpaths.artifactOwn) fun _ => ?_
  refine triple_raising (triple_removed hpaths.provenance hpaths.provenanceOwn) fun _ => ?_
  exact triple_raise error fun _ _ h => h

/-- A step with its rollback. -/
theorem triple_guarded {α : Type} {pre : EndpointFiles → Prop} {registry : RegistryFile}
    {manifest : ManifestFile → Prop} {registryWritten manifestWritten : Bool}
    {p : EndpointProgram α} {mid : α → PublicationEnv → EndpointFiles → Prop}
    (hpaths : PlanPaths original promotion plan)
    (hkept : registryWritten = false → registry = original.registry)
    (hrestored : registryWritten = true → ∀ error, env.restoreRegistry ≠ .failed error)
    (hmanifest : ∀ listed, manifest listed →
      manifestWritten = false ∨ (∃ error, env.restoreManifest = .failed error) →
      ManifestKept original promotion plan listed)
    (hp : Triple (Answered env pre) p
      (raising mid (Answered env (PublicationStage original promotion registry manifest)))) :
    Triple (Answered env pre) (guarded original plan registryWritten manifestWritten p)
      (raising mid (Answered env (PublicationStage original promotion original.registry
        (ManifestKept original promotion plan)))) :=
  triple_handled hp fun _ => triple_rollBack _ hpaths hkept hrestored hmanifest

/-- The answers under which a failed publication leaves no trace. -/
structure RollsBack (original : EndpointFiles) (promotion : EndpointPromotion)
    (env : PublicationEnv) : Prop where
  registryWrite : env.manifestWrite = .done → ∀ error, env.registryWrite ≠ .failedLate error
  restoreRegistry : env.registryWrite = .done → ∀ error, env.restoreRegistry ≠ .failed error
  manifest : Unclaimed original promotion ∨
    (∀ error, env.manifestWrite ≠ .failedLate error) ∧
    (env.manifestWrite = .done → ∀ error, env.restoreManifest ≠ .failed error)

theorem triple_copied {registry : RegistryFile} {manifest : ManifestFile → Prop} {missing : Bool}
    {path digest : String} {answer : PublicationEnv → WriteAnswer String}
    (hnew : missing = true → original.artifacts path = none) (hown : OwnPath promotion path) :
    Triple (Answered env (PublicationStage original promotion registry manifest))
      (onlyIf missing (answered answer (setArtifact path (some digest))))
      (raising (fun _ => Answered env (PublicationStage original promotion registry manifest))
        (Answered env (PublicationStage original promotion registry manifest))) := by
  refine triple_onlyIf (fun hmissing => triple_answered ?_ ?_ ?_) fun _ _ _ h => h
  · exact fun files hstage _ => hstage.setArtifact (hnew hmissing) hown
  · exact fun _ _ hstage _ => hstage
  · exact fun files _ hstage _ => hstage.setArtifact (hnew hmissing) hown

theorem triple_given {α : Type} {fact : Prop} {pre : EndpointFiles → Prop}
    {p : EndpointProgram α} {post : Exit String α → PublicationEnv → EndpointFiles → Prop}
    (h : fact → Triple (Answered env pre) p post) :
    Triple (Answered env fun files => fact ∧ pre files) p post := by
  intro env' files hfiles
  obtain ⟨henv, hfact, hpre⟩ := hfiles
  exact h hfact env' files ⟨henv, hpre⟩

theorem triple_orRaiseAs {α : Type} {error : String} {result : Except String α}
    {held : EndpointFiles → Prop} :
    Triple (Answered env held) (orRaiseAs error result)
      (raising (fun _ _ _ => True) (Answered env held)) := by
  cases result with
  | ok value => exact triple_pure value fun _ _ _ => True.intro
  | error _ => exact triple_raise error fun _ _ h => h

theorem triple_resolvePublished {serverName : String} {held : EndpointFiles → Prop} :
    Triple (Answered env held) (resolvePublished unicode plan serverName)
      (raising (fun _ _ _ => True) (Answered env held)) := by
  have hresolved : Triple (Answered env held)
      (Program.getWorld >>= fun files => orRaiseAs resolutionFailure
        (resolveEndpoint unicode files (some plan.canonicalBroker) serverName))
      (raising (fun _ _ _ => True) (Answered env held)) :=
    triple_read fun files => triple_orRaiseAs.weaken (fun _ _ h => h.1) fun _ _ _ h => h
  have hanswer : Triple (Answered env held) (answered PublicationEnv.resolution id)
      (raising (fun _ => Answered env held) (Answered env held)) :=
    triple_answered (fun _ h _ => h) (fun _ _ h _ => h) fun _ _ h _ => h
  exact triple_raising hanswer fun _ => hresolved

/-- Every write of the publication that raises is undone. -/
theorem triple_writePublication (now : Int) (hpaths : PlanPaths original promotion plan)
    (hanswers : RollsBack original promotion env) :
    Triple (Answered env (· = original)) (writePublication unicode promotion original now plan)
      (raising (fun _ _ _ => True)
        (Answered env (PublicationStage original promotion original.registry
          (ManifestKept original promotion plan)))) := by
  have hcopied : ∀ listed, listed = original.manifest →
      false = false ∨ (∃ error, env.restoreManifest = .failed error) →
      ManifestKept original promotion plan listed := fun _ h _ => Or.inl h
  have hstart : ∀ env' files, Answered env (· = original) env' files →
      Answered env (PublicationStage original promotion original.registry
        (· = original.manifest)) env' files := by
    intro env' files hfiles
    obtain ⟨henv, rfl⟩ := hfiles
    exact ⟨henv, fun path => Or.inl rfl, rfl, rfl⟩
  refine Triple.weaken ?_ hstart fun _ _ _ h => h
  refine triple_raising (triple_guarded hpaths (fun _ => rfl) (by simp) hcopied
    (triple_copied hpaths.artifact hpaths.artifactOwn)) fun _ => ?_
  refine triple_raising (triple_guarded hpaths (fun _ => rfl) (by simp) hcopied
    (triple_copied hpaths.provenance hpaths.provenanceOwn)) fun _ => ?_
  refine @triple_raising _ _ _ _ _ _ _
    (fun _ => Answered env fun files => env.manifestWrite = .done ∧
      PublicationStage original promotion original.registry (· = .files plan.entries) files) _ _ _
    (triple_guarded hpaths (fun _ => rfl) (by simp) (fun _ h _ => h) (triple_answered ?_ ?_ ?_))
    fun _ => ?_
  · exact fun files hstage hdone => ⟨hdone, hstage.artifacts, hstage.registry, rfl⟩
  · exact fun files _ hstage _ => ⟨hstage.artifacts, hstage.registry, Or.inl hstage.manifest⟩
  · intro files error hstage hlate
    obtain hunclaimed | ⟨hearly, _⟩ := hanswers.manifest
    · exact ⟨hstage.artifacts, hstage.registry, Or.inr ⟨hunclaimed, rfl⟩⟩
    · exact absurd hlate (hearly error)
  have hlisted : env.manifestWrite = .done → ∀ listed, listed = .files plan.entries →
      true = false ∨ (∃ error, env.restoreManifest = .failed error) →
      ManifestKept original promotion plan listed := by
    intro hdone listed hlisted hfailed
    obtain hunclaimed | ⟨_, hrestored⟩ := hanswers.manifest
    · exact Or.inr ⟨hunclaimed, hlisted⟩
    · obtain hwritten | ⟨error, hfailed⟩ := hfailed
      · cases hwritten
      · exact absurd hfailed (hrestored hdone error)
  refine triple_given fun hdone => ?_
  refine @triple_raising _ _ _ _ _ _ _
    (fun _ => Answered env fun files => env.registryWrite = .done ∧
      PublicationStage original promotion (.v3 now plan.brokers) (· = .files plan.entries) files)
    _ _ _
    (triple_guarded hpaths (fun _ => rfl) (by simp) (hlisted hdone) (triple_answered ?_ ?_ ?_))
    fun _ => triple_given fun hwritten => ?_
  · exact fun files hstage hdone => ⟨hdone, hstage.artifacts, rfl, hstage.manifest⟩
  · exact fun files _ hstage _ => hstage
  · exact fun _ error _ hlate => absurd hlate (hanswers.registryWrite hdone error)
  exact triple_guarded hpaths (by simp) (fun _ => hanswers.restoreRegistry hwritten) (hlisted hdone)
    triple_resolvePublished

end Writes

theorem sameEndpoints_of_stage {unicode : Unicode} {now : Int} {original after : EndpointFiles}
    {promotion : EndpointPromotion} {plan : PublicationPlan}
    (hplan : preparePublication unicode now original promotion = .ok plan)
    (hstage : PublicationStage original promotion original.registry
      (ManifestKept original promotion plan) after) :
    SameEndpoints unicode original after := by
  refine sameEndpoints_of hstage.registry fun endpoint hselectable => ?_
  obtain hsame | ⟨hunclaimed, hlisted⟩ := hstage.manifest
  · exact boundIn_of_kept hplan hstage.artifacts hsame
  · exact boundIn_of_listed hplan hunclaimed hstage.artifacts hlisted hselectable

/-- A failed publication changes no answer of the resolver, provided that a registry write that
raises has not replaced the file; and wherever a publication ends or is cut off, what resolves is
bound by the manifest and by the artifact itself. -/
theorem publish_atomic (unicode : Unicode) (files : EndpointFiles) (promotion : EndpointPromotion)
    (env : PublicationEnv) (hanswers : RollsBack files promotion env) :
    ((∃ error, (publishEndpoint unicode promotion env files).1 = .raised error) →
      SameEndpoints unicode files (publishEndpoint unicode promotion env files).2.2) ∧
    ∀ brokerLabel serverName endpoint,
      resolveEndpoint unicode (publishEndpoint unicode promotion env files).2.2 brokerLabel
        serverName = .ok endpoint →
      BoundIn (publishEndpoint unicode promotion env files).2.2 endpoint := by
  refine ⟨fun hraised => ?_, fun _ _ _ => resolveEndpoint_bound⟩
  have hpost : Triple (Answered env (· = files)) (publishEndpoint unicode promotion)
      (raising (fun _ _ _ => True) (Answered env (SameEndpoints unicode files))) := by
    refine triple_readEnv fun start => triple_read fun original => ?_
    split
    next error _ =>
      refine triple_raise error fun env' world hworld => ?_
      obtain ⟨⟨⟨henv, rfl⟩, _⟩, _⟩ := hworld
      exact ⟨henv, fun _ _ => rfl⟩
    next plan hplan =>
      intro env' world hworld
      obtain ⟨⟨⟨rfl, rfl⟩, rfl⟩, rfl⟩ := hworld
      have hwritten := @triple_writePublication unicode env' world promotion plan env'.now
        (planPaths hplan) hanswers env' world ⟨rfl, rfl⟩
      cases hexit : (writePublication unicode promotion world env'.now plan env' world).1 with
      | returned value => trivial
      | raised error =>
        rw [hexit] at hwritten
        exact ⟨hwritten.1, sameEndpoints_of_stage hplan hwritten.2⟩
      | crashed => trivial
  obtain ⟨error, hexit⟩ := hraised
  have hend := hpost env files ⟨rfl, rfl⟩
  rw [hexit] at hend
  exact hend.2

def firstRun : String := "11111111-1111-4111-8111-111111111111"

def secondRun : String := "22222222-2222-4222-8222-222222222222"

def digestOf (c : Char) : String := String.ofList (List.replicate 64 c)

/-- An investor login to one server, observed at the address 1.2.3.4. -/
def loginPromotion (runId : String) (observedAt : Int) : EndpointPromotion :=
  let address : IpAddress := .v4 0x01020304
  let login : EndpointPromotion :=
    { brokerLabel := "Broker"
      serverName := "Broker-Live"
      verificationSessionId := runId
      artifactDigest := some (digestOf 'a')
      artifactSha256 := digestOf 'a'
      evidence := none
      provenanceDigest := some (digestOf 'b')
      provenanceSha256 := digestOf 'b'
      observation :=
        { host := { address := some address }
          port := 443
          pid := 1
          processCreationTime := 1
          observedAt := observedAt } }
  { login with evidence := some (expectedEvidence login address .brokerWizard) }

/-- The files after the first publication. -/
def firstPublished : EndpointFiles :=
  (publishEndpoint asciiUnicode (loginPromotion firstRun 1000) { now := 2000 } {}).2.2

theorem publish_atomic_early :
    SameEndpoints asciiUnicode firstPublished (publishEndpoint asciiUnicode
      (loginPromotion secondRun 3000) { now := 4000, registryWrite := .failed "write" }
      firstPublished).2.2 := by
  have hanswers : RollsBack firstPublished (loginPromotion secondRun 3000)
      { now := 4000, registryWrite := .failed "write" } :=
    { registryWrite := fun _ _ h => nomatch h
      restoreRegistry := fun h => nomatch h
      manifest := Or.inr ⟨(fun _ h => nomatch h), (fun _ _ h => nomatch h)⟩ }
  exact (publish_atomic asciiUnicode firstPublished (loginPromotion secondRun 3000) _ hanswers).1
    ⟨"endpoint publication failed", by decide +kernel⟩

/-- The registry write replaces the file and raises: the manifest is rolled back, the registry is
not, and the endpoint of the first publication is lost. -/
theorem publish_not_atomic_late :
    (∃ error, (publishEndpoint asciiUnicode (loginPromotion secondRun 3000)
      { now := 4000, registryWrite := .failedLate "fsync" } firstPublished).1 = .raised error) ∧
    ¬ SameEndpoints asciiUnicode firstPublished (publishEndpoint asciiUnicode
      (loginPromotion secondRun 3000) { now := 4000, registryWrite := .failedLate "fsync" }
      firstPublished).2.2 := by
  have hrun : (publishEndpoint asciiUnicode (loginPromotion secondRun 3000)
        { now := 4000, registryWrite := .failedLate "fsync" } firstPublished).1 =
          .raised "endpoint publication failed" ∧
      (resolveEndpoint asciiUnicode firstPublished (some "Broker") "Broker-Live").toOption.isSome ∧
      ¬ (resolveEndpoint asciiUnicode (publishEndpoint asciiUnicode
        (loginPromotion secondRun 3000) { now := 4000, registryWrite := .failedLate "fsync" }
        firstPublished).2.2 (some "Broker") "Broker-Live").toOption.isSome := by
    decide +kernel
  obtain ⟨hraised, hbefore, hafter⟩ := hrun
  refine ⟨⟨_, hraised⟩, fun hsame => hafter ?_⟩
  rw [hsame (some "Broker") "Broker-Live"]
  exact hbefore

end TradeJournalWorker
