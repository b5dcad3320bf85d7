import TradeJournalWorker.EndpointRollback

namespace TradeJournalWorker

open FaultProgram

def namedBrokers {ρ : Type} (migrate : ρ → EndpointRecord) (brokers : Brokers ρ) :
    Brokers EndpointRecord :=
  brokers.map fun (label, records) => (stripText label, records.map migrate)

/-- The brokers of a registry as `publish` and `invalidate` read them. -/
def RegistryFile.brokers : RegistryFile → Brokers EndpointRecord
  | .missing => []
  | .unreadable => []
  | .v1 updatedAt _ brokers => namedBrokers (V1Record.migrate updatedAt) brokers
  | .v2 updatedAt _ brokers => namedBrokers (V2Record.migrate updatedAt) brokers
  | .v3 _ brokers => namedBrokers id brokers

/-- The records below the labels with this key. -/
def brokerRecords (unicode : Unicode) (key : String) (brokers : Brokers EndpointRecord) :
    List EndpointRecord :=
  (brokers.filter fun broker => brokerKey unicode broker.1 = key).flatMap Prod.snd

/-- The record is verified under a server name that folds to this text. -/
def EndpointRecord.verifiedAs (unicode : Unicode) (server : String) (record : EndpointRecord) :
    Bool :=
  record.status = .verified ∧ record.serverName.any fun name => unicode.casefold name = server

theorem EndpointRecord.verifiedAs_iff {unicode : Unicode} {server : String}
    {record : EndpointRecord} :
    record.verifiedAs unicode server = true ↔ record.status = .verified ∧
      ∃ name, record.serverName = some name ∧ unicode.casefold name = server := by
  simp [EndpointRecord.verifiedAs, Option.any_eq_true]

def verifiedCount (unicode : Unicode) (key server : String) (files : EndpointFiles) : Nat :=
  (brokerRecords unicode key files.registry.brokers).countP
    (EndpointRecord.verifiedAs unicode server)

section Brokers

variable {unicode : Unicode}

theorem normalizeBrokers_eq_some {ρ : Type} {migrate : ρ → EndpointRecord} {brokers : Brokers ρ}
    {named : Brokers EndpointRecord} (h : normalizeBrokers unicode migrate brokers = some named) :
    named = namedBrokers migrate brokers := by
  obtain ⟨_, hnamed⟩ := Option.ite_none_right_eq_some.mp h
  exact (Option.some.inj hnamed).symm

theorem loadRegistry_brokers {now : Int} {file : RegistryFile} {registry : Registry}
    (h : loadRegistry unicode now file = some registry) : registry.brokers = file.brokers := by
  cases file with
  | missing => cases h; rfl
  | unreadable => cases h
  | v1 updatedAt ttl brokers =>
    obtain ⟨_, h⟩ := Option.ite_none_right_eq_some.mp h
    obtain ⟨named, hnamed, rfl⟩ := Option.map_eq_some_iff.mp h
    exact normalizeBrokers_eq_some hnamed
  | v2 updatedAt ttl brokers =>
    obtain ⟨_, h⟩ := Option.ite_none_right_eq_some.mp h
    obtain ⟨named, hnamed, rfl⟩ := Option.map_eq_some_iff.mp h
    exact normalizeBrokers_eq_some hnamed
  | v3 updatedAt brokers =>
    obtain ⟨_, h⟩ := Option.ite_none_right_eq_some.mp h
    obtain ⟨named, hnamed, rfl⟩ := Option.map_eq_some_iff.mp h
    exact normalizeBrokers_eq_some hnamed

/-- Every label is stripped. -/
def Stripped (brokers : Brokers EndpointRecord) : Prop :=
  ∀ broker ∈ brokers, stripText broker.1 = broker.1

theorem stripped_namedBrokers {ρ : Type} (migrate : ρ → EndpointRecord) (brokers : Brokers ρ) :
    Stripped (namedBrokers migrate brokers) := by
  intro broker hbroker
  obtain ⟨source, _, rfl⟩ := List.mem_map.mp hbroker
  exact stripText_idem source.1

theorem stripped_brokers (file : RegistryFile) : Stripped file.brokers := by
  cases file with
  | missing => exact fun _ h => absurd h List.not_mem_nil
  | unreadable => exact fun _ h => absurd h List.not_mem_nil
  | v1 _ _ _ => exact stripped_namedBrokers _ _
  | v2 _ _ _ => exact stripped_namedBrokers _ _
  | v3 _ _ => exact stripped_namedBrokers _ _

theorem brokers_v3 {updatedAt : Int} {brokers : Brokers EndpointRecord} (h : Stripped brokers) :
    (RegistryFile.v3 updatedAt brokers).brokers = brokers := by
  show brokers.map (fun broker => (stripText broker.1, broker.2.map id)) = brokers
  refine (List.map_congr_left fun broker hbroker => ?_).trans (List.map_id brokers)
  rw [h broker hbroker, List.map_id]
  rfl

theorem stripped_changeBroker {label : String} {brokers : Brokers EndpointRecord}
    (change : List EndpointRecord → List EndpointRecord) (hlabel : stripText label = label)
    (h : Stripped brokers) : Stripped (changeBroker label change brokers) := by
  intro broker hbroker
  unfold changeBroker at hbroker
  split at hbroker
  · obtain ⟨source, hsource, rfl⟩ := List.mem_map.mp hbroker
    split
    · exact hlabel
    · exact h source hsource
  · obtain hbroker | hbroker := List.mem_append.mp hbroker
    · exact h broker hbroker
    · rw [List.mem_singleton.mp hbroker]
      exact hlabel

theorem fst_changed (label : String) (change : List EndpointRecord → List EndpointRecord)
    (broker : String × List EndpointRecord) :
    (if broker.1 = label then (label, change broker.2) else broker).1 = broker.1 := by
  split
  next heq => exact heq.symm
  next => rfl

theorem filter_changeBroker {label key : String} (brokers : Brokers EndpointRecord)
    (change : List EndpointRecord → List EndpointRecord) (hkey : brokerKey unicode label ≠ key) :
    (changeBroker label change brokers).filter (fun broker => brokerKey unicode broker.1 = key) =
      brokers.filter fun broker => brokerKey unicode broker.1 = key := by
  unfold changeBroker
  split
  · rw [List.filter_map]
    have hfilter : brokers.filter ((fun broker => decide (brokerKey unicode broker.1 = key)) ∘
        fun broker => if broker.1 = label then (label, change broker.2) else broker) =
          brokers.filter fun broker => brokerKey unicode broker.1 = key := by
      refine List.filter_congr fun broker _ => ?_
      simp only [Function.comp, fst_changed]
    rw [hfilter]
    refine (List.map_congr_left fun broker hbroker => ?_).trans (List.map_id _)
    have hother : broker.1 ≠ label := by
      intro heq
      have hbrokerKey := of_decide_eq_true (List.mem_filter.mp hbroker).2
      exact hkey (heq ▸ hbrokerKey)
    exact if_neg hother
  · simp [List.filter_append, hkey]

theorem brokerRecords_changeBroker_other {label key : String} (brokers : Brokers EndpointRecord)
    (change : List EndpointRecord → List EndpointRecord) (hkey : brokerKey unicode label ≠ key) :
    brokerRecords unicode key (changeBroker label change brokers) =
      brokerRecords unicode key brokers := by
  unfold brokerRecords
  rw [filter_changeBroker brokers change hkey]

theorem brokerMatches_eq (label : String) (brokers : Brokers EndpointRecord) :
    brokerMatches unicode label brokers =
      (brokers.filter fun broker => brokerKey unicode broker.1 = brokerKey unicode label).map
        Prod.fst := by
  unfold brokerMatches
  rw [List.filter_map]
  rfl

theorem filter_of_brokerMatches {label canonical : String} {brokers : Brokers EndpointRecord}
    (h : brokerMatches unicode label brokers = [canonical]) :
    brokerKey unicode canonical = brokerKey unicode label ∧
      brokers.filter (fun broker => brokerKey unicode broker.1 = brokerKey unicode label) =
        [(canonical, brokerRecords unicode (brokerKey unicode label) brokers)] := by
  rw [brokerMatches_eq] at h
  obtain ⟨broker, hfilter, hlabel⟩ := List.map_eq_singleton_iff.mp h
  have hmem := List.mem_filter.mp (hfilter ▸ List.mem_singleton_self broker)
  refine ⟨hlabel ▸ of_decide_eq_true hmem.2, ?_⟩
  unfold brokerRecords
  rw [hfilter, ← hlabel]
  simp

/-- What a change below the only label of a broker does to the records of this broker. -/
theorem brokerRecords_changeBroker_only {label canonical : String}
    {brokers : Brokers EndpointRecord} (change : List EndpointRecord → List EndpointRecord)
    (h : brokerMatches unicode label brokers = [canonical]) :
    brokerRecords unicode (brokerKey unicode label) (changeBroker canonical change brokers) =
      change (brokerRecords unicode (brokerKey unicode label) brokers) := by
  obtain ⟨hkey, hfilter⟩ := filter_of_brokerMatches h
  have hbroker := List.mem_filter.mp (hfilter ▸ List.mem_singleton_self
    (canonical, brokerRecords unicode (brokerKey unicode label) brokers))
  have hmem : canonical ∈ brokers.map Prod.fst := List.mem_map.mpr ⟨_, hbroker.1, rfl⟩
  unfold changeBroker
  rw [if_pos hmem]
  have hchanged : (brokers.map fun broker =>
      if broker.1 = canonical then (canonical, change broker.2) else broker).filter
        (fun broker => brokerKey unicode broker.1 = brokerKey unicode label) =
      [(canonical, change (brokerRecords unicode (brokerKey unicode label) brokers))] := by
    rw [List.filter_map]
    have hsame : brokers.filter ((fun broker =>
          decide (brokerKey unicode broker.1 = brokerKey unicode label)) ∘ fun broker =>
            if broker.1 = canonical then (canonical, change broker.2) else broker) =
        brokers.filter fun broker => brokerKey unicode broker.1 = brokerKey unicode label := by
      refine List.filter_congr fun broker _ => ?_
      simp only [Function.comp, fst_changed]
    rw [hsame, hfilter]
    simp
  show (List.filter _ _).flatMap Prod.snd = _
  rw [hchanged]
  simp

/-- A new label has the changed empty list of records. -/
theorem brokerRecords_changeBroker_new {label : String} {brokers : Brokers EndpointRecord}
    (change : List EndpointRecord → List EndpointRecord)
    (h : brokerMatches unicode label brokers = []) :
    brokerRecords unicode (brokerKey unicode label) (changeBroker label change brokers) =
      change [] ∧ brokerRecords unicode (brokerKey unicode label) brokers = [] := by
  rw [brokerMatches_eq] at h
  have hnone := List.map_eq_nil_iff.mp h
  have hnew : label ∉ brokers.map Prod.fst := by
    intro hlabel
    obtain ⟨broker, hbroker, rfl⟩ := List.mem_map.mp hlabel
    exact List.filter_eq_nil_iff.mp hnone broker hbroker (decide_eq_true rfl)
  unfold brokerRecords changeBroker
  rw [if_neg hnew, List.filter_append, hnone]
  simp

end Brokers

/-- The key of the broker that a promotion is about. -/
def EndpointPromotion.key (unicode : Unicode) (promotion : EndpointPromotion) : String :=
  brokerKey unicode (stripText promotion.brokerLabel)

/-- The folded server name that a promotion is about. -/
def EndpointPromotion.server (unicode : Unicode) (promotion : EndpointPromotion) : String :=
  unicode.casefold (stripText promotion.serverName)

section Publication

variable {unicode : Unicode} {now : Int} {files : EndpointFiles} {promotion : EndpointPromotion}
  {plan : PublicationPlan}

theorem checkPromotion_eq_ok {address : IpAddress} (h : checkPromotion promotion = .ok address) :
    validName promotion.brokerLabel ∧ validName promotion.serverName ∧
      promotion.observation.host.address = some address := by
  unfold checkPromotion at h
  obtain ⟨_, hlabel, h⟩ := except_bind_eq_ok h
  obtain ⟨_, hserver, h⟩ := except_bind_eq_ok h
  obtain ⟨_, _, h⟩ := except_bind_eq_ok h
  obtain ⟨_, _, h⟩ := except_bind_eq_ok h
  obtain ⟨found, hfound, h⟩ := except_bind_eq_ok h
  obtain ⟨_, _, h⟩ := except_bind_eq_ok h
  have hsame := Except.ok.inj h
  subst hsame
  refine ⟨demand_eq_ok.mp hlabel, demand_eq_ok.mp hserver, ?_⟩
  unfold usableAddress at hfound
  split at hfound
  · cases hfound
  next other hother =>
    split at hfound
    · exact hother.trans (congrArg some (Except.ok.inj hfound))
    · cases hfound

/-- The records that a publication writes. -/
structure PublishedRecords (unicode : Unicode) (promotion : EndpointPromotion)
    (before after : Brokers EndpointRecord) (canonical : String) (address : IpAddress) : Prop where
  observed : promotion.observation.host.address = some address
  stripped : Stripped after
  canonicalStripped : stripText canonical = canonical
  canonicalKey : brokerKey unicode canonical = promotion.key unicode
  promoted : brokerRecords unicode (promotion.key unicode) after =
    promote unicode promotion (promotedRecord promotion address)
      (brokerRecords unicode (promotion.key unicode) before)
  others : ∀ key, key ≠ promotion.key unicode →
    brokerRecords unicode key after = brokerRecords unicode key before

theorem publishedRecords (h : preparePublication unicode now files promotion = .ok plan) :
    ∃ address, PublishedRecords unicode promotion files.registry.brokers plan.brokers
      plan.canonicalBroker address := by
  obtain ⟨address, registry, _, canonical, hcheck, hregistry, _, _, hcanonical, _, _, _, rfl⟩ :=
    preparePublication_eq_ok h
  have hbrokers := loadRegistry_brokers hregistry
  obtain ⟨_, _, hobserved⟩ := checkPromotion_eq_ok hcheck
  have hstripped : Stripped registry.brokers := hbrokers ▸ stripped_brokers files.registry
  unfold canonicalLabel at hcanonical
  split at hcanonical
  next hnone =>
    have hsame := Except.ok.inj hcanonical
    subst hsame
    obtain ⟨hrecords, hempty⟩ := brokerRecords_changeBroker_new
      (promote unicode promotion (promotedRecord promotion address)) hnone
    refine ⟨address, hobserved, stripped_changeBroker _ (stripText_idem _) hstripped,
      stripText_idem _, rfl, ?_, fun key hkey => ?_⟩
    · rw [← hbrokers]
      exact hrecords.trans (congrArg _ hempty.symm)
    · rw [← hbrokers]
      exact brokerRecords_changeBroker_other _ _ (Ne.symm hkey)
  next found hone =>
    have hsame := Except.ok.inj hcanonical
    subst hsame
    obtain ⟨hkeySame, hfilter⟩ := filter_of_brokerMatches hone
    have hbroker := List.mem_filter.mp (hfilter ▸ List.mem_singleton_self
      (found, brokerRecords unicode (brokerKey unicode (stripText promotion.brokerLabel))
        registry.brokers))
    have hfound : stripText found = found := hstripped _ hbroker.1
    refine ⟨address, hobserved, stripped_changeBroker _ hfound hstripped, hfound, hkeySame, ?_,
      fun key hkey => ?_⟩
    · rw [← hbrokers]
      exact brokerRecords_changeBroker_only _ hone
    · rw [← hbrokers]
      exact brokerRecords_changeBroker_other _ _ fun heq => hkey (heq.symm.trans hkeySame)
  next => cases hcanonical

theorem supersede_verified {record : EndpointRecord}
    (h : (record.supersede unicode promotion).status = .verified) :
    record.supersede unicode promotion = record ∧
      ¬ record.verifiedAs unicode (promotion.server unicode) := by
  unfold EndpointRecord.supersede at h ⊢
  split
  next hverified =>
    rw [if_pos hverified] at h
    cases h
  next hverified => exact ⟨rfl, hverified⟩

theorem promotedRecord_verifiedAs (address : IpAddress) (server : String) :
    (promotedRecord promotion address).verifiedAs unicode server =
      decide (promotion.server unicode = server) := by
  rw [Bool.eq_iff_iff, decide_eq_true_iff]
  simp [EndpointRecord.verifiedAs, promotedRecord, EndpointPromotion.server]

theorem countP_promote (address : IpAddress) (records : List EndpointRecord) (server : String) :
    (promote unicode promotion (promotedRecord promotion address) records).countP
        (EndpointRecord.verifiedAs unicode server) =
      if promotion.server unicode = server then 1
      else records.countP (EndpointRecord.verifiedAs unicode server) := by
  unfold promote
  rw [List.countP_append, List.countP_map, List.countP_singleton, promotedRecord_verifiedAs]
  by_cases hserver : promotion.server unicode = server
  · have hnone : records.countP (EndpointRecord.verifiedAs unicode server ∘
        EndpointRecord.supersede unicode promotion) = 0 := by
      refine List.countP_eq_zero.mpr fun record _ hverified => ?_
      obtain ⟨hstatus, _⟩ := EndpointRecord.verifiedAs_iff.mp hverified
      obtain ⟨hsame, hother⟩ := supersede_verified hstatus
      rw [Function.comp, hsame, ← hserver] at hverified
      exact hother hverified
    rw [hnone]
    simp [hserver]
  · have hsame : records.countP (EndpointRecord.verifiedAs unicode server ∘
        EndpointRecord.supersede unicode promotion) =
          records.countP (EndpointRecord.verifiedAs unicode server) := by
      refine List.countP_congr fun record _ => ?_
      show (record.supersede unicode promotion).verifiedAs unicode server = true ↔ _
      unfold EndpointRecord.supersede
      split
      next hfor =>
        obtain ⟨_, name, hname, hfold⟩ := EndpointRecord.verifiedAs_iff.mp hfor
        constructor
        · intro h
          obtain ⟨hstatus, _⟩ := EndpointRecord.verifiedAs_iff.mp h
          cases hstatus
        · intro h
          obtain ⟨_, other, hother, hfold'⟩ := EndpointRecord.verifiedAs_iff.mp h
          rw [hname] at hother
          cases hother
          exact absurd (hfold.symm.trans hfold') hserver
      next => exact Iff.rfl
    rw [hsame]
    simp [hserver]

end Publication

/-- The key of the broker of an endpoint. -/
def VerifiedBrokerEndpoint.key (unicode : Unicode) (endpoint : VerifiedBrokerEndpoint) : String :=
  brokerKey unicode (stripText endpoint.brokerLabel)

section Invalidation

variable {unicode : Unicode} {now : Int} {files : EndpointFiles}
  {invalidation : EndpointInvalidation}

/-- The records that an invalidation writes. -/
structure InvalidatedRecords (unicode : Unicode) (invalidation : EndpointInvalidation)
    (before after : Brokers EndpointRecord) : Prop where
  stripped : Stripped after
  target : ∃ target, (brokerRecords unicode (invalidation.endpoint.key unicode) before).filter
    (EndpointRecord.isTarget unicode invalidation) = [target]
  changed : brokerRecords unicode (invalidation.endpoint.key unicode) after =
    (brokerRecords unicode (invalidation.endpoint.key unicode) before).map
      (EndpointRecord.invalidate unicode invalidation)
  others : ∀ key, key ≠ invalidation.endpoint.key unicode →
    brokerRecords unicode key after = brokerRecords unicode key before

theorem lookup_of_filter {key label : String} {brokers : Brokers EndpointRecord}
    {records : List EndpointRecord} (hkey : brokerKey unicode label = key)
    (h : brokers.filter (fun broker => brokerKey unicode broker.1 = key) = [(label, records)]) :
    brokers.lookup label = some records := by
  induction brokers with
  | nil => cases h
  | cons broker rest ih =>
    obtain ⟨other, otherRecords⟩ := broker
    rw [List.lookup_cons]
    rw [List.filter_cons] at h
    by_cases hlabel : label = other
    · subst hlabel
      rw [if_pos (decide_eq_true hkey)] at h
      obtain ⟨hhead, _⟩ := List.cons.inj h
      cases hhead
      simp
    · have hbeq : (label == other) = false := by simpa using hlabel
      rw [hbeq]
      split at h
      · obtain ⟨hhead, _⟩ := List.cons.inj h
        cases hhead
        exact absurd rfl hlabel
      · exact ih h

theorem invalidatedRecords {registry : Registry} {label : String} {target : EndpointRecord}
    (h : prepareInvalidation unicode now files invalidation = .ok (registry, label, target)) :
    InvalidatedRecords unicode invalidation files.registry.brokers registry.brokers := by
  unfold prepareInvalidation at h
  obtain ⟨_, _, h⟩ := except_bind_eq_ok h
  obtain ⟨_, _, h⟩ := except_bind_eq_ok h
  obtain ⟨_, _, h⟩ := except_bind_eq_ok h
  obtain ⟨_, _, h⟩ := except_bind_eq_ok h
  obtain ⟨_, _, h⟩ := except_bind_eq_ok h
  obtain ⟨loaded, hloaded, h⟩ := except_bind_eq_ok h
  obtain ⟨_, _, h⟩ := except_bind_eq_ok h
  obtain ⟨found, hfound, h⟩ := except_bind_eq_ok h
  obtain ⟨record, hrecord, h⟩ := except_bind_eq_ok h
  obtain ⟨_, _, h⟩ := except_bind_eq_ok h
  have hvalue := Except.ok.inj h
  have hregistry := congrArg (fun value => (Prod.fst value).brokers) hvalue
  have hbrokers := loadRegistry_brokers (orRaise_eq_ok.mp hloaded)
  have hone := theOnly_eq_ok hfound
  obtain ⟨hkey, hfilter⟩ := filter_of_brokerMatches hone
  have hstripped : Stripped loaded.brokers := hbrokers ▸ stripped_brokers files.registry
  have hbroker := List.mem_filter.mp (hfilter ▸ List.mem_singleton_self
    (found, brokerRecords unicode (brokerKey unicode (stripText invalidation.endpoint.brokerLabel))
      loaded.brokers))
  have hlookup := lookup_of_filter hkey hfilter
  have htarget := theOnly_eq_ok hrecord
  rw [hlookup] at htarget
  rw [← hregistry, ← hbrokers]
  exact {
    stripped := stripped_changeBroker _ (hstripped _ hbroker.1) hstripped
    target := ⟨record, htarget⟩
    changed := brokerRecords_changeBroker_only _ hone
    others := fun key hother =>
      brokerRecords_changeBroker_other _ _ fun heq => hother (heq.symm.trans hkey) }

theorem invalidate_verified {record : EndpointRecord}
    (h : (record.invalidate unicode invalidation).status = .verified) :
    record.invalidate unicode invalidation = record ∧
      ¬ record.isTarget unicode invalidation := by
  unfold EndpointRecord.invalidate at h ⊢
  split
  next htarget =>
    rw [if_pos htarget] at h
    cases h
  next htarget => exact ⟨rfl, htarget⟩

theorem countP_invalidate (records : List EndpointRecord) (server : String) :
    (records.map (EndpointRecord.invalidate unicode invalidation)).countP
        (EndpointRecord.verifiedAs unicode server) ≤
      records.countP (EndpointRecord.verifiedAs unicode server) := by
  rw [List.countP_map]
  refine List.countP_mono_left fun record _ hverified => ?_
  obtain ⟨hstatus, _⟩ := EndpointRecord.verifiedAs_iff.mp hverified
  obtain ⟨hsame, _⟩ := invalidate_verified hstatus
  exact hsame ▸ hverified

end Invalidation

end TradeJournalWorker
