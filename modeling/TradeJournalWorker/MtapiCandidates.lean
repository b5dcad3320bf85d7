import TradeJournalWorker.MtapiSearch

namespace TradeJournalWorker.MtapiSearch

open FirstOccurrences Lab StableSorting

theorem firsts_perm {α : Type} [DecidableEq α] {xs ys : List α} (h : xs.Perm ys) :
    (firsts xs).Perm (firsts ys) := by
  rw [List.perm_ext_iff_of_nodup (nodup_firsts xs) (nodup_firsts ys)]
  intro x
  rw [mem_firsts, mem_firsts]
  exact h.mem_iff

theorem filterMap_back {α β : Type} {f : α → Option β} {back : β → α} {xs : List α}
    (h : ∀ x ∈ xs, ∃ y, f x = some y ∧ back y = x) : (xs.filterMap f).map back = xs := by
  induction xs with
  | nil => rfl
  | cons x rest ih =>
    obtain ⟨y, hy, hback⟩ := h x (by simp)
    rw [List.filterMap_cons_some hy, List.map_cons, hback,
      ih fun z hz => h z (List.mem_cons_of_mem _ hz)]

/-- What makes the candidates independent of every order: the endpoints of one address agree, no
two companies of one address fold alike, and no two addresses tie. -/
structure Unambiguous (env : SearchEnv) (items : List Endpoint) : Prop where
  names : ∀ a ∈ items, ∀ b ∈ items, a.address env = b.address env →
    a.serverName = b.serverName ∧ a.host = b.host ∧ a.port = b.port
  companies : ∀ a ∈ items, ∀ b ∈ items, a.address env = b.address env →
    env.tables.casefoldText a.companyName = env.tables.casefoldText b.companyName →
      a.companyName = b.companyName
  keys : ∀ a ∈ items, ∀ b ∈ items, orderKey env a.host a.port = orderKey env b.host b.port →
    a.address env = b.address env

section Candidates

variable {env : SearchEnv} {sets sets' : SetOrder} {items items' : List Endpoint}

/-- The items of one address, in their order. -/
def itemsAt (env : SearchEnv) (items : List Endpoint) (address : List Char) : List Endpoint :=
  items.filter fun item => item.address env = address

def unsorted (env : SearchEnv) (sets : SetOrder) (items : List Endpoint) :
    List MtApiEndpointCandidate :=
  (firsts (items.map (Endpoint.address env))).filterMap fun address =>
    mergedCandidate env sets (itemsAt env items address)

theorem mergedCandidates_eq :
    mergedCandidates env sets items =
      stableSort (candidateOrder env) (unsorted env sets items) := by
  unfold mergedCandidates unsorted OrderedDict.values byAddress
  rw [OrderedDict.groupBy_entries, List.map_map, List.filterMap_map]
  rfl

theorem itemsAt_cons {address : List Char}
    (h : address ∈ firsts (items.map (Endpoint.address env))) :
    ∃ first rest, itemsAt env items address = first :: rest ∧ first ∈ items ∧
      first.address env = address := by
  obtain ⟨item, hitem, haddress⟩ := List.mem_map.mp (mem_firsts.mp h)
  have hmem : item ∈ itemsAt env items address :=
    List.mem_filter.mpr ⟨hitem, by simpa using haddress⟩
  cases hlist : itemsAt env items address with
  | nil =>
    rw [hlist] at hmem
    cases hmem
  | cons first rest =>
    have hfirst : first ∈ itemsAt env items address := by simp [hlist]
    obtain ⟨hin, hat⟩ := List.mem_filter.mp hfirst
    exact ⟨first, rest, rfl, hin, by simpa using hat⟩

/-- The candidate of an address stands for its first item and has the address. -/
theorem mergedCandidate_at {address : List Char}
    (h : address ∈ firsts (items.map (Endpoint.address env))) :
    ∃ first rest candidate, itemsAt env items address = first :: rest ∧
      mergedCandidate env sets (itemsAt env items address) = some candidate ∧
      candidate.address env = address ∧ candidate.serverName = first.serverName ∧
      candidate.host = first.host ∧ candidate.port = first.port ∧
      candidate.companyNames =
        sortedNames env sets ((itemsAt env items address).map Endpoint.companyName) := by
  obtain ⟨first, rest, hlist, -, haddress⟩ := itemsAt_cons h
  rw [hlist]
  exact ⟨first, rest, _, rfl, rfl, haddress, rfl, rfl, rfl, rfl⟩

theorem unsorted_addresses :
    (unsorted env sets items).map (MtApiEndpointCandidate.address env) =
      firsts (items.map (Endpoint.address env)) := by
  refine filterMap_back fun address hmem => ?_
  obtain ⟨first, rest, candidate, -, hmerged, haddress, -⟩ := @mergedCandidate_at env sets _ _ hmem
  exact ⟨candidate, hmerged, haddress⟩

theorem mergedCandidates_perm : (mergedCandidates env sets items).Perm (unsorted env sets items) := by
  rw [mergedCandidates_eq]
  exact (stableSort_spec _ _).perm

theorem addresses_nodup :
    ((mergedCandidates env sets items).map (MtApiEndpointCandidate.address env)).Nodup := by
  rw [(mergedCandidates_perm.map _).nodup_iff, unsorted_addresses]
  exact nodup_firsts _

theorem mergedCandidates_sorted :
    (mergedCandidates env sets items).Pairwise fun a b =>
      candidateOrder env a ≤ candidateOrder env b := by
  rw [mergedCandidates_eq]
  exact (stableSort_spec _ _).ordered

/-- Two candidates of one run with one address are the same. -/
theorem eq_of_address {a b : MtApiEndpointCandidate} (ha : a ∈ mergedCandidates env sets items)
    (hb : b ∈ mergedCandidates env sets items) (h : a.address env = b.address env) : a = b :=
  List.inj_on_of_nodup_map addresses_nodup ha hb h

theorem candidate_of_item {item : Endpoint} (h : item ∈ items) :
    ∃ first rest, ∃ candidate ∈ mergedCandidates env sets items,
      itemsAt env items (item.address env) = first :: rest ∧
      candidate.address env = item.address env ∧ candidate.serverName = first.serverName ∧
      candidate.host = first.host ∧ candidate.port = first.port ∧
      candidate.companyNames = sortedNames env sets
        ((itemsAt env items (item.address env)).map Endpoint.companyName) := by
  have hmem : item.address env ∈ firsts (items.map (Endpoint.address env)) :=
    mem_firsts.mpr (List.mem_map_of_mem h)
  obtain ⟨first, rest, candidate, hlist, hmerged, haddress, hrest⟩ :=
    @mergedCandidate_at env sets _ _ hmem
  refine ⟨first, rest, candidate, ?_, hlist, haddress, hrest⟩
  exact mergedCandidates_perm.mem_iff.mpr (List.mem_filterMap.mpr ⟨_, hmem, hmerged⟩)

end Candidates

section Sufficient

variable {env : SearchEnv} {sets sets' : SetOrder} {items items' : List Endpoint}

theorem sortedNames_perm (names : List String) :
    (sortedNames env sets names).Perm (firsts names) := by
  unfold sortedNames
  exact (stableSort_spec _ _).perm.trans (sets.members_perm names)

theorem sortedNames_eq {names names' : List String} (hperm : names.Perm names')
    (hfold : ∀ a ∈ names, ∀ b ∈ names,
      env.tables.casefoldText a = env.tables.casefoldText b → a = b) :
    sortedNames env sets names = sortedNames env sets' names' := by
  have hmembers : (sets.members names).Perm (sets'.members names') :=
    (sets.members_perm names).trans ((firsts_perm hperm).trans (sets'.members_perm names').symm)
  refine stableSort_eq_of_perm hmembers fun a ha b hb hkey => ?_
  have hleft := mem_firsts.mp ((sets.members_perm names).mem_iff.mp ha)
  have hright := mem_firsts.mp ((sets.members_perm names).mem_iff.mp hb)
  exact hfold a hleft b hright hkey

/-- Items of one address that agree are merged to one candidate whatever their order. -/
theorem mergedCandidate_eq {group group' : List Endpoint} (hperm : group.Perm group')
    (hnames : ∀ a ∈ group, ∀ b ∈ group,
      a.serverName = b.serverName ∧ a.host = b.host ∧ a.port = b.port)
    (hcompanies : ∀ a ∈ group, ∀ b ∈ group,
      env.tables.casefoldText a.companyName = env.tables.casefoldText b.companyName →
        a.companyName = b.companyName) :
    mergedCandidate env sets group = mergedCandidate env sets' group' := by
  have hsorted : sortedNames env sets (group.map Endpoint.companyName) =
      sortedNames env sets' (group'.map Endpoint.companyName) := by
    refine sortedNames_eq (hperm.map _) fun a ha b hb => ?_
    obtain ⟨x, hx, rfl⟩ := List.mem_map.mp ha
    obtain ⟨y, hy, rfl⟩ := List.mem_map.mp hb
    exact hcompanies x hx y hy
  cases group with
  | nil =>
    rw [hperm.symm.eq_nil]
    rfl
  | cons first rest =>
    cases group' with
    | nil => exact absurd hperm.eq_nil (by simp)
    | cons other others =>
      have hother : other ∈ first :: rest := hperm.mem_iff.mpr (by simp)
      obtain ⟨hserver, hhost, hport⟩ := hnames first (by simp) other hother
      have hne : sortedNames env sets ((first :: rest).map Endpoint.companyName) ≠ [] := by
        have hmem : first.companyName ∈
            sortedNames env sets ((first :: rest).map Endpoint.companyName) :=
          (sortedNames_perm _).mem_iff.mpr (mem_firsts.mpr (by simp))
        exact List.ne_nil_of_mem hmem
      unfold mergedCandidate
      simp only
      rw [← hsorted, hserver, hhost, hport]
      cases hlist : sortedNames env sets ((first :: rest).map Endpoint.companyName) with
      | nil => exact absurd hlist hne
      | cons name names => rfl

theorem unsorted_perm (hperm : items.Perm items') (h : Unambiguous env items) :
    (unsorted env sets items).Perm (unsorted env sets' items') := by
  have hgroups : ∀ address, mergedCandidate env sets (itemsAt env items address) =
      mergedCandidate env sets' (itemsAt env items' address) := by
    intro address
    have hat : ∀ item ∈ itemsAt env items address, item ∈ items ∧ item.address env = address := by
      intro item hitem
      obtain ⟨hmem, haddress⟩ := List.mem_filter.mp hitem
      exact ⟨hmem, by simpa using haddress⟩
    refine mergedCandidate_eq (hperm.filter _) (fun a ha b hb => ?_) fun a ha b hb => ?_
    · obtain ⟨hleft, hla⟩ := hat a ha
      obtain ⟨hright, hlb⟩ := hat b hb
      exact h.names a hleft b hright (hla.trans hlb.symm)
    · obtain ⟨hleft, hla⟩ := hat a ha
      obtain ⟨hright, hlb⟩ := hat b hb
      exact h.companies a hleft b hright (hla.trans hlb.symm)
  unfold unsorted
  rw [List.filterMap_congr fun address _ => hgroups address]
  exact (firsts_perm (hperm.map _)).filterMap _

theorem mergedCandidates_congr (hperm : items.Perm items') (h : Unambiguous env items) :
    mergedCandidates env sets items = mergedCandidates env sets' items' := by
  rw [mergedCandidates_eq, mergedCandidates_eq]
  refine stableSort_eq_of_perm (unsorted_perm hperm h) fun a ha b hb hkey => ?_
  have hsource : ∀ candidate ∈ unsorted env sets items, ∃ item ∈ items,
      candidate.host = item.host ∧ candidate.port = item.port ∧
        candidate.address env = item.address env := by
    intro candidate hmem
    obtain ⟨address, haddress, hmerged⟩ := List.mem_filterMap.mp hmem
    obtain ⟨first, rest, other, hlist, hother, hat, -, hhost, hport, -⟩ :=
      @mergedCandidate_at env sets _ _ haddress
    obtain ⟨first', rest', hlist', hfirst, hfirstAt⟩ := itemsAt_cons haddress
    rw [hlist] at hlist'
    cases hlist'
    rw [hother] at hmerged
    cases hmerged
    exact ⟨first, hfirst, hhost, hport, hat.trans hfirstAt.symm⟩
  obtain ⟨x, hx, hxhost, hxport, hxat⟩ := hsource a ha
  obtain ⟨y, hy, hyhost, hyport, hyat⟩ := hsource b hb
  have hkeys : orderKey env x.host x.port = orderKey env y.host y.port := by
    rw [← hxhost, ← hxport, ← hyhost, ← hyport]
    exact hkey
  have haddress : a.address env = b.address env := by
    rw [hxat, hyat]
    exact h.keys x hx y hy hkeys
  have hnodup : ((unsorted env sets items).map (MtApiEndpointCandidate.address env)).Nodup := by
    rw [unsorted_addresses]
    exact nodup_firsts _
  exact List.inj_on_of_nodup_map hnodup ha hb haddress

end Sufficient

end TradeJournalWorker.MtapiSearch
