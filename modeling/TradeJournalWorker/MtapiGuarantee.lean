import TradeJournalWorker.MtapiOrder
import TradeJournalWorker.ResolutionPlans

namespace TradeJournalWorker.MtapiSearch

open ExceptAgreement FirstOccurrences Lab StableSorting

theorem mem_of_mapM {α β ε : Type} {f : α → Except ε β} {xs : List α} {ys : List β} {y : β}
    (h : xs.mapM f = .ok ys) (hmem : y ∈ ys) : ∃ x ∈ xs, f x = .ok y := by
  have hall := forall₂_of_mapM h
  clear h
  induction hall with
  | nil => cases hmem
  | @cons x z xs zs hxz hrest ih =>
    rcases List.mem_cons.mp hmem with rfl | hmem
    · exact ⟨x, by simp, hxz⟩
    · obtain ⟨other, hother, hf⟩ := ih hmem
      exact ⟨other, List.mem_cons_of_mem _ hother, hf⟩

theorem exists_of_mapM {α β ε : Type} {f : α → Except ε β} {xs : List α} {ys : List β} {x : α}
    (h : xs.mapM f = .ok ys) (hmem : x ∈ xs) : ∃ y, f x = .ok y := by
  have hall := forall₂_of_mapM h
  clear h
  induction hall with
  | nil => cases hmem
  | @cons z y xs ys hzy hrest ih =>
    rcases List.mem_cons.mp hmem with rfl | hmem
    · exact ⟨y, hzy⟩
    · exact ih hmem

section Forward

variable {env : SearchEnv} {expectedServerName companyName : String} {item : Endpoint}

/-- One entry of an array, rearranged by `R`, is brought to the front. -/
theorem array_forward {β : Type} {R : JsonValue → JsonValue → Prop}
    {f : JsonValue → Except String β} {P : β → Prop} {a : JsonValue} {ys : List β} {y : β}
    (h : (asArray a >>= fun xs => xs.mapM f) = .ok ys) (hmem : y ∈ ys)
    (hrefl : ∀ value, R value value)
    (hstep : ∀ x, f x = .ok y → ∃ x' y', R x x' ∧ f x' = .ok y' ∧ P y') :
    ∃ b y' rest, Shuffled R a b ∧ (asArray b >>= fun xs => xs.mapM f) = .ok (y' :: rest) ∧ P y' := by
  obtain ⟨xs, harray, hmap⟩ := except_bind_eq_ok h
  have ha : a = .arr xs := by
    unfold asArray at harray
    split at harray
    next =>
      cases harray
      rfl
    next => cases harray
  obtain ⟨x, hx, hfx⟩ := mem_of_mapM hmap hmem
  obtain ⟨before, after, hsplit⟩ := List.append_of_mem hx
  have hperm : xs.Perm (x :: (before ++ after)) := by
    rw [hsplit]
    exact List.perm_middle
  obtain ⟨x', y', hR, hfx', hP⟩ := hstep x hfx
  obtain ⟨others, hothers⟩ : ∃ others, (before ++ after).mapM f = .ok others := by
    refine exists_mapM_eq_ok fun z hz => ?_
    have hzx : z ∈ xs := hperm.mem_iff.mpr (List.mem_cons_of_mem _ hz)
    exact exists_of_mapM hmap hzx
  refine ⟨.arr (x' :: (before ++ after)), y', others, Or.inr ⟨xs, _, _, ha, rfl, hperm, ?_⟩, ?_, hP⟩
  · exact List.Forall₂.cons hR (List.forall₂_same.mpr fun z _ => hrefl z)
  · show (x' :: (before ++ after)).mapM f = .ok (y' :: others)
    rw [List.mapM_cons, hfx', hothers]
    rfl

theorem access_forward {value : JsonValue} {texts : List String} {text : String}
    (h : accessTexts value = .ok texts) (hmem : text ∈ texts) :
    ∃ value' rest, Shuffled Eq value value' ∧ accessTexts value' = .ok (text :: rest) := by
  obtain ⟨b, y', rest, hshuffled, hparsed, rfl⟩ := array_forward (P := fun y => y = text) h hmem
    (fun _ => rfl) fun x hx => ⟨x, text, rfl, hx, rfl⟩
  exact ⟨b, rest, hshuffled, hparsed⟩

/-- The lists that a row is read from. -/
theorem parseRow_eq_ok {a : JsonValue} {row : Option ExactRow}
    (h : parseRow env expectedServerName companyName a = .ok row) :
    ∃ members serverName access, a = .obj members ∧
      hasKeys members ["name", "access"] = true ∧
      serverIdentifier env (JsonValue.get members "name") = .ok serverName ∧
      accessTexts (JsonValue.get members "access") = .ok access ∧
      row = exactRow env expectedServerName companyName serverName access := by
  unfold parseRow at h
  split at h
  next members =>
    split at h
    next => cases h
    next hkeys =>
      obtain ⟨serverName, hname, h⟩ := except_bind_eq_ok h
      obtain ⟨access, haccess, h⟩ := except_bind_eq_ok h
      cases h
      exact ⟨members, serverName, access, rfl, by simpa using hkeys, hname, haccess, rfl⟩
  next => cases h

theorem lookup_of_get {members : List (String × JsonValue)} {key : String}
    (h : JsonValue.get members key ≠ .null) :
    members.lookup key = some (JsonValue.get members key) := by
  unfold JsonValue.get at h ⊢
  cases hlookup : members.lookup key with
  | none =>
    rw [hlookup] at h
    exact absurd rfl h
  | some value => rfl

theorem get_of_lookup {members : List (String × JsonValue)} {key : String} {value : JsonValue}
    (h : members.lookup key = some value) : JsonValue.get members key = value := by
  unfold JsonValue.get
  rw [h]
  rfl

theorem row_forward {a : JsonValue} {row : ExactRow}
    (h : parseRow env expectedServerName companyName a = .ok (some row))
    (hitem : item ∈ row.endpoints) :
    ∃ b row', RowShuffled a b ∧ parseRow env expectedServerName companyName b = .ok (some row') ∧
      row'.endpoints.head? = some item := by
  obtain ⟨members, serverName, access, rfl, hkeys, hname, haccess, hrow⟩ := parseRow_eq_ok h
  unfold exactRow at hrow
  split at hrow
  next hmatch =>
    cases hrow
    obtain ⟨text, htext, hendpoint⟩ := List.mem_filterMap.mp hitem
    obtain ⟨value', rest, hshuffled, hparsed⟩ := access_forward haccess htext
    have hpresent : JsonValue.get members "access" ≠ .null := by
      intro hnull
      rw [hnull] at haccess
      cases haccess
    obtain ⟨ys, hmembers, hlookup⟩ :=
      replace_field hshuffled (shuffled_refl Eq) (lookup_of_get hpresent)
    refine ⟨.obj ys,
      ⟨companyName, serverName, item :: rowEndpoints env rest companyName serverName⟩,
      Or.inr ⟨members, ys, rfl, rfl, hmembers⟩, ?_, rfl⟩
    · unfold parseRow
      simp only
      rw [← hasKeys_eq hmembers, hkeys, ← get_other hmembers (show "name" ≠ "access" by decide),
        hname, get_of_lookup hlookup, hparsed]
      have hendpoints : rowEndpoints env (text :: rest) companyName serverName =
          item :: rowEndpoints env rest companyName serverName :=
        List.filterMap_cons_some hendpoint
      show Except.ok (exactRow env expectedServerName companyName serverName (text :: rest)) = _
      unfold exactRow
      rw [if_pos hmatch, hendpoints]
  next => cases hrow

/-- The lists that the rows of a company are read from. -/
theorem parseCompany_eq_ok {a : JsonValue} {rows : List ExactRow}
    (h : parseCompany env expectedServerName a = .ok rows) :
    ∃ members name read, a = .obj members ∧
      hasKeys members ["companyName", "results"] = true ∧
      MtapiSearch.companyName env (JsonValue.get members "companyName") = .ok name ∧
      (asArray (JsonValue.get members "results") >>= fun results =>
        results.mapM (parseRow env expectedServerName name)) = .ok read ∧
      rows = read.filterMap id := by
  unfold parseCompany at h
  split at h
  next members =>
    split at h
    next => cases h
    next hkeys =>
      obtain ⟨name, hname, h⟩ := except_bind_eq_ok h
      obtain ⟨results, hresults, h⟩ := except_bind_eq_ok h
      obtain ⟨read, hread, h⟩ := except_bind_eq_ok h
      cases h
      refine ⟨members, name, read, rfl, by simpa using hkeys, hname, ?_, rfl⟩
      rw [hresults]
      exact hread
  next => cases h

theorem company_forward {a : JsonValue} {rows : List ExactRow} {row : ExactRow}
    (h : parseCompany env expectedServerName a = .ok rows) (hrow : row ∈ rows)
    (hitem : item ∈ row.endpoints) :
    ∃ b row' rest, CompanyShuffled a b ∧ parseCompany env expectedServerName b = .ok (row' :: rest) ∧
      row'.endpoints.head? = some item := by
  obtain ⟨members, name, read, rfl, hkeys, hname, hread, rfl⟩ := parseCompany_eq_ok h
  have hsome : some row ∈ read := by simpa using hrow
  obtain ⟨value', first, rest, hshuffled, hparsed, row', rfl, hhead⟩ := array_forward
    (P := fun first => ∃ row', first = some row' ∧ row'.endpoints.head? = some item) hread hsome
    inField_refl fun x hx => by
      obtain ⟨b, row', hrowShuffled, hb, hhead⟩ := row_forward hx hitem
      exact ⟨b, some row', hrowShuffled, hb, row', rfl, hhead⟩
  have hpresent : JsonValue.get members "results" ≠ .null := by
    intro hnull
    rw [hnull] at hread
    cases hread
  obtain ⟨ys, hmembers, hlookup⟩ :=
    replace_field hshuffled (shuffled_refl RowShuffled) (lookup_of_get hpresent)
  refine ⟨.obj ys, row', rest.filterMap id, Or.inr ⟨members, ys, rfl, rfl, hmembers⟩, ?_, hhead⟩
  obtain ⟨results, hresults, hrows⟩ := except_bind_eq_ok hparsed
  unfold parseCompany
  simp only
  rw [← hasKeys_eq hmembers, hkeys,
    ← get_other hmembers (show "companyName" ≠ "results" by decide), hname,
    get_of_lookup hlookup]
  simp only [Bool.true_eq_false, ↓reduceIte, except_ok_bind, hresults, hrows]
  rfl

/-- Some order of the response starts with the given endpoint. -/
theorem document_forward {payload : JsonValue} {rows : List ExactRow}
    (h : exactRows env expectedServerName payload = .ok rows)
    (hitem : item ∈ rows.flatMap ExactRow.endpoints) :
    ∃ payload' rows', DocumentShuffled payload payload' ∧
      exactRows env expectedServerName payload' = .ok rows' ∧
      (rows'.flatMap ExactRow.endpoints).head? = some item := by
  unfold exactRows at h
  rw [← bind_assoc] at h
  obtain ⟨read, hread, h⟩ := except_bind_eq_ok h
  cases h
  obtain ⟨row, hrow, hin⟩ := List.mem_flatMap.mp hitem
  obtain ⟨companyRows, hcompany, hrowIn⟩ := List.mem_flatten.mp hrow
  obtain ⟨payload', first, rest, hshuffled, hparsed, row', others, rfl, hhead⟩ := array_forward
    (P := fun first => ∃ row' others, first = row' :: others ∧
      row'.endpoints.head? = some item) hread hcompany inField_refl fun x hx => by
      obtain ⟨b, row', others, hcompanyShuffled, hb, hhead⟩ := company_forward hx hrowIn hin
      exact ⟨b, row' :: others, hcompanyShuffled, hb, row', others, rfl, hhead⟩
  refine ⟨payload', (row' :: others) ++ rest.flatten, hshuffled, ?_, ?_⟩
  · unfold exactRows
    rw [← bind_assoc, hparsed]
    rfl
  · rw [List.cons_append, List.flatMap_cons, List.head?_append, hhead]
    rfl

end Forward

section Heads

variable {env : SearchEnv} {sets : SetOrder} {items : List Endpoint} {item : Endpoint}

/-- The first endpoint speaks for its address. -/
theorem candidate_of_head (h : items.head? = some item) :
    ∃ candidate ∈ mergedCandidates env sets items, candidate.address env = item.address env ∧
      candidate.serverName = item.serverName ∧ candidate.host = item.host ∧
      candidate.port = item.port := by
  cases items with
  | nil => cases h
  | cons first rest =>
    cases h
    obtain ⟨head, others, candidate, hmem, hlist, haddress, hserver, hhost, hport, -⟩ :=
      @candidate_of_item env sets (item :: rest) item (by simp)
    have hhead : head = item := by
      unfold itemsAt at hlist
      rw [List.filter_cons_of_pos (by simp)] at hlist
      exact (List.cons.inj hlist).1.symm
    rw [hhead] at hserver hhost hport
    exact ⟨candidate, hmem, haddress, hserver, hhost, hport⟩

/-- Of the candidates that tie with the first endpoint's, its own is sorted first. -/
theorem first_of_ties (h : items.head? = some item) :
    ∃ candidate, ((mergedCandidates env sets items).filter fun candidate =>
        candidateOrder env candidate = orderKey env item.host item.port).head? = some candidate ∧
      candidate.address env = item.address env := by
  cases items with
  | nil => cases h
  | cons first rest =>
    cases h
    obtain ⟨others, hothers⟩ := OrderedDict.firsts_cons_head (item.address env)
      (rest.map (Endpoint.address env))
    have haddress : item.address env ∈ firsts ((item :: rest).map (Endpoint.address env)) :=
      mem_firsts.mpr (by simp)
    obtain ⟨head, tail, candidate, hlist, hmerged, hat, -, hhost, hport, -⟩ :=
      @mergedCandidate_at env sets (item :: rest) _ haddress
    have hhead : head = item := by
      unfold itemsAt at hlist
      rw [List.filter_cons_of_pos (by simp)] at hlist
      exact (List.cons.inj hlist).1.symm
    rw [hhead] at hhost hport
    have hkey : candidateOrder env candidate = orderKey env item.host item.port := by
      unfold candidateOrder
      rw [hhost, hport]
    refine ⟨candidate, ?_, hat⟩
    have hstable : (stableSort (candidateOrder env) (unsorted env sets (item :: rest))).filter
        (fun candidate => candidateOrder env candidate = orderKey env item.host item.port) =
        (unsorted env sets (item :: rest)).filter fun candidate =>
          candidateOrder env candidate = orderKey env item.host item.port := by
      convert (stableSort_spec (candidateOrder env) _).stable _
    rw [mergedCandidates_eq, hstable]
    have hfirst : unsorted env sets (item :: rest) = candidate :: others.filterMap fun address =>
        mergedCandidate env sets (itemsAt env (item :: rest) address) := by
      unfold unsorted
      rw [List.map_cons, hothers]
      exact List.filterMap_cons_some hmerged
    rw [hfirst, List.filter_cons_of_pos (by simpa using hkey)]
    rfl

/-- The order of a set that has the given text first. -/
def textFirst (text : String) : SetOrder where
  members := fun names =>
    if text ∈ firsts names then text :: (firsts names).erase text else firsts names
  members_perm := fun names => by
    split
    next h => exact (List.perm_cons_erase h).symm
    next => exact List.Perm.refl _

theorem sortedNames_textFirst {names : List String} {text : String} (h : text ∈ names) :
    ((sortedNames env (textFirst text) names).filter fun name =>
      env.tables.casefoldText name = env.tables.casefoldText text).head? = some text := by
  have hmem : text ∈ firsts names := mem_firsts.mpr h
  have hstable : (stableSort env.tables.casefoldText ((textFirst text).members names)).filter
      (fun name => env.tables.casefoldText name = env.tables.casefoldText text) =
      ((textFirst text).members names).filter fun name =>
        env.tables.casefoldText name = env.tables.casefoldText text := by
    convert (stableSort_spec env.tables.casefoldText _).stable _
  unfold sortedNames
  rw [hstable]
  show ((if text ∈ firsts names then text :: (firsts names).erase text
    else firsts names).filter _).head? = _
  rw [if_pos hmem, List.filter_cons_of_pos (by simp)]
  rfl

end Heads

section Main

variable {env : SearchEnv} {payload : JsonValue} {expectedServerName : String}

def candidatesOf (result : Except String MtApiSearchResult) :
    Option (List MtApiEndpointCandidate) :=
  result.toOption.map MtApiSearchResult.candidates

/-- Neither another order of the response nor one of the sets changes the candidates. -/
def OrderIndependent (env : SearchEnv) (payload : JsonValue) (expectedServerName : String) : Prop :=
  ∀ sets sets' payload' fetchedAtUnixMs, DocumentShuffled payload payload' →
    candidatesOf (parseDocument env sets payload expectedServerName fetchedAtUnixMs) =
      candidatesOf (parseDocument env sets' payload' expectedServerName fetchedAtUnixMs)

theorem parseDocument_of_items {sets : SetOrder} {fetchedAtUnixMs : Int} {rows : List ExactRow}
    (h : exactRows env expectedServerName payload = .ok rows)
    (hitems : rows.flatMap ExactRow.endpoints ≠ []) :
    ∃ result, parseDocument env sets payload expectedServerName fetchedAtUnixMs = .ok result ∧
      result.candidates = mergedCandidates env sets (rows.flatMap ExactRow.endpoints) := by
  have hrows : rows ≠ [] := by
    rintro rfl
    exact hitems rfl
  unfold parseDocument
  rw [h, except_ok_bind, if_neg hrows, if_neg hitems]
  exact ⟨_, rfl, rfl⟩

theorem candidatesOf_of_items {sets : SetOrder} {fetchedAtUnixMs : Int} {rows : List ExactRow}
    (h : exactRows env expectedServerName payload = .ok rows)
    (hitems : rows.flatMap ExactRow.endpoints ≠ []) :
    candidatesOf (parseDocument env sets payload expectedServerName fetchedAtUnixMs) =
      some (mergedCandidates env sets (rows.flatMap ExactRow.endpoints)) := by
  obtain ⟨result, hresult, hcandidates⟩ :=
    @parseDocument_of_items env payload expectedServerName sets fetchedAtUnixMs rows h hitems
  rw [hresult, ← hcandidates]
  rfl

theorem independent_of_unambiguous
    (h : ∀ rows, exactRows env expectedServerName payload = .ok rows →
      Unambiguous env (rows.flatMap ExactRow.endpoints)) :
    OrderIndependent env payload expectedServerName := by
  intro sets sets' payload' fetchedAtUnixMs hshuffled
  have hagree := @agree_exactRows env expectedServerName payload payload' hshuffled
  cases hrows : exactRows env expectedServerName payload with
  | error text =>
    obtain ⟨text', hrows'⟩ := hagree.of_error hrows
    unfold parseDocument
    rw [hrows, hrows']
    rfl
  | ok rows =>
    obtain ⟨rows', hrows', hrelated⟩ := hagree.of_ok hrows
    by_cases hitems : rows.flatMap ExactRow.endpoints = []
    · have hitems' : rows'.flatMap ExactRow.endpoints = [] := by
        have hperm := hrelated.endpoints
        rw [hitems] at hperm
        exact hperm.symm.eq_nil
      unfold parseDocument
      rw [hrows, hrows', except_ok_bind, except_ok_bind]
      by_cases hempty : rows = []
      · rw [if_pos hempty, if_pos (hrelated.empty.mp hempty)]
      · rw [if_neg hempty, if_neg fun heq => hempty (hrelated.empty.mpr heq), if_pos hitems,
          if_pos hitems']
    · have hitems' : rows'.flatMap ExactRow.endpoints ≠ [] := by
        intro hnil
        have hperm := hrelated.endpoints
        rw [hnil] at hperm
        exact hitems hperm.eq_nil
      rw [candidatesOf_of_items hrows hitems, candidatesOf_of_items hrows' hitems',
        mergedCandidates_congr hrelated.endpoints (h rows hrows)]

/-- What independence says of two endpoints that are brought to the front in turn. -/
theorem fronts_agree (h : OrderIndependent env payload expectedServerName) {rows : List ExactRow}
    (hrows : exactRows env expectedServerName payload = .ok rows) {a b : Endpoint}
    (ha : a ∈ rows.flatMap ExactRow.endpoints) (hb : b ∈ rows.flatMap ExactRow.endpoints)
    (sets : SetOrder) : ∃ items items' : List Endpoint,
      items.head? = some a ∧ items'.head? = some b ∧
        mergedCandidates env sets items = mergedCandidates env sets items' := by
  obtain ⟨payloadA, rowsA, hshuffledA, hrowsA, hheadA⟩ := document_forward hrows ha
  obtain ⟨payloadB, rowsB, hshuffledB, hrowsB, hheadB⟩ := document_forward hrows hb
  have hneA : rowsA.flatMap ExactRow.endpoints ≠ [] := by
    intro hnil
    rw [hnil] at hheadA
    cases hheadA
  have hneB : rowsB.flatMap ExactRow.endpoints ≠ [] := by
    intro hnil
    rw [hnil] at hheadB
    cases hheadB
  have hA := h sets sets payloadA 0 hshuffledA
  have hB := h sets sets payloadB 0 hshuffledB
  rw [candidatesOf_of_items hrowsA hneA] at hA
  rw [candidatesOf_of_items hrowsB hneB] at hB
  exact ⟨_, _, hheadA, hheadB, Option.some.inj (hA.symm.trans hB)⟩

theorem unambiguous_of_independent (h : OrderIndependent env payload expectedServerName)
    {rows : List ExactRow} (hrows : exactRows env expectedServerName payload = .ok rows) :
    Unambiguous env (rows.flatMap ExactRow.endpoints) := by
  refine ⟨fun a ha b hb haddress => ?_, fun a ha b hb haddress hfold => ?_,
    fun a ha b hb hkey => ?_⟩
  · obtain ⟨items, items', hheadA, hheadB, hsame⟩ :=
      fronts_agree h hrows ha hb (textFirst a.companyName)
    obtain ⟨left, hleft, hleftAt, hleftName, hleftHost, hleftPort⟩ :=
      @candidate_of_head env (textFirst a.companyName) items a hheadA
    obtain ⟨right, hright, hrightAt, hrightName, hrightHost, hrightPort⟩ :=
      @candidate_of_head env (textFirst a.companyName) items' b hheadB
    rw [← hsame] at hright
    have heq : left = right :=
      eq_of_address hleft hright (hleftAt.trans (haddress.trans hrightAt.symm))
    rw [← hleftName, ← hleftHost, ← hleftPort, ← hrightName, ← hrightHost, ← hrightPort, heq]
    exact ⟨rfl, rfl, rfl⟩
  · have hne : rows.flatMap ExactRow.endpoints ≠ [] := List.ne_nil_of_mem ha
    have hsame := h (textFirst a.companyName) (textFirst b.companyName) payload 0 (Or.inl rfl)
    rw [candidatesOf_of_items hrows hne, candidatesOf_of_items hrows hne] at hsame
    have hsame := Option.some.inj hsame
    obtain ⟨first, rest, left, hleft, hlist, hleftAt, -, -, -, hleftNames⟩ :=
      @candidate_of_item env (textFirst a.companyName) _ a ha
    obtain ⟨first', rest', right, hright, hlist', hrightAt, -, -, -, hrightNames⟩ :=
      @candidate_of_item env (textFirst b.companyName) _ b hb
    rw [← hsame] at hright
    have heq : left = right :=
      eq_of_address hleft hright (hleftAt.trans (haddress.trans hrightAt.symm))
    have hmemA : a.companyName ∈ (itemsAt env (rows.flatMap ExactRow.endpoints)
        (a.address env)).map Endpoint.companyName :=
      List.mem_map_of_mem (List.mem_filter.mpr ⟨ha, by simp⟩)
    have hmemB : b.companyName ∈ (itemsAt env (rows.flatMap ExactRow.endpoints)
        (b.address env)).map Endpoint.companyName :=
      List.mem_map_of_mem (List.mem_filter.mpr ⟨hb, by simp⟩)
    have hheadA := @sortedNames_textFirst env _ _ hmemA
    have hheadB := @sortedNames_textFirst env _ _ hmemB
    rw [← hleftNames, hfold] at hheadA
    rw [← hrightNames, ← heq, hheadA] at hheadB
    exact Option.some.inj hheadB
  · obtain ⟨items, items', hheadA, hheadB, hsame⟩ :=
      fronts_agree h hrows ha hb (textFirst a.companyName)
    obtain ⟨left, hleft, hleftAt⟩ := @first_of_ties env (textFirst a.companyName) items a hheadA
    obtain ⟨right, hright, hrightAt⟩ :=
      @first_of_ties env (textFirst a.companyName) items' b hheadB
    rw [← hsame, ← hkey, hleft] at hright
    rw [← hleftAt, ← hrightAt, Option.some.inj hright]

/-- The candidates are independent of every order exactly when the endpoints that are read are
unambiguous. They are always sorted, one for each address, and no bad endpoint removes a good
one. -/
theorem search_order (env : SearchEnv) (payload : JsonValue) (expectedServerName : String) :
    (OrderIndependent env payload expectedServerName ↔
      ∀ rows, exactRows env expectedServerName payload = .ok rows →
        Unambiguous env (rows.flatMap ExactRow.endpoints)) ∧
    ∀ sets fetchedAtUnixMs,
      (∀ result, parseDocument env sets payload expectedServerName fetchedAtUnixMs = .ok result →
        (result.candidates.map (MtApiEndpointCandidate.address env)).Nodup ∧
          result.candidates.Pairwise fun a b => candidateOrder env a ≤ candidateOrder env b) ∧
      ∀ rows, exactRows env expectedServerName payload = .ok rows →
        ∀ item ∈ rows.flatMap ExactRow.endpoints, ∃ result,
          parseDocument env sets payload expectedServerName fetchedAtUnixMs = .ok result ∧
            ∃ candidate ∈ result.candidates, candidate.address env = item.address env := by
  refine ⟨⟨fun h rows hrows => unambiguous_of_independent h hrows,
    independent_of_unambiguous⟩, fun sets fetchedAtUnixMs => ⟨fun result h => ?_,
      fun rows hrows item hitem => ?_⟩⟩
  · unfold parseDocument at h
    obtain ⟨rows, hrows, h⟩ := except_bind_eq_ok h
    split at h
    next =>
      cases h
      exact ⟨List.nodup_nil, List.Pairwise.nil⟩
    next =>
      simp only at h
      split at h
      next => cases h
      next =>
        cases h
        exact ⟨addresses_nodup, mergedCandidates_sorted⟩
  · obtain ⟨result, hresult, hcandidates⟩ := @parseDocument_of_items env payload
      expectedServerName sets fetchedAtUnixMs rows hrows (List.ne_nil_of_mem hitem)
    obtain ⟨first, rest, candidate, hmem, -, haddress, -⟩ :=
      @candidate_of_item env sets _ item hitem
    rw [← hcandidates] at hmem
    exact ⟨result, hresult, candidate, hmem, haddress⟩

/-- No text is an address. -/
def hostnameEnv : SearchEnv where
  tables := Routing.plainEnv.tables
  parseIp := fun _ => none
  isGlobal := fun _ => false
  compressed := fun _ => []

def searchRow (name : String) : JsonValue :=
  .obj [("name", .str name), ("access", .arr [.str "mt5.broker.com:443"])]

def searchResponse (names : List String) : JsonValue :=
  .arr [.obj [("companyName", .str "Broker"), ("results", .arr (names.map searchRow))]]

/-- The name of the row that comes first is kept. -/
theorem first_spelling_kept :
    ¬OrderIndependent hostnameEnv (searchResponse ["Broker-Live", "BROKER-LIVE"]) "Broker-Live" := by
  intro h
  have hshuffled : DocumentShuffled (searchResponse ["Broker-Live", "BROKER-LIVE"])
      (searchResponse ["BROKER-LIVE", "Broker-Live"]) := by
    refine Or.inr ⟨_, _, _, rfl, rfl, List.Perm.refl _, List.Forall₂.cons ?_ List.Forall₂.nil⟩
    refine Or.inr ⟨_, _, rfl, rfl, List.Forall₂.cons ⟨rfl, rfl⟩
      (List.Forall₂.cons ⟨rfl, ?_⟩ List.Forall₂.nil)⟩
    exact Or.inr ⟨_, _, _, rfl, rfl, List.Perm.swap _ _ _, List.forall₂_same.mpr fun _ _ => Or.inl rfl⟩
  have hsame := h (textFirst "") (textFirst "") _ 0 hshuffled
  revert hsame
  decide +kernel

end Main

end TradeJournalWorker.MtapiSearch
