import Mathlib.Data.List.Sort
import TradeJournalWorker.FirstOccurrences
import TradeJournalWorker.HistoryImport
import TradeJournalWorker.ListSlices
import TradeJournalWorker.OutboxRuns

namespace TradeJournalWorker

open FirstOccurrences ListSlices

section Tickets

inductive DocumentError where
  | identityMissing
  | identityInvalid
  deriving DecidableEq, Repr

/-- `re.fullmatch(r"[0-9]{1,32}", text)`. -/
def isDealTicket (text : String) : Bool :=
  1 ≤ text.length ∧ text.length ≤ 32 ∧ text.toList.all Char.isDigit

def eventTicket (event : Payload) : Except DocumentError String :=
  match event.nativeDealTicket with
  | none => .error .identityMissing
  | some ticket => if isDealTicket ticket then .ok ticket else .error .identityInvalid

/-- Shorter tickets first, those of one length in the order of their texts. -/
def ticketOrder (a b : String) : Bool := a.length < b.length ∨ a.length = b.length ∧ a ≤ b

/-- `_history_document_deal_tickets`. -/
def historyDocumentDealTickets (trades : List TradeGroup) : Except DocumentError (List String) := do
  let tickets ← (trades.flatMap TradeGroup.events).mapM eventTicket
  return (firsts tickets).insertionSort fun a b => ticketOrder a b = true

theorem eventTicket_eq_ok {event : Payload} {ticket : String} :
    eventTicket event = .ok ticket ↔
      event.nativeDealTicket = some ticket ∧ isDealTicket ticket = true := by
  unfold eventTicket
  split
  next hnone => simp [hnone]
  next found hfound =>
    split
    next hvalid =>
      rw [hfound]
      constructor
      · intro h
        cases h
        exact ⟨rfl, hvalid⟩
      · intro h
        rw [Option.some.inj h.1]
    next hinvalid =>
      rw [hfound]
      constructor
      · intro h
        cases h
      · intro h
        rw [← Option.some.inj h.1] at h
        exact absurd h.2 hinvalid

theorem mem_documentTickets {trades : List TradeGroup} {tickets : List String}
    (h : historyDocumentDealTickets trades = .ok tickets) (ticket : String) :
    ticket ∈ tickets ↔
      ∃ event ∈ trades.flatMap TradeGroup.events, event.nativeDealTicket = some ticket := by
  unfold historyDocumentDealTickets at h
  obtain ⟨found, hfound, h⟩ := except_bind_eq_ok h
  cases h
  have hpairs := forall₂_of_mapM hfound
  rw [List.mem_insertionSort, mem_firsts]
  constructor
  · intro hmem
    obtain ⟨event, hevent, hticket⟩ := exists_of_mem_right hpairs hmem
    exact ⟨event, hevent, (eventTicket_eq_ok.mp hticket).1⟩
  · intro hevent
    obtain ⟨event, hevent, hticket⟩ := hevent
    obtain ⟨other, hother, hok⟩ := exists_of_mem_left hpairs hevent
    have hsame := (eventTicket_eq_ok.mp hok).1
    rw [hticket] at hsame
    rw [Option.some.inj hsame]
    exact hother

theorem documentTickets_iff (trades : List TradeGroup) :
    (∃ tickets, historyDocumentDealTickets trades = .ok tickets) ↔
      ∀ event ∈ trades.flatMap TradeGroup.events, event.nativeDealTicket.any isDealTicket := by
  unfold historyDocumentDealTickets
  constructor
  · intro h event hevent
    obtain ⟨tickets, h⟩ := h
    obtain ⟨found, hfound, -⟩ := except_bind_eq_ok h
    obtain ⟨ticket, -, hticket⟩ := exists_of_mem_left (forall₂_of_mapM hfound) hevent
    obtain ⟨hnative, hvalid⟩ := eventTicket_eq_ok.mp hticket
    rw [hnative]
    exact hvalid
  · intro h
    have hall : ∀ event ∈ trades.flatMap TradeGroup.events, ∃ ticket,
        eventTicket event = .ok ticket := by
      intro event hevent
      have hvalid := h event hevent
      cases hnative : event.nativeDealTicket with
      | none =>
        rw [hnative] at hvalid
        cases hvalid
      | some ticket =>
        rw [hnative] at hvalid
        exact ⟨ticket, eventTicket_eq_ok.mpr ⟨hnative, hvalid⟩⟩
    obtain ⟨found, hfound⟩ := exists_mapM_eq_ok hall
    rw [hfound]
    exact ⟨_, rfl⟩

end Tickets

section Groups

/-- `external_trade_id` without the blanks around it. -/
def tradeId (event : Payload) : String := String.ofList (pyStrip event.externalTradeId)

/-- The events of each trade id, in the order in which the ids first occur. -/
def byTrade (events : List Payload) : List (String × List Payload) :=
  (firsts (events.map tradeId)).map fun id => (id, events.filter fun event => tradeId event = id)

theorem groupSlices_eq (events : List Payload) : groupSlices events = slices 4 events := by
  unfold groupSlices slices maxEventsPerGroup
  apply List.map_congr_left
  intro i _
  rw [Nat.mul_comm]

theorem keys_byTrade (events : List Payload) :
    (byTrade events).map Prod.fst = firsts (events.map tradeId) := by
  unfold byTrade
  rw [List.map_map]
  exact List.map_id _

theorem lookup_byTrade (events : List Payload) (id : String) :
    ((byTrade events).lookup id).getD [] = events.filter fun event => tradeId event = id := by
  unfold byTrade
  by_cases hmem : id ∈ firsts (events.map tradeId)
  · have hlookup : ∀ ids : List String, id ∈ ids →
        (ids.map fun id => (id, events.filter fun event => tradeId event = id)).lookup id =
          some (events.filter fun event => tradeId event = id) := by
      intro ids hids
      induction ids with
      | nil => exact absurd hids List.not_mem_nil
      | cons head rest ih =>
        rw [List.map_cons, List.lookup_cons]
        by_cases hhead : id = head
        · rw [hhead]
          simp
        · have hbeq : (id == head) = false := by simpa using hhead
          rw [hbeq]
          exact ih ((List.mem_cons.mp hids).resolve_left hhead)
    rw [hlookup _ hmem, Option.getD_some]
  · have hnone : (List.map (fun id => (id, events.filter fun event => tradeId event = id))
        (firsts (events.map tradeId))).lookup id = none := by
      rw [OrderedDict.lookup_eq_none_iff_not_mem, List.map_map]
      simpa using hmem
    rw [hnone, Option.getD_none]
    symm
    rw [List.filter_eq_nil_iff]
    intro event hevent
    have hother : id ∉ events.map tradeId := fun h => hmem (mem_firsts.mpr h)
    simpa using fun h : tradeId event = id => hother (h ▸ List.mem_map_of_mem hevent)

/-- One more event goes to the end of the list of its trade. -/
theorem byTrade_concat (events : List Payload) (event : Payload) :
    byTrade (events ++ [event]) =
      if tradeId event ∈ (byTrade events).map Prod.fst then
        (byTrade events).map fun entry => (entry.1,
          if entry.1 = tradeId event then
            ((byTrade events).lookup (tradeId event)).getD [] ++ [event]
          else entry.2)
      else byTrade events ++
        [(tradeId event, ((byTrade events).lookup (tradeId event)).getD [] ++ [event])] := by
  rw [lookup_byTrade, keys_byTrade]
  simp only [mem_firsts]
  have hfilter : ∀ id, (events ++ [event]).filter (fun other => tradeId other = id) =
      if id = tradeId event then events.filter (fun other => tradeId other = id) ++ [event]
      else events.filter fun other => tradeId other = id := by
    intro id
    rw [List.filter_append]
    by_cases hid : id = tradeId event
    · simp [hid]
    · have hne : tradeId event ≠ id := fun h => hid h.symm
      simp [hid, hne]
  unfold byTrade
  rw [List.map_append, List.map_cons, List.map_nil]
  by_cases hmem : tradeId event ∈ events.map tradeId
  · rw [if_pos hmem, firsts_concat_of_mem hmem, List.map_map]
    apply List.map_congr_left
    intro id _
    rw [hfilter]
    by_cases hid : id = tradeId event
    · simp [hid]
    · simp [hid]
  · rw [if_neg hmem, firsts_concat_of_not_mem hmem, List.map_append]
    congr 1
    · apply List.map_congr_left
      intro id hid
      have hne : id ≠ tradeId event := fun h => hmem (h ▸ mem_firsts.mp hid)
      rw [hfilter, if_neg hne]
    · rw [List.map_cons, List.map_nil, hfilter, if_pos rfl]

theorem grouped_entries {events : List Payload} {grouping : Grouping}
    (h : events.foldlM Grouping.add {} = .ok grouping) :
    grouping.grouped.entries = byTrade events := by
  induction events using List.reverseRecOn generalizing grouping with
  | nil =>
    cases h
    rfl
  | append_singleton events event ih =>
    rw [List.foldlM_append] at h
    obtain ⟨before, hbefore, h⟩ := except_bind_eq_ok h
    obtain ⟨last, hlast, h⟩ := except_bind_eq_ok h
    cases h
    obtain ⟨-, -, hnext⟩ := add_eq_ok.mp hlast
    rw [hnext, byTrade_concat, ← ih hbefore]
    rfl

/-- The groups of one trade. -/
def groupsOfTrade (events : List Payload) (id : String) : List TradeGroup :=
  (slices 4 (events.filter fun event => tradeId event = id)).map fun slice => ⟨id, slice⟩

theorem historyGroups_ok {events : List Payload} {trades : List TradeGroup}
    (h : historyGroups events = .ok trades) :
    trades = (firsts (events.map tradeId)).flatMap (groupsOfTrade events) := by
  unfold historyGroups at h
  cases hcase : events.foldlM Grouping.add {} with
  | error error =>
    rw [hcase] at h
    cases h
  | ok grouping =>
    rw [hcase] at h
    cases h
    rw [grouped_entries hcase]
    unfold byTrade groupsOfTrade
    rw [List.flatMap_map]
    simp only [groupSlices_eq]

theorem exists_historyGroups_iff (events : List Payload) :
    (∃ trades, historyGroups events = .ok trades) ↔
      (∀ event ∈ events, NamesTrade event) ∧ events.length ≤ maxEvents := by
  have hadds := adds_iff events {} (Nat.zero_le _)
  have hstart : ({} : Grouping).count + events.length = events.length := Nat.zero_add _
  rw [hstart] at hadds
  rw [← hadds]
  unfold historyGroups
  cases events.foldlM Grouping.add {} with
  | error error => simp
  | ok grouping => simp

theorem groupsOfTrade_id {events : List Payload} {id : String} {group : TradeGroup}
    (h : group ∈ groupsOfTrade events id) : group.externalTradeId = id := by
  obtain ⟨slice, -, rfl⟩ := List.mem_map.mp h
  rfl

theorem groupsOfTrade_events (events : List Payload) (id : String) :
    (groupsOfTrade events id).flatMap TradeGroup.events =
      events.filter fun event => tradeId event = id := by
  unfold groupsOfTrade
  rw [List.flatMap_map]
  show (slices 4 _).flatMap (fun slice => slice) = _
  rw [List.flatMap_id', slices_flatten (by omega)]

theorem filter_groups {events : List Payload} {ids : List String} (hnodup : ids.Nodup)
    (id : String) :
    (ids.flatMap (groupsOfTrade events)).filter (fun group => group.externalTradeId = id) =
      if id ∈ ids then groupsOfTrade events id else [] := by
  induction ids with
  | nil => rfl
  | cons head rest ih =>
    obtain ⟨hhead, hrest⟩ := List.nodup_cons.mp hnodup
    rw [List.flatMap_cons, List.filter_append, ih hrest]
    by_cases hid : id = head
    · subst hid
      have hall : (groupsOfTrade events id).filter (fun group => group.externalTradeId = id) =
          groupsOfTrade events id :=
        List.filter_eq_self.mpr fun group hgroup => by simpa using groupsOfTrade_id hgroup
      rw [hall, if_neg hhead, List.append_nil, if_pos List.mem_cons_self]
    · have hnone : (groupsOfTrade events head).filter (fun group => group.externalTradeId = id) =
          [] := by
        refine List.filter_eq_nil_iff.mpr fun group hgroup => ?_
        rw [groupsOfTrade_id hgroup]
        simpa using fun h : head = id => hid h.symm
      rw [hnone, List.nil_append]
      by_cases hlater : id ∈ rest
      · rw [if_pos hlater, if_pos (List.mem_cons_of_mem _ hlater)]
      · rw [if_neg hlater, if_neg fun h => (List.mem_cons.mp h).elim hid hlater]

/-- What a history document must say of its events. -/
structure GroupsExactly (events : List Payload) (trades : List TradeGroup) : Prop where
  bounded : ∀ group ∈ trades, group.events ≠ [] ∧ group.events.length ≤ maxEventsPerGroup
  oneTrade : ∀ group ∈ trades, ∀ event ∈ group.events, tradeId event = group.externalTradeId
  inOrder : ∀ id, (trades.filter fun group => group.externalTradeId = id).flatMap
    TradeGroup.events = events.filter fun event => tradeId event = id
  contiguous : ∃ copies : String → Nat, (∀ id ∈ events.map tradeId, 0 < copies id) ∧
    trades.map TradeGroup.externalTradeId =
      (firsts (events.map tradeId)).flatMap fun id => List.replicate (copies id) id
  count : historyDocumentEventCount trades = events.length
  accepted : (∃ tickets, historyDocumentDealTickets trades = .ok tickets) ↔
    ∀ event ∈ events, event.nativeDealTicket.any isDealTicket
  tickets : ∀ tickets, historyDocumentDealTickets trades = .ok tickets →
    ∀ ticket, ticket ∈ tickets ↔ ∃ event ∈ events, event.nativeDealTicket = some ticket

theorem mem_grouped_iff {events : List Payload} {trades : List TradeGroup}
    (h : historyGroups events = .ok trades) (event : Payload) :
    event ∈ trades.flatMap TradeGroup.events ↔ event ∈ events := by
  rw [historyGroups_ok h, List.flatMap_assoc]
  simp only [groupsOfTrade_events, List.mem_flatMap, mem_firsts, List.mem_filter]
  constructor
  · intro hgrouped
    obtain ⟨id, -, hmem, -⟩ := hgrouped
    exact hmem
  · intro hmem
    exact ⟨tradeId event, List.mem_map_of_mem hmem, hmem, by simp⟩

theorem historyGroups_count {events : List Payload} {trades : List TradeGroup}
    (h : historyGroups events = .ok trades) : historyDocumentEventCount trades = events.length := by
  have hboth := (exists_historyGroups_iff events).mp ⟨trades, h⟩
  obtain ⟨count, hcount⟩ := (historyGroups_iff events events.length).mpr ⟨hboth.1, hboth.2, rfl⟩
  rw [h] at hcount
  have hvalid : validatedHistoryCounts events.length trades = .ok count := hcount
  unfold validatedHistoryCounts at hvalid
  split at hvalid
  next hsame => exact hsame.symm
  next => cases hvalid

/-- A list is grouped if every event names its trade and there are not too many, and then the
groups have all of its events and nothing else, in order. -/
theorem historyGroups_exact (events : List Payload) :
    ((∃ trades, historyGroups events = .ok trades) ↔
      (∀ event ∈ events, NamesTrade event) ∧ events.length ≤ maxEvents) ∧
    ∀ trades, historyGroups events = .ok trades → GroupsExactly events trades := by
  refine ⟨exists_historyGroups_iff events, fun trades h => ?_⟩
  have htrades := historyGroups_ok h
  have hslice : ∀ group ∈ trades, ∃ id, group.externalTradeId = id ∧
      group.events ∈ slices 4 (events.filter fun event => tradeId event = id) := by
    intro group hgroup
    rw [htrades] at hgroup
    obtain ⟨id, -, hmem⟩ := List.mem_flatMap.mp hgroup
    obtain ⟨slice, hslice, rfl⟩ := List.mem_map.mp hmem
    exact ⟨id, rfl, hslice⟩
  refine ⟨?_, ?_, ?_, ?_, historyGroups_count h, ?_, ?_⟩
  · intro group hgroup
    obtain ⟨id, -, hmem⟩ := hslice group hgroup
    obtain ⟨hfilled, hbound, -⟩ := mem_slices (by omega) hmem
    exact ⟨hfilled, hbound⟩
  · intro group hgroup event hevent
    obtain ⟨id, hid, hmem⟩ := hslice group hgroup
    have hown := (mem_slices (by omega) hmem).2.2 hevent
    rw [hid]
    simpa using (List.mem_filter.mp hown).2
  · intro id
    rw [htrades, filter_groups (nodup_firsts _)]
    by_cases hmem : id ∈ firsts (events.map tradeId)
    · rw [if_pos hmem, groupsOfTrade_events]
    · rw [if_neg hmem]
      symm
      refine List.filter_eq_nil_iff.mpr fun event hevent => ?_
      simpa using fun hid : tradeId event = id =>
        hmem (mem_firsts.mpr (hid ▸ List.mem_map_of_mem hevent))
  · refine ⟨fun id => (groupsOfTrade events id).length, ?_, ?_⟩
    · intro id hid
      obtain ⟨event, hevent, hown⟩ := List.mem_map.mp hid
      have hsome : (events.filter fun event => tradeId event = id) ≠ [] := by
        intro hempty
        have hnone := List.filter_eq_nil_iff.mp hempty event hevent
        simp [hown] at hnone
      show 0 < (groupsOfTrade events id).length
      unfold groupsOfTrade
      rw [List.length_map]
      exact List.length_pos_iff.mpr (slices_ne_nil (by omega) hsome)
    · rw [htrades, List.map_flatMap]
      congr 1
      funext id
      exact List.eq_replicate_iff.mpr ⟨List.length_map _, fun other hother => by
        obtain ⟨group, hgroup, rfl⟩ := List.mem_map.mp hother
        exact groupsOfTrade_id hgroup⟩
  · rw [documentTickets_iff]
    simp only [mem_grouped_iff h]
  · intro tickets htickets ticket
    rw [mem_documentTickets htickets]
    simp only [mem_grouped_iff h]

/-- An event without a trade id keeps the list it is in from being grouped. -/
theorem historyGroups_blank :
    historyGroups [{ closePayload with externalTradeId := " " }] = .error .externalIdMissing := by
  decide +kernel

end Groups

end TradeJournalWorker
