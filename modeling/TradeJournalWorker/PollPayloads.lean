import TradeJournalWorker.LivePolls
import TradeJournalWorker.MergedEvents

namespace TradeJournalWorker

open FaultProgram

variable (digest : Fingerprint → String) (sampleMs : Nat)

/-- One poll in which every write and every delivery succeeds. -/
def runPoll (world : LiveWorld) (reading : BridgeReading) : LiveWorld :=
  (pollOnce digest sampleMs (cleanEnv reading) world).2.2

def runPolls (world : LiveWorld) (readings : List BridgeReading) : LiveWorld :=
  readings.foldl (runPoll digest sampleMs) world

section Idle

variable {digest sampleMs} {world : LiveWorld}

theorem runPoll_idle (hidle : IdleOutbox world.outbox) (reading : BridgeReading) :
    IdleOutbox (runPoll digest sampleMs world reading).outbox := by
  unfold runPoll
  rw [pollOnce_clean hidle]
  unfold cleanPoll
  split
  · exact hidle
  · exact hidle.passThrough _

theorem runPolls_idle (hidle : IdleOutbox world.outbox) (readings : List BridgeReading) :
    IdleOutbox (runPolls digest sampleMs world readings).outbox := by
  induction readings generalizing world with
  | nil => exact hidle
  | cons reading rest ih => exact ih (runPoll_idle hidle reading)

end Idle

section Payloads

variable {digest sampleMs} {excursions : Excursions} {reading : BridgeReading}
  {events : List RawEvent}

theorem Plan.enriched_bare :
    (Plan.of sampleMs excursions reading events).enriched.events.map RawEvent.bare =
      events.map RawEvent.bare := enrichCloseEvents_bare _ _ _ _

theorem eq_of_bare {a b : RawEvent} (h : a.bare = b.bare) :
    b = { a with excursion := b.excursion } :=
  congrArg (fun e : RawEvent => { e with excursion := b.excursion }) h.symm

/-- A payload is that of a prepared event with some excursion attached. -/
theorem mem_payloads {payload : Payload}
    (h : payload ∈ (Plan.of sampleMs excursions reading events).payloads digest reading) :
    ∃ event ∈ events, ∃ excursion, payload = normalizedPayload digest reading.account reading.now
      { event with excursion := excursion } := by
  obtain ⟨enriched, hmem, rfl⟩ := List.mem_map.mp h
  have hbare : enriched.bare ∈ events.map RawEvent.bare := by
    rw [← Plan.enriched_bare]
    exact List.mem_map_of_mem hmem
  obtain ⟨event, hevent, hsame⟩ := List.mem_map.mp hbare
  refine ⟨event, hevent, enriched.excursion, ?_⟩
  rw [← eq_of_bare hsame]

theorem exists_payload {event : RawEvent} (h : event ∈ events) :
    ∃ excursion, normalizedPayload digest reading.account reading.now
        { event with excursion := excursion } ∈
      (Plan.of sampleMs excursions reading events).payloads digest reading := by
  have hbare : event.bare ∈ (Plan.of sampleMs excursions reading events).enriched.events.map
      RawEvent.bare := by
    rw [Plan.enriched_bare]
    exact List.mem_map_of_mem h
  obtain ⟨enriched, hmem, hsame⟩ := List.mem_map.mp hbare
  refine ⟨enriched.excursion, ?_⟩
  rw [← eq_of_bare hsame.symm]
  exact List.mem_map_of_mem hmem

end Payloads

section Batch

theorem appendNew_covers {π : Type} [Identified π] {payloads : List π} (known : List String)
    {payload : π} (h : payload ∈ payloads) :
    eventId payload ∈ known ∨
      ∃ added ∈ appendNew known payloads, eventId added = eventId payload := by
  induction payloads generalizing known with
  | nil => exact absurd h List.not_mem_nil
  | cons head rest ih =>
    unfold appendNew
    split
    next hknown =>
      rcases List.mem_cons.mp h with rfl | h
      · exact Or.inl hknown
      · exact ih _ h
    next =>
      rcases List.mem_cons.mp h with rfl | h
      · exact Or.inr ⟨payload, List.mem_cons_self, rfl⟩
      · rcases ih (eventId head :: known) h with hmem | ⟨added, hadded, hsame⟩
        · rcases List.mem_cons.mp hmem with hhead | hknown
          · exact Or.inr ⟨head, List.mem_cons_self, hhead.symm⟩
          · exact Or.inl hknown
        · exact Or.inr ⟨added, List.mem_cons_of_mem _ hadded, hsame⟩

theorem appendNew_subset {π : Type} [Identified π] {payloads : List π} {known : List String} :
    ∀ p ∈ appendNew known payloads, p ∈ payloads :=
  fun p hp => ((appendNew_spec payloads known).2 p hp).1

variable {world : LiveWorld} {reading : BridgeReading}

theorem prepared_of_merged {events : List RawEvent}
    (h : prepareEvents world.snapshot reading.snapshot
      (detectBatch (pollRecords world reading) world.snapshot reading.snapshot) = .ok events) :
    List.Forall₂
      (fun source event => (∃ symbol, event = { source with symbol := symbol }) ∧
        (source.eventType ≠ .tradeOpened → event = source))
      (mergeEventStreamWithSnapshot (pollRecords world reading) world.snapshot reading.snapshot)
      events := by
  rw [detectBatch_eq_merge] at h
  exact (forall₂_of_mapM h).imp fun _ _ hok => (withAuthoritativeSymbol_ok hok).2

end Batch

end TradeJournalWorker
