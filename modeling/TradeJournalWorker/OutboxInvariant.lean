import TradeJournalWorker.FirstOccurrences
import TradeJournalWorker.OutboxOperations

namespace TradeJournalWorker

open FaultProgram FirstOccurrences

variable {π : Type} [Identified π]

/-- The ids of the successful sends, in order. -/
def sentIds (world : OutboxWorld π) : List String :=
  (world.attempts.filter (·.sent)).map fun attempt => eventId attempt.payload

/-- Dead letters and pending events that no send has delivered yet. A pending event
may already be sent, when the state without it could not be persisted. -/
def undelivered (world : OutboxWorld π) : List String :=
  (deadLetterIds world.state ++ pendingIds world.state).filter (· ∉ sentIds world)

/-- The accepted events are the sent ones followed by the undelivered ones. -/
structure OutboxInvariant (world : OutboxWorld π) : Prop where
  valid : ValidState world.state
  reloads : load world.file = .ok world.state
  order : firsts world.accepted = firsts (sentIds world) ++ undelivered world
  barrier : ∀ attempt ∈ world.attempts, attempt.deadLetters = 0

theorem pendingIds_of_head {state : OutboxState π} {p : π} {rest : List π}
    (hp : state.pending = p :: rest) : pendingIds state = eventId p :: rest.map eventId := by
  unfold pendingIds
  rw [hp, List.map_cons]

theorem validBatch_nonempty {payloads : List π} {u : Unit} (h : validateBatch payloads = .ok u) :
    ∀ p ∈ payloads, eventId p ≠ "" := by
  induction payloads with
  | nil => simp
  | cons p rest ih =>
    unfold validateBatch validatePayload at h
    split at h
    next => simp [bind, Except.bind] at h
    next hne =>
      intro q hq
      rcases List.mem_cons.mp hq with rfl | hq
      · exact hne
      · exact ih h q hq

/-- `enqueue_many` keeps the invariant: an accepted id is new, so it was neither
sent nor accepted before unless it has left the outbox as sent. -/
theorem OutboxInvariant.enqueued {world : OutboxWorld π} (inv : OutboxInvariant world)
    {payloads : List π} (hne : ∀ p ∈ payloads, eventId p ≠ "") :
    OutboxInvariant
      { world with
        state := { world.state with
          pending := world.state.pending ++ appendNew (knownIds world.state) payloads }
        file := some { world.state with
          pending := world.state.pending ++ appendNew (knownIds world.state) payloads }
        accepted := world.accepted ++
          (appendNew (knownIds world.state) payloads).map eventId } := by
  obtain ⟨hnodup, hfresh⟩ := appendNew_spec payloads (knownIds world.state)
  generalize appendNew (knownIds world.state) payloads = added at hnodup hfresh
  have hunknown : ∀ q ∈ added.map eventId, q ∉ pendingIds world.state ∧ q ∉ deadLetterIds world.state := by
    intro q hq
    obtain ⟨p, hp, rfl⟩ := List.mem_map.mp hq
    have := (hfresh p hp).2
    unfold knownIds at this
    simp only [List.mem_append, not_or] at this
    exact this
  have hvalid : ValidState { world.state with pending := world.state.pending ++ added } := by
    refine ⟨?_, ?_, inv.valid.deadLetterKeyed, ?_⟩
    · intro p hp
      rcases List.mem_append.mp hp with hp | hp
      · exact inv.valid.pendingNonempty p hp
      · exact hne p (hfresh p hp).1
    · unfold pendingIds
      rw [List.map_append, List.nodup_append]
      refine ⟨inv.valid.pendingNodup, hnodup, ?_⟩
      intro a ha b hb heq
      exact (hunknown b hb).1 (heq ▸ ha)
    · intro key hkey hmem
      unfold pendingIds at hmem
      rw [List.map_append] at hmem
      rcases List.mem_append.mp hmem with hmem | hmem
      · exact inv.valid.disjoint key hkey hmem
      · exact (hunknown key hmem).2 hkey
  refine ⟨hvalid, load_of_valid hvalid, ?_, inv.barrier⟩
  have haccepted : ∀ q ∈ added.map eventId, q ∈ world.accepted ↔ q ∈ sentIds world := by
    intro q hq
    have hmem : q ∈ world.accepted ↔ q ∈ firsts (sentIds world) ++ undelivered world := by
      rw [← inv.order, mem_firsts]
    rw [hmem, List.mem_append, mem_firsts]
    have hnot : q ∉ undelivered world := by
      intro hu
      rcases List.mem_append.mp (List.mem_filter.mp hu).1 with h | h
      · exact (hunknown q hq).2 h
      · exact (hunknown q hq).1 h
    exact or_iff_left hnot
  have hfilter : (added.map eventId).filter (· ∉ world.accepted) =
      (added.map eventId).filter (· ∉ sentIds world) := by
    apply List.filter_congr
    intro q hq
    simp only [haccepted q hq]
  change firsts (world.accepted ++ added.map eventId) = firsts (sentIds world) ++
    (deadLetterIds world.state ++ (world.state.pending ++ added).map eventId).filter
      (· ∉ sentIds world)
  rw [firsts_append_of_nodup _ hnodup, inv.order, hfilter, List.map_append, ← List.append_assoc,
    List.filter_append, List.append_assoc]
  rfl

/-- A call that delivers nothing is only written into the history. -/
theorem OutboxInvariant.attempted {world : OutboxWorld π} (inv : OutboxInvariant world)
    (hdead : world.state.deadLetter = []) {p : π} :
    OutboxInvariant { world with
      attempts := world.attempts ++
        [{ payload := p, deadLetters := world.state.deadLetter.length, sent := false }] } := by
  have hsent : sentIds { world with
      attempts := world.attempts ++
        [{ payload := p, deadLetters := world.state.deadLetter.length, sent := false }] } =
      sentIds world := by
    simp [sentIds]
  refine ⟨inv.valid, inv.reloads, ?_, ?_⟩
  · unfold undelivered
    rw [hsent]
    exact inv.order
  · intro attempt ha
    rcases List.mem_append.mp ha with ha | ha
    · exact inv.barrier attempt ha
    · rw [List.mem_singleton.mp ha, hdead]
      rfl

theorem sentIds_delivered (world : OutboxWorld π) (p : π) (n : Nat) :
    sentIds { world with
      attempts := world.attempts ++ [{ payload := p, deadLetters := n, sent := true }] } =
      sentIds world ++ [eventId p] := by
  simp [sentIds]

/-- Delivering the head moves it from the undelivered events to the sent ones. -/
theorem OutboxInvariant.delivered {world : OutboxWorld π} (inv : OutboxInvariant world)
    (hdead : world.state.deadLetter = []) {p : π} {rest : List π}
    (hp : world.state.pending = p :: rest) :
    OutboxInvariant { world with
      attempts := world.attempts ++
        [{ payload := p, deadLetters := world.state.deadLetter.length, sent := true }] } := by
  have hnodup : (pendingIds world.state).Nodup := inv.valid.pendingNodup
  have hpending := pendingIds_of_head hp
  rw [hpending, List.nodup_cons] at hnodup
  have hdeadIds : deadLetterIds world.state = [] := by
    unfold deadLetterIds
    rw [hdead, List.map_nil]
  refine ⟨inv.valid, inv.reloads, ?_, ?_⟩
  · have horder := inv.order
    unfold undelivered at horder ⊢
    rw [sentIds_delivered]
    change firsts world.accepted = _ ++
      (deadLetterIds world.state ++ pendingIds world.state).filter _
    rw [horder, hdeadIds, hpending, List.nil_append]
    by_cases hsent : eventId p ∈ sentIds world
    · rw [firsts_concat_of_mem hsent]
      congr 1
      apply List.filter_congr
      intro q _
      have : q ∈ sentIds world ++ [eventId p] ↔ q ∈ sentIds world := by
        rw [List.mem_append, List.mem_singleton]
        exact or_iff_left_of_imp (fun h => h ▸ hsent)
      simp only [this]
    · rw [firsts_concat_of_not_mem hsent, List.filter_cons_of_pos (by simpa using hsent),
        List.filter_cons_of_neg (by simp), List.append_assoc, List.singleton_append]
      congr 2
      apply List.filter_congr
      intro q hq
      have hne : q ≠ eventId p := fun h => hnodup.1 (h ▸ hq)
      simp [hne]
  · intro attempt ha
    rcases List.mem_append.mp ha with ha | ha
    · exact inv.barrier attempt ha
    · rw [List.mem_singleton.mp ha, hdead]
      rfl

/-- Removing a head that was sent changes nothing but the pending list. -/
theorem OutboxInvariant.popped {world : OutboxWorld π} (inv : OutboxInvariant world)
    {p : π} {rest : List π} (hp : world.state.pending = p :: rest)
    (hsent : eventId p ∈ sentIds world) :
    OutboxInvariant { world with
      state := { world.state with pending := rest }
      file := some { world.state with pending := rest } } := by
  have hpending := pendingIds_of_head hp
  have hvalid : ValidState { world.state with pending := rest } := by
    refine ⟨?_, ?_, inv.valid.deadLetterKeyed, ?_⟩
    · intro q hq
      exact inv.valid.pendingNonempty q (hp ▸ List.mem_cons_of_mem _ hq)
    · have := inv.valid.pendingNodup
      rw [hpending, List.nodup_cons] at this
      exact this.2
    · intro key hkey hmem
      apply inv.valid.disjoint key hkey
      rw [hpending]
      exact List.mem_cons_of_mem _ hmem
  refine ⟨hvalid, load_of_valid hvalid, ?_, inv.barrier⟩
  have horder := inv.order
  unfold undelivered at horder
  rw [hpending, List.filter_append, List.filter_cons_of_neg (by simpa using hsent),
    ← List.filter_append] at horder
  exact horder

/-- A rejected head becomes the first dead letter and keeps its place. -/
theorem OutboxInvariant.deadLettered {world : OutboxWorld π} (inv : OutboxInvariant world)
    (hdead : world.state.deadLetter = []) {p : π} {rest : List π}
    (hp : world.state.pending = p :: rest) {letter : DeadLetter π} (hletter : letter.payload = p) :
    OutboxInvariant { world with
      state := { pending := rest, deadLetter := world.state.deadLetter ++ [(eventId p, letter)] }
      file := some
        { pending := rest, deadLetter := world.state.deadLetter ++ [(eventId p, letter)] } } := by
  have hpending := pendingIds_of_head hp
  have hnodup := inv.valid.pendingNodup
  rw [hpending, List.nodup_cons] at hnodup
  have hne : eventId p ≠ "" := inv.valid.pendingNonempty p (by simp [hp])
  have hvalid : ValidState
      { pending := rest, deadLetter := world.state.deadLetter ++ [(eventId p, letter)] } := by
    refine ⟨?_, hnodup.2, ?_, ?_⟩
    · intro q hq
      exact inv.valid.pendingNonempty q (hp ▸ List.mem_cons_of_mem _ hq)
    · intro entry he
      simp only [hdead, List.nil_append, List.mem_singleton] at he
      subst he
      exact ⟨by simpa [hletter] using hne, by simp [hletter]⟩
    · intro key hkey
      simp only [deadLetterIds, hdead, List.nil_append, List.map_cons, List.map_nil,
        List.mem_singleton] at hkey
      exact hkey ▸ hnodup.1
  refine ⟨hvalid, load_of_valid hvalid, ?_, inv.barrier⟩
  have horder := inv.order
  unfold undelivered at horder ⊢
  rw [hpending, deadLetterIds, hdead, List.map_nil, List.nil_append] at horder
  change firsts world.accepted = firsts (sentIds world) ++
    (((world.state.deadLetter ++ [(eventId p, letter)]).map Prod.fst) ++
      rest.map eventId).filter (· ∉ sentIds world)
  rw [hdead]
  exact horder

end TradeJournalWorker
