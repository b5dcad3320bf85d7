import TradeJournalWorker.ModificationEvents
import TradeJournalWorker.PollPayloads

namespace TradeJournalWorker

open FaultProgram

/-- The payloads that reach the sender, in order. -/
def reached (world : LiveWorld) : List Payload := world.outbox.attempts.map SendAttempt.payload

def isModificationOf (kind : TicketKind) (ticket : String) (payload : Payload) : Bool :=
  payload.eventType = kind.modification ∧ payload.externalTradeId = ticket

/-- The levels of a ticket after the modifications among the payloads. -/
def replayLevels (kind : TicketKind) (ticket : String) (start : Levels)
    (payloads : List Payload) : Levels :=
  payloads.foldl (fun levels payload =>
    if isModificationOf kind ticket payload then payload.levels kind else levels) start

variable (digest : Fingerprint → String) (sampleMs : Nat)

/-- The condition on one poll: its order updates show what its snapshot shows, and a
change of the ticket is none whose event has been delivered before. -/
structure PollFresh (kind : TicketKind) (ticket : String) (world : LiveWorld)
    (reading : BridgeReading) : Prop where
  agree : kind = .order → ∀ new, kind.levels reading.snapshot ticket = some new →
    RecordsAgree (pollRecords world reading) ticket new
  fresh : ∀ old new, kind.levels world.snapshot ticket = some old →
    kind.levels reading.snapshot ticket = some new → old ≠ new →
    buildEventId digest reading.account.login
      (levelTransition kind (announced (pollRecords world reading) ticket) ticket old new) ∉ world.dedup

/-- The ticket stays open in all polls and each of them is fresh. -/
def RunFresh (kind : TicketKind) (ticket : String) : LiveWorld → List BridgeReading → Prop
  | _, [] => True
  | world, reading :: rest =>
    kind.levels reading.snapshot ticket ≠ none ∧ PollFresh digest kind ticket world reading ∧
      RunFresh kind ticket (runPoll digest sampleMs world reading) rest

/-- Replaying the modifications that reached the sender in the later polls takes the levels
of the ticket from the snapshot stored before them to the last one stored. A poll that an
unusable opening stops delivers nothing and stores nothing. -/
def Converges (kind : TicketKind) (ticket : String) (before after : List BridgeReading) : Prop :=
  ∀ start, kind.levels (runPolls digest sampleMs {} before).snapshot ticket = some start →
    kind.levels (runPolls digest sampleMs {} (before ++ after)).snapshot ticket =
      some (replayLevels kind ticket start
        ((reached (runPolls digest sampleMs {} (before ++ after))).drop
          (reached (runPolls digest sampleMs {} before)).length))

section Replay

variable {kind : TicketKind} {ticket : String}

theorem replayLevels_append (start : Levels) (first second : List Payload) :
    replayLevels kind ticket start (first ++ second) =
      replayLevels kind ticket (replayLevels kind ticket start first) second :=
  List.foldl_append

/-- Payloads that all bring the ticket to the same levels: one of them is enough, and
none of them changes nothing. -/
theorem replayLevels_eq {new : Levels} {payloads : List Payload} (start : Levels)
    (hlevels : ∀ p ∈ payloads, isModificationOf kind ticket p = true → p.levels kind = new) :
    replayLevels kind ticket start payloads =
      if payloads.any (isModificationOf kind ticket) then new else start := by
  induction payloads generalizing start with
  | nil => rfl
  | cons payload rest ih =>
    have hrest := fun p hp => hlevels p (List.mem_cons_of_mem _ hp)
    have hstep : replayLevels kind ticket start (payload :: rest) = replayLevels kind ticket
        (if isModificationOf kind ticket payload then payload.levels kind else start) rest := rfl
    rw [hstep, ih _ hrest]
    by_cases hhead : isModificationOf kind ticket payload = true
    · rw [if_pos hhead, hlevels payload List.mem_cons_self hhead]
      simp [hhead]
    · simp [hhead]

end Replay

section Step

variable {digest sampleMs} {kind : TicketKind} {ticket : String} {old new : Levels}
  {world : LiveWorld} {reading : BridgeReading}

/-- What one poll has for the ticket: nothing but the new levels, all under one id, and
at least one event when the levels have changed. -/
theorem batch_modifications {events : List RawEvent}
    (hprepared : prepareEvents world.snapshot reading.snapshot
      (detectBatch (pollRecords world reading) world.snapshot reading.snapshot) = .ok events)
    (hold : kind.levels world.snapshot ticket = some old)
    (hnew : kind.levels reading.snapshot ticket = some new)
    (hagree : kind = .order → RecordsAgree (pollRecords world reading) ticket new)
    (excursions : Excursions) :
    (∀ p ∈ (Plan.of sampleMs excursions reading events).payloads digest reading,
        isModificationOf kind ticket p = true → p.levels kind = new ∧
          eventId p = buildEventId digest reading.account.login (levelTransition kind
            (announced (pollRecords world reading) ticket) ticket old new)) ∧
      (old ≠ new → ∃ p ∈ (Plan.of sampleMs excursions reading events).payloads digest reading,
        isModificationOf kind ticket p = true) := by
  have hmerged := prepared_of_merged hprepared
  have hmodification : kind.modification ≠ .tradeOpened := by
    cases kind <;> exact EventType.noConfusion
  constructor
  · intro p hp hmod
    obtain ⟨event, hevent, excursion, rfl⟩ := mem_payloads hp
    obtain ⟨source, hsource, ⟨symbol, rfl⟩, -⟩ := exists_of_mem_right hmerged hevent
    have hkey : source.eventType = kind.modification ∧ source.ticket = ticket :=
      of_decide_eq_true hmod
    obtain ⟨hlevels, hfingerprint⟩ := merged_modification hold hnew hagree hsource hkey
    refine ⟨hlevels, buildEventId_congr hkey.1 hkey.2 ?_⟩
    rw [← hfingerprint]
    exact fingerprint_modification hkey.1 hkey.1 rfl rfl rfl
  · intro hchanged
    obtain ⟨source, hsource, hmod⟩ :=
      exists_merged_modification (pollRecords world reading) hold hnew hchanged
    obtain ⟨event, hevent, -, hsame⟩ := exists_of_mem_left hmerged hsource
    have hother : source.eventType ≠ .tradeOpened := by
      rw [hmod.1]
      exact hmodification
    obtain rfl := hsame hother
    obtain ⟨excursion, hpayload⟩ := exists_payload hevent
    exact ⟨_, hpayload, decide_eq_true hmod⟩

/-- Payloads of one account with one id are of one type and one ticket. -/
theorem payload_key {events : List RawEvent} (hdigest : HexDigits digest) {p q : Payload}
    (hp : p ∈ (Plan.of sampleMs world.excursions reading events).payloads digest reading)
    (hq : q ∈ (Plan.of sampleMs world.excursions reading events).payloads digest reading)
    (hsame : eventId p = eventId q) (hmod : isModificationOf kind ticket p = true) :
    isModificationOf kind ticket q = true := by
  obtain ⟨a, -, x, rfl⟩ := mem_payloads hp
  obtain ⟨b, -, y, rfl⟩ := mem_payloads hq
  obtain ⟨htype, hticket, -⟩ := buildEventId_inj hdigest hsame
  have hkey : a.eventType = kind.modification ∧ a.ticket = ticket := of_decide_eq_true hmod
  exact decide_eq_true ⟨htype.symm.trans hkey.1, hticket.symm.trans hkey.2⟩

theorem reached_committed (digest : Fingerprint → String) (world : LiveWorld)
    (reading : BridgeReading) (records : List EventRecord) (plan : Plan) :
    reached (committed digest world reading records plan) = reached world ++
      appendNew [] (freshPayloads world.dedup (plan.payloads digest reading)) := by
  unfold reached committed passThrough
  simp only [List.map_append, List.map_map]
  congr 1
  exact List.map_id _

/-- One poll brings the replay from the levels of the stored snapshot to those it stores. -/
theorem cleanPoll_levels (sampleMs : Nat) (hdigest : HexDigits digest)
    (hold : kind.levels world.snapshot ticket = some old)
    (hnew : kind.levels reading.snapshot ticket = some new)
    (hfresh : PollFresh digest kind ticket world reading) :
    ∃ added level, reached (cleanPoll digest sampleMs world reading) = reached world ++ added ∧
      kind.levels (cleanPoll digest sampleMs world reading).snapshot ticket = some level ∧
      replayLevels kind ticket old added = level := by
  unfold cleanPoll planPoll
  cases hprepared : prepareEvents world.snapshot reading.snapshot
      (detectBatch (pollRecords world reading) world.snapshot reading.snapshot) with
  | error error => exact ⟨[], old, (List.append_nil _).symm, hold, rfl⟩
  | ok events =>
    obtain ⟨hall, hsome⟩ := batch_modifications hprepared hold hnew
      (fun hkind => hfresh.agree hkind new hnew) world.excursions
    have hreached := reached_committed digest world reading (pollRecords world reading)
      (Plan.of sampleMs world.excursions reading events)
    refine ⟨_, new, hreached, hnew, ?_⟩
    have hadded : ∀ p ∈ appendNew [] (freshPayloads world.dedup
        ((Plan.of sampleMs world.excursions reading events).payloads digest reading)),
        p ∈ (Plan.of sampleMs world.excursions reading events).payloads digest reading :=
      fun p hp => List.mem_of_mem_filter (appendNew_subset p hp)
    rw [replayLevels_eq old fun p hp hmod => (hall p (hadded p hp) hmod).1]
    by_cases hchanged : old = new
    · rw [hchanged, ite_self]
    · obtain ⟨p, hp, hmod⟩ := hsome hchanged
      have hnotDelivered : eventId p ∉ world.dedup := by
        rw [(hall p hp hmod).2]
        exact hfresh.fresh old new hold hnew hchanged
      have hpFresh : p ∈ freshPayloads world.dedup
          ((Plan.of sampleMs world.excursions reading events).payloads digest reading) :=
        List.mem_filter.mpr ⟨hp, decide_eq_true hnotDelivered⟩
      obtain ⟨q, hq, hsame⟩ := (appendNew_covers [] hpFresh).resolve_left List.not_mem_nil
      have hany : (appendNew [] (freshPayloads world.dedup
          ((Plan.of sampleMs world.excursions reading events).payloads digest reading))).any
          (isModificationOf kind ticket) = true :=
        List.any_eq_true.mpr ⟨q, hq, payload_key hdigest hp (hadded q hq) hsame.symm hmod⟩
      rw [if_pos hany]

end Step

section Run

variable {digest sampleMs} {kind : TicketKind} {ticket : String} {world : LiveWorld}

/-- By induction on the polls: the replay of what they deliver follows the stored snapshot. -/
theorem runPolls_levels (hdigest : HexDigits digest) {readings : List BridgeReading}
    {old : Levels} (hidle : IdleOutbox world.outbox)
    (hold : kind.levels world.snapshot ticket = some old)
    (hfresh : RunFresh digest sampleMs kind ticket world readings) :
    ∃ added level, reached (runPolls digest sampleMs world readings) = reached world ++ added ∧
      kind.levels (runPolls digest sampleMs world readings).snapshot ticket = some level ∧
      replayLevels kind ticket old added = level := by
  induction readings generalizing world old with
  | nil => exact ⟨[], old, (List.append_nil _).symm, hold, rfl⟩
  | cons reading rest ih =>
    obtain ⟨hopen, hpoll, hrest⟩ := hfresh
    obtain ⟨new, hnew⟩ := Option.ne_none_iff_exists'.mp hopen
    obtain ⟨first, middle, hfirst, hmiddle, hreplay⟩ :=
      cleanPoll_levels sampleMs hdigest hold hnew hpoll
    rw [← pollOnce_clean hidle] at hfirst hmiddle
    have hidle' : IdleOutbox (runPoll digest sampleMs world reading).outbox :=
      runPoll_idle hidle reading
    obtain ⟨second, level, hsecond, hlevel, hreplay'⟩ := ih hidle' hmiddle hrest
    refine ⟨first ++ second, level, ?_, hlevel, ?_⟩
    · rw [← List.append_assoc, ← hfirst]
      exact hsecond
    · rw [replayLevels_append, hreplay, hreplay']

/-- Polls of which every one meets the condition converge. -/
theorem converges_of_runFresh (hdigest : HexDigits digest) (kind : TicketKind) (ticket : String)
    (before after : List BridgeReading)
    (hfresh : RunFresh digest sampleMs kind ticket (runPolls digest sampleMs {} before) after) :
    Converges digest sampleMs kind ticket before after := by
  intro start hstart
  have hruns : runPolls digest sampleMs {} (before ++ after) =
      runPolls digest sampleMs (runPolls digest sampleMs {} before) after := List.foldl_append
  have hidle : IdleOutbox (runPolls digest sampleMs {} before).outbox :=
    runPolls_idle ⟨rfl, rfl⟩ before
  obtain ⟨added, level, hreached, hlevel, hreplay⟩ :=
    runPolls_levels hdigest hidle hstart hfresh
  rw [hruns, hreached, List.drop_left, hlevel, hreplay]

end Run

section Repetition

theorem PollFresh.of_position {digest : Fingerprint → String} {ticket : String}
    {world : LiveWorld} {reading : BridgeReading} (old new : Levels)
    (hold : TicketKind.position.levels world.snapshot ticket = some old)
    (hnew : TicketKind.position.levels reading.snapshot ticket = some new)
    (hid : buildEventId digest reading.account.login (levelTransition .position
      (announced (pollRecords world reading) ticket) ticket old new) ∉ world.dedup) :
    PollFresh digest .position ticket world reading := by
  refine ⟨fun hkind => TicketKind.noConfusion hkind, ?_⟩
  intro old' new' hold' hnew' _
  obtain rfl : old = old' := Option.some.inj (hold.symm.trans hold')
  obtain rfl : new = new' := Option.some.inj (hnew.symm.trans hnew')
  exact hid

def stopLossPoll (stopLoss : Rat) : BridgeReading :=
  { account := { login := some "1", server := some "demo" }
    positions := [{ ticket := some "7", symbol := some "EURUSD", direction := some "buy"
                    volume := some 1, openPrice := some 1, stopLoss := some stopLoss }]
    now := "now" }

theorem converges_of_runFresh_stopLoss :
    RunFresh numbersDigest 2000 .position "7" (runPolls numbersDigest 2000 {} [stopLossPoll 1])
        [stopLossPoll 2, stopLossPoll 1] ∧
      Converges numbersDigest 2000 .position "7" [stopLossPoll 1]
        [stopLossPoll 2, stopLossPoll 1] := by
  have hfresh : RunFresh numbersDigest 2000 .position "7"
      (runPolls numbersDigest 2000 {} [stopLossPoll 1]) [stopLossPoll 2, stopLossPoll 1] := by
    refine ⟨by decide, ?_, by decide, ?_, trivial⟩
    · exact PollFresh.of_position ⟨none, some 1, none⟩ ⟨none, some 2, none⟩ (by decide +kernel) (by decide +kernel) (by decide +kernel)
    · exact PollFresh.of_position ⟨none, some 2, none⟩ ⟨none, some 1, none⟩ (by decide +kernel) (by decide +kernel) (by decide +kernel)
  exact ⟨hfresh, converges_of_runFresh hexDigits_numbersDigest .position "7" _ _ hfresh⟩

/-- The stop loss goes from 1 to 2, back to 1 and to 2 again; the last event has the id of
the first and never leaves. -/
theorem not_converges_after_repetition :
    ¬ ∀ (digest : Fingerprint → String) (sampleMs : Nat), HexDigits digest →
      ∀ (kind : TicketKind) (ticket : String) (before after : List BridgeReading),
        (∀ reading ∈ after, kind.levels reading.snapshot ticket ≠ none) →
          Converges digest sampleMs kind ticket before after := by
  intro h
  have hopen : ∀ reading ∈ [stopLossPoll 2, stopLossPoll 1, stopLossPoll 2],
      TicketKind.position.levels reading.snapshot "7" ≠ none := by decide
  have hlast := h numbersDigest 2000 hexDigits_numbersDigest .position "7" [stopLossPoll 1]
    [stopLossPoll 2, stopLossPoll 1, stopLossPoll 2] hopen ⟨none, some 1, none⟩
    (by decide +kernel)
  revert hlast
  decide +kernel

end Repetition

end TradeJournalWorker
