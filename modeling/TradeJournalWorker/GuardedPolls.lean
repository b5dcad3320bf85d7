import TradeJournalWorker.LabTexts
import TradeJournalWorker.LivePolls
import TradeJournalWorker.SecretGuard

namespace TradeJournalWorker

open FaultProgram

/-- A `connection_id` that passed `canonical_uuid`. -/
structure ConnectionId where
  text : String
  canonical : Lab.isCanonicalUuid text = true

section Documents

def textMember (key : String) (value : Option String) : List (String × JsonValue) :=
  value.toList.map fun text => (key, .str text)

def numberMember (key : String) (value : Option Rat) : List (String × JsonValue) :=
  value.toList.map fun number => (key, .float number)

def integerMember (key : String) (value : Option Int) : List (String × JsonValue) :=
  value.toList.map fun number => (key, .int number)

def PositionRow.document (row : PositionRow) : JsonValue :=
  .obj (textMember "ticket" row.ticket ++ textMember "position_id" row.positionId ++
    textMember "position_ticket" row.positionTicket ++ textMember "symbol" row.symbol ++
    textMember "direction" row.direction ++ numberMember "volume" row.volume ++
    numberMember "open_price" row.openPrice ++ numberMember "stop_loss" row.stopLoss ++
    numberMember "take_profit" row.takeProfit ++ numberMember "current_price" row.currentPrice ++
    numberMember "floating_profit" row.floatingProfit ++ numberMember "point" row.point ++
    integerMember "digits" row.digits ++ textMember "open_time" row.openTime)

def OrderRow.document (row : OrderRow) : JsonValue :=
  .obj (textMember "ticket" row.ticket ++ textMember "order_id" row.orderId ++
    textMember "position_id" row.positionId ++ textMember "position_ticket" row.positionTicket ++
    textMember "symbol" row.symbol ++ textMember "direction" row.direction ++
    numberMember "volume" row.volume ++ numberMember "price" row.price ++
    numberMember "stop_loss" row.stopLoss ++ numberMember "take_profit" row.takeProfit)

def DealRow.document (row : DealRow) : JsonValue :=
  .obj (textMember "ticket" row.ticket ++ textMember "deal_id" row.dealId ++
    textMember "position_id" row.positionId ++ textMember "position_ticket" row.positionTicket ++
    textMember "order_id" row.orderId ++ textMember "symbol" row.symbol ++
    textMember "direction" row.direction ++ numberMember "volume" row.volume ++
    numberMember "price" row.price ++ numberMember "close_price" row.closePrice ++
    numberMember "profit" row.profit ++ numberMember "commission" row.commission ++
    numberMember "swap" row.swap ++ numberMember "fee" row.fee ++
    integerMember "time_msc" row.timeMsc ++ textMember "close_time" row.closeTime)

def ExcursionState.document (state : ExcursionState) : JsonValue :=
  .obj (textMember "symbol" state.symbol ++ textMember "direction" state.direction ++
    numberMember "open_price" state.openPrice ++
    numberMember "balance_before_open" state.balanceBeforeOpen ++
    numberMember "point" state.point ++ integerMember "digits" state.digits ++
    numberMember "mfe_price_delta" state.mfePriceDelta ++ textMember "mfe_at" state.mfeAt ++
    numberMember "mae_price_delta" state.maePriceDelta ++ textMember "mae_at" state.maeAt ++
    numberMember "mfe_points" state.mfePoints ++ numberMember "mae_points" state.maePoints ++
    numberMember "mfe_money" state.mfeMoney ++ numberMember "mae_money" state.maeMoney ++
    integerMember "samples" (state.samples.map Int.ofNat))

/-- A dictionary of rows as it is written. -/
def rowsDocument {ρ : Type} (document : ρ → JsonValue) (rows : OrderedDict String ρ) : JsonValue :=
  .obj (rows.entries.map fun entry => (entry.1, document entry.2))

def Snapshot.document (snapshot : Snapshot) : JsonValue :=
  .obj [("positions", rowsDocument PositionRow.document snapshot.positions),
    ("orders", rowsDocument OrderRow.document snapshot.orders),
    ("deals", rowsDocument DealRow.document snapshot.deals)]

/-- `_persist` of the tracker. -/
def excursionsDocument (positions : Excursions) : JsonValue :=
  .obj [("version", .int 1), ("positions", rowsDocument ExcursionState.document positions)]

def checkpointDocument (connectionId : ConnectionId) (sequence : Nat) : JsonValue :=
  .obj [("connection_id", .str connectionId.text), ("last_sequence", .int sequence)]

end Documents

section Answers

variable (floats : FloatRepr) (connectionId : ConnectionId)

def changedDocument (observed : Observed) : List JsonValue :=
  if observed.changed then [excursionsDocument observed.positions] else []

def acknowledgedDocument (records : List EventRecord) : List JsonValue :=
  if records = [] then [] else [checkpointDocument connectionId (lastSequence records)]

/-- The documents that a poll hands to `atomic_json`, in order. -/
def Plan.documents (plan : Plan) (records : List EventRecord) (current : Snapshot) :
    List JsonValue :=
  changedDocument plan.opened ++ changedDocument plan.observed ++
    acknowledgedDocument connectionId records ++ [current.document] ++
      changedDocument (discardClosed plan.enriched.positions plan.enriched.closed)

/-- A poll that nothing but the guard stops. -/
def guardedEnv (sampleMs : Nat) (world : LiveWorld) (reading : BridgeReading) : LiveEnv :=
  { reading := .returned reading
    saves :=
      match planPoll sampleMs world.excursions world.snapshot (pollRecords world reading) reading with
      | .error _ => []
      | .ok plan =>
        (plan.documents connectionId (pollRecords world reading) reading.snapshot).map
          (guardAnswer () floats) }

end Answers

section Checkpoints

theorem connectionId_unmarked (connectionId : ConnectionId) :
    startsSecret connectionId.text = false := by
  apply startsSecret_of_identifier
  intro c hc
  have hcanonical := connectionId.canonical
  unfold Lab.isCanonicalUuid at hcanonical
  rw [Bool.and_eq_true, List.all_eq_true] at hcanonical
  obtain ⟨index, hindex⟩ := List.mem_iff_getElem?.mp hc
  have hmem : (c, index) ∈ connectionId.text.toList.zipIdx :=
    List.mk_mem_zipIdx_iff_getElem?.mpr hindex
  have hplace := hcanonical.2 _ hmem
  simp only at hplace
  split at hplace
  · obtain rfl : c = '-' := by simpa using hplace
    exact Or.inl (by decide)
  · have hval : c.val.toNat = c.toNat := rfl
    simp [Lab.isLowerHex, Char.isDigit, Char.le_def, UInt32.le_iff_toNat_le] at hplace
    unfold IsIdentifier
    omega

theorem checkpointDocument_accepted (floats : FloatRepr) (connectionId : ConnectionId)
    (sequence : Nat) : guardSecrets floats (checkpointDocument connectionId sequence) = .ok () := by
  rw [guardSecrets_ok_iff]
  unfold checkpointDocument Unmarked textsOf
  simp only [keyTexts, keyTexts.memberKeys, valueTexts, valueTexts.memberValues]
  have hid := connectionId_unmarked connectionId
  have hkeys : startsSecret "connection_id" = false ∧ startsSecret "last_sequence" = false := by
    decide
  simp [hid, hkeys]

end Checkpoints

section Runs

variable {floats : FloatRepr} {connectionId : ConnectionId} {digest : Fingerprint → String}
  {sampleMs : Nat} {reading : BridgeReading} {world : LiveWorld}

theorem write_done {f : LiveWorld → LiveWorld} {saves : List (WriteAnswer Unit)} :
    Program.write LiveEnv.nextSave f (savingEnv reading (.done :: saves)) world =
      (.returned (), savingEnv reading saves, f world) := rfl

theorem write_failed {f : LiveWorld → LiveWorld} {saves : List (WriteAnswer Unit)} :
    Program.write LiveEnv.nextSave f (savingEnv reading (.failed () :: saves)) world =
      (.raised .disk, savingEnv reading saves, world) := rfl

/-- The guard lets the tracker save what it changed. -/
def TrackerSaved (observed : Observed) : Prop :=
  observed.changed = true → Unmarked (excursionsDocument observed.positions)

theorem saveExcursions_saved {observed : Observed} (h : TrackerSaved observed)
    (saves : List (WriteAnswer Unit)) :
    saveExcursions observed (savingEnv reading
        ((changedDocument observed).map (guardAnswer () floats) ++ saves)) world =
      (.returned (), savingEnv reading saves,
        { world with excursions := observed.over world.excursions }) := by
  unfold saveExcursions changedDocument Observed.over
  by_cases hchanged : observed.changed = true
  · simp only [hchanged, if_true, List.map_cons, List.map_nil, List.singleton_append,
      guardAnswer_ok (guardSecrets_ok_iff.mpr (h hchanged))]
    exact write_done
  · simp only [hchanged]
    rfl

theorem saveExcursions_refused {observed : Observed} (h : ¬ TrackerSaved observed)
    (saves : List (WriteAnswer Unit)) :
    saveExcursions observed (savingEnv reading
        ((changedDocument observed).map (guardAnswer () floats) ++ saves)) world =
      (.raised .disk, savingEnv reading saves, world) := by
  unfold TrackerSaved at h
  obtain ⟨hchanged, hmarked⟩ := Classical.not_imp.mp h
  have hrefused : guardSecrets floats (excursionsDocument observed.positions) ≠ .ok () :=
    fun hok => hmarked (guardSecrets_ok_iff.mp hok)
  unfold saveExcursions changedDocument
  simp only [hchanged, if_true, List.map_cons, List.map_nil, List.singleton_append,
    guardAnswer_refused hrefused]
  exact write_failed

theorem acknowledgeRecords_saving {records : List EventRecord}
    (habove : ∀ record ∈ records, world.checkpoint < record.sequence)
    (saves : List (WriteAnswer Unit)) :
    acknowledgeRecords records (savingEnv reading
        ((acknowledgedDocument connectionId records).map (guardAnswer () floats) ++ saves)) world =
      (.returned (), savingEnv reading saves,
        { world with
          checkpoint := if records = [] then world.checkpoint else lastSequence records }) := by
  unfold acknowledgeRecords acknowledgedDocument
  rw [Program.run_bind]
  show (if records = [] then pure () else if _ then _ else _ : LiveProgram Unit)
    (savingEnv reading _) world = _
  by_cases hempty : records = []
  · simp only [hempty, if_true]
    rfl
  · obtain ⟨record, hmem⟩ := List.exists_mem_of_ne_nil records hempty
    have hlt := habove record hmem
    have hle := le_lastSequence hmem
    rw [if_neg hempty, if_neg hempty, if_neg (by omega), if_neg hempty]
    rw [List.map_cons, guardAnswer_ok (checkpointDocument_accepted _ _ _)]
    exact write_done

/-- Where the guard refuses the snapshot, the batch is in the outbox and acknowledged. -/
theorem commitBatch_refused (hidle : IdleOutbox world.outbox) {records : List EventRecord}
    (habove : ∀ record ∈ records, world.checkpoint < record.sequence) {current : Snapshot}
    (hrefused : guardSecrets floats current.document ≠ .ok ()) (enriched : Enriched)
    {fresh : List Payload} (hids : ∀ p ∈ fresh, eventId p ≠ "")
    (saves : List (WriteAnswer Unit)) :
    commitBatch current records enriched fresh (savingEnv reading
        ((acknowledgedDocument connectionId records).map (guardAnswer () floats) ++
          guardAnswer () floats current.document :: saves)) world =
      (.raised .disk, savingEnv reading saves,
        { world with
          outbox := enqueued world.outbox (appendNew [] fresh)
          checkpoint := if records = [] then world.checkpoint else lastSequence records }) := by
  unfold commitBatch
  have henqueue := enqueueMany_idle hidle hids
  rw [Program.run_bind_returned (onOutbox_saving rfl henqueue)]
  rw [Program.run_bind_returned (acknowledgeRecords_saving _ _)]
  · rw [Program.run_bind]
    unfold saveSnapshot
    rw [guardAnswer_refused hrefused, write_failed]
  · exact habove

theorem deliverBatch_refused (hidle : IdleOutbox world.outbox) {records : List EventRecord}
    (habove : ∀ record ∈ records, world.checkpoint < record.sequence) {current : Snapshot}
    (hrefused : guardSecrets floats current.document ≠ .ok ()) (enriched : Enriched)
    {fresh : List Payload} (hids : ∀ p ∈ fresh, eventId p ≠ "") (delivered : Nat)
    (saves : List (WriteAnswer Unit)) :
    (deliverBatch current records enriched fresh delivered (savingEnv reading
        ((acknowledgedDocument connectionId records).map (guardAnswer () floats) ++
          guardAnswer () floats current.document :: saves)) world).2.2 =
      { world with
        outbox := enqueued world.outbox (appendNew [] fresh)
        checkpoint := if records = [] then world.checkpoint else lastSequence records } := by
  unfold deliverBatch
  rw [Program.run_bind, commitBatch_refused hidle habove hrefused enriched hids saves]

/-- The outbox has the same messages and the checkpoint stands where it stood. -/
def Unadvanced (before after : LiveWorld) : Prop :=
  after.outbox.state = before.outbox.state ∧ after.checkpoint = before.checkpoint

/-- What keeps a poll from enqueueing and acknowledging before it comes to its snapshot: an
event is held back, the tracker is not saved, or there is nothing new. -/
def Withheld (digest : Fingerprint → String) (sampleMs : Nat) (world : LiveWorld)
    (reading : BridgeReading) : Prop :=
  match planPoll sampleMs world.excursions world.snapshot (pollRecords world reading) reading with
  | .error _ => True
  | .ok plan =>
    ¬ TrackerSaved plan.opened ∨ ¬ TrackerSaved plan.observed ∨
      pollRecords world reading = [] ∧
        freshPayloads world.dedup (plan.payloads digest reading) = []

theorem appendNew_eq_nil {fresh : List Payload} : appendNew [] fresh = [] ↔ fresh = [] := by
  cases fresh with
  | nil => simp [appendNew]
  | cons payload rest => simp [appendNew]

theorem unadvanced_committed_iff (hidle : IdleOutbox world.outbox) {records : List EventRecord}
    (habove : ∀ record ∈ records, world.checkpoint < record.sequence) (fresh : List Payload)
    (excursions : Excursions) :
    Unadvanced world { world with
      excursions := excursions
      outbox := enqueued world.outbox (appendNew [] fresh)
      checkpoint := if records = [] then world.checkpoint else lastSequence records } ↔
        records = [] ∧ fresh = [] := by
  unfold Unadvanced enqueued
  simp only [hidle.state, emptyState, OutboxState.mk.injEq, and_true, appendNew_eq_nil]
  constructor
  · rintro ⟨hfresh, hcheckpoint⟩
    refine ⟨?_, hfresh⟩
    by_contra hrecords
    rw [if_neg hrecords] at hcheckpoint
    obtain ⟨record, hmem⟩ := List.exists_mem_of_ne_nil records hrecords
    have hlt := habove record hmem
    have hle := le_lastSequence hmem
    omega
  · rintro ⟨hrecords, hfresh⟩
    exact ⟨hfresh, if_pos hrecords⟩

theorem executePlan_refused (hidle : IdleOutbox world.outbox)
    (hrefused : guardSecrets floats reading.snapshot.document ≠ .ok ()) (plan : Plan)
    (delivered : Nat) :
    Unadvanced world (executePlan digest world reading plan delivered (savingEnv reading
        ((plan.documents connectionId (pollRecords world reading) reading.snapshot).map
          (guardAnswer () floats))) world).2.2 ↔
      ¬ TrackerSaved plan.opened ∨ ¬ TrackerSaved plan.observed ∨
        pollRecords world reading = [] ∧
          freshPayloads world.dedup (plan.payloads digest reading) = [] := by
  unfold executePlan Plan.documents
  simp only [List.map_append, List.append_assoc]
  by_cases hopened : TrackerSaved plan.opened
  · rw [Program.run_bind_returned (saveExcursions_saved hopened _)]
    by_cases hobserved : TrackerSaved plan.observed
    · rw [Program.run_bind_returned (saveExcursions_saved hobserved _)]
      have habove := pollRecords_above world reading
      have hids := @freshPayloads_nonempty digest reading plan world.dedup
      rw [List.map_cons, List.map_nil, List.singleton_append,
        deliverBatch_refused ?_ ?_ hrefused plan.enriched hids delivered]
      · simp only [hopened, hobserved, not_true_eq_false, false_or]
        exact unadvanced_committed_iff hidle habove _ _
      · exact hidle
      · exact habove
    · rw [Program.run_bind, saveExcursions_refused hobserved]
      exact ⟨fun _ => Or.inr (Or.inl hobserved), fun _ => ⟨rfl, rfl⟩⟩
  · rw [Program.run_bind, saveExcursions_refused hopened]
    exact ⟨fun _ => Or.inl hopened, fun _ => ⟨rfl, rfl⟩⟩

theorem processReading_refused (hidle : IdleOutbox world.outbox)
    (hrefused : guardSecrets floats reading.snapshot.document ≠ .ok ()) (delivered : Nat) :
    Unadvanced world (processReading digest sampleMs reading world delivered
        (guardedEnv floats connectionId sampleMs world reading) world).2.2 ↔
      Withheld digest sampleMs world reading := by
  unfold guardedEnv Withheld
  cases hprepared : prepareEvents world.snapshot reading.snapshot
      (detectBatch (pollRecords world reading) world.snapshot reading.snapshot) with
  | error error =>
    rw [processReading_stops hprepared, planPoll_of_error hprepared]
    exact ⟨fun _ => trivial, fun _ => ⟨rfl, rfl⟩⟩
  | ok events =>
    rw [processReading_planned hprepared, planPoll_of_prepared hprepared]
    exact executePlan_refused hidle hrefused _ delivered

/-- A poll that refuses its snapshot leaves the outbox and the checkpoint alone exactly if
something withholds it before. -/
theorem pollOnce_refused (hidle : IdleOutbox world.outbox)
    (hrefused : guardSecrets floats reading.snapshot.document ≠ .ok ()) :
    Unadvanced world (pollOnce digest sampleMs
        (guardedEnv floats connectionId sampleMs world reading) world).2.2 ↔
      Withheld digest sampleMs world reading := by
  have hstart : pollOnce digest sampleMs (guardedEnv floats connectionId sampleMs world reading)
      world = processReading digest sampleMs reading world 0
        (guardedEnv floats connectionId sampleMs world reading) world :=
    pollOnce_idle hidle _
  rw [hstart]
  exact processReading_refused hidle hrefused 0

/-- A document whose keys are free of markers is accepted exactly if its other texts are, and a
poll whose snapshot is refused leaves the outbox and the checkpoint alone exactly if something
withholds it before. -/
theorem guard_reads_values (hidle : IdleOutbox world.outbox) :
    (∀ payload : JsonValue, (∀ key ∈ keyTexts payload, startsSecret key = false) →
      (guardSecrets floats payload = .ok () ↔
        ∀ text ∈ valueTexts payload, startsSecret text = false)) ∧
    (guardSecrets floats reading.snapshot.document = .ok () ↔
      Unmarked reading.snapshot.document) ∧
    ((guardSecrets floats reading.snapshot.document ≠ .ok () →
        Unadvanced world (pollOnce digest sampleMs
          (guardedEnv floats connectionId sampleMs world reading) world).2.2) ↔
      Unmarked reading.snapshot.document ∨ Withheld digest sampleMs world reading) := by
  refine ⟨fun payload hkeys => ?_, guardSecrets_ok_iff, ?_⟩
  · rw [guardSecrets_ok_iff]
    unfold Unmarked textsOf
    constructor
    · intro h text hmem
      exact h text (List.mem_append_right _ hmem)
    · intro h text hmem
      rcases List.mem_append.mp hmem with hkey | hvalue
      · exact hkeys text hkey
      · exact h text hvalue
  · constructor
    · intro h
      by_cases hrefused : guardSecrets floats reading.snapshot.document = .ok ()
      · exact Or.inl (guardSecrets_ok_iff.mp hrefused)
      · exact Or.inr ((pollOnce_refused hidle hrefused).mp (h hrefused))
    · intro h hrefused
      rcases h with hunmarked | hwithheld
      · exact absurd (guardSecrets_ok_iff.mpr hunmarked) hrefused
      · exact (pollOnce_refused hidle hrefused).mpr hwithheld

end Runs

def someConnection : ConnectionId where
  text := "0b9f0c1e-6a52-4d3b-8f6e-1c2d3e4f5a6b"
  canonical := by decide

/-- A new order on a symbol that begins like a marker, and the event file that tells of it. -/
def tokenReading : BridgeReading where
  account := { login := some "1", server := some "demo" }
  orders := [
    { ticket := some "7", symbol := some "TOKENUSD", volume := some 1, price := some 2 }]
  files := [{ sequence := 1, eventType := .orderAdd, ticket := "7", orderId := some "7" }]

theorem tokenReading_idle : IdleOutbox ({} : LiveWorld).outbox := ⟨rfl, rfl⟩

theorem guard_reads_values_token :
    (guardSecrets wholeFloats (.obj [("symbol", .str "TOKENUSD")]) = .ok () ↔
      ∀ text ∈ ["TOKENUSD"], startsSecret text = false) ∧
    ((guardSecrets wholeFloats tokenReading.snapshot.document ≠ .ok () →
        Unadvanced {} (pollOnce (fun _ => "0") 250
          (guardedEnv wholeFloats someConnection 250 {} tokenReading) {}).2.2) ↔
      Unmarked tokenReading.snapshot.document ∨
        Withheld (fun _ => "0") 250 {} tokenReading) := by
  have h := @guard_reads_values wholeFloats someConnection (fun _ => "0") 250 tokenReading {}
    tokenReading_idle
  exact ⟨h.1 (.obj [("symbol", .str "TOKENUSD")]) (by decide +kernel), h.2.2⟩

theorem tokenReading_advanced :
    (∀ key ∈ keyTexts tokenReading.snapshot.document, startsSecret key = false) ∧
    guardSecrets wholeFloats tokenReading.snapshot.document ≠ .ok () ∧
    ¬ Unadvanced {} (pollOnce (fun _ => "0") 250
      (guardedEnv wholeFloats someConnection 250 {} tokenReading) {}).2.2 := by
  have hmarked : hasMarker (dumps wholeFloats tokenReading.snapshot.document) = true := by
    decide +kernel
  have hrefused : guardSecrets wholeFloats tokenReading.snapshot.document ≠ .ok () := by
    unfold guardSecrets
    rw [if_pos hmarked]
    intro h
    cases h
  refine ⟨by decide +kernel, hrefused, ?_⟩
  intro h
  have hcheckpoint : (pollOnce (fun _ => "0") 250
      (guardedEnv wholeFloats someConnection 250 {} tokenReading) {}).2.2.checkpoint = 1 := by
    decide +kernel
  have hkept := h.2
  rw [hcheckpoint] at hkept
  cases hkept

end TradeJournalWorker
