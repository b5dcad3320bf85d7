import TradeJournalWorker.BridgeInvariant

namespace TradeJournalWorker

open FaultProgram

/-- A file of the bundle other than the heartbeat that commits it. -/
def Publication.isPart (p : Publication) : Bool :=
  match p.file with
  | .event => false
  | .bundle file => file ≠ .heartbeat

/-- Since `old` only files were added, parts of a bundle with numbers above `bound` and up to
`floor`, which the counter does not fall below. -/
structure Grown (old : List Publication) (bound floor : Int) (world : BridgeWorld) : Prop where
  log : ∃ new, world.log = old ++ new ∧
    ∀ p ∈ new, p.isPart = true → bound < p.sequence ∧ p.sequence ≤ floor
  counter : floor ≤ world.eventSeq

theorem Grown.of_same {old : List Publication} {bound floor : Int} {world world' : BridgeWorld}
    (h : Grown old bound floor world) (hlog : world'.log = world.log)
    (hseq : floor ≤ world'.eventSeq) : Grown old bound floor world' := by
  refine ⟨?_, hseq⟩
  rw [hlog]
  exact h.log

theorem Grown.raise {old : List Publication} {bound floor floor' : Int} {world : BridgeWorld}
    (h : Grown old bound floor world) (hle : floor ≤ floor') (hseq : floor' ≤ world.eventSeq) :
    Grown old bound floor' world := by
  obtain ⟨new, hlog, hnew⟩ := h.log
  refine ⟨⟨new, hlog, fun p hp hpart => ?_⟩, hseq⟩
  have hbounds := hnew p hp hpart
  omega

section Handlers

variable {old : List Publication} {bound floor : Int}

theorem writeJsonAtomic_keeps {inv : BridgeWorld → Prop}
    {next : BridgeEnv → FileAnswer × BridgeEnv} {text : List Char}
    {store : List Char → BridgeWorld → BridgeWorld}
    (hstore : ∀ written world, inv world → inv (store written world)) :
    Preserves (fun _ => inv) (writeJsonAtomic next text store) := by
  apply writeJsonAtomic_triple
  · exact fun _ _ hw => hw
  · exact fun _ _ hw => hw
  · exact fun _ world _ hw => hstore text world hw
  · exact fun _ world n hw _ => hstore (text.take n) world hw

theorem saveCursorState_keeps {inv : BridgeWorld → Prop}
    (hcursor : ∀ text world, inv world → inv { world with cursorFile := some text }) :
    Preserves (fun _ => inv) saveCursorState := by
  unfold saveCursorState
  exact preserves_bind preserves_getWorld fun start => writeJsonAtomic_keeps hcursor

theorem saveCursorState_grown : Preserves (fun _ => Grown old bound floor) saveCursorState :=
  saveCursorState_keeps fun _ _ hw => hw.of_same rfl hw.counter

/-- An event may have any number, a part of a bundle one between the bounds. -/
theorem publish_grown {file : PublishedFile} {sequence : Int} {deal : Option Nat}
    (hpart : ∀ p : Publication, p.file = file → p.isPart = true →
      bound < sequence ∧ sequence ≤ floor) :
    Preserves (fun _ => Grown old bound floor) (publish file sequence deal) := by
  unfold publish
  refine writeJsonAtomic_keeps fun written world hw => ?_
  obtain ⟨new, hlog, hnew⟩ := hw.log
  refine ⟨⟨new ++ [{ file := file, sequence := sequence, checkpoint := world.checkpoint
                     deal := deal }], ?_, ?_⟩, hw.counter⟩
  · simp only [hlog]
    exact List.append_assoc _ _ _
  · intro p hp
    rcases List.mem_append.mp hp with hp | hp
    · exact hnew p hp
    · obtain rfl := List.mem_singleton.mp hp
      exact hpart _ rfl

theorem publish_event_grown (sequence : Int) (deal : Option Nat) :
    Preserves (fun _ => Grown old bound floor) (publish .event sequence deal) := by
  apply publish_grown
  intro p hfile hpart
  unfold Publication.isPart at hpart
  rw [hfile] at hpart
  cases hpart

theorem publish_heartbeat_grown (sequence : Int) :
    Preserves (fun _ => Grown old bound floor) (publish (.bundle .heartbeat) sequence none) := by
  apply publish_grown
  intro p hfile hpart
  unfold Publication.isPart at hpart
  rw [hfile] at hpart
  cases hpart

/-- Only the number taken here is given back. -/
theorem buildEventJson_grown : Preserves (fun _ => Grown old bound floor) buildEventJson := by
  unfold buildEventJson
  refine triple_seq (fun _ _ world => Grown old bound floor world ∧ floor + 1 ≤ world.eventSeq) ?_
    fun _ => ?_
  · apply triple_modifyWorld
    intro env world hw
    have hcounter := hw.counter
    exact ⟨hw.of_same rfl (by simp only; omega), by simp only; omega⟩
  · refine triple_seq (fun _ _ world => Grown old bound floor world ∧
      floor + 1 ≤ world.eventSeq) ?_ fun saved => ?_
    · refine (saveCursorState_keeps fun text world hw =>
        ⟨hw.1.of_same rfl hw.1.counter, hw.2⟩).weaken (fun _ _ hw => hw) fun exit _ world hw => ?_
      cases exit with
      | returned saved => exact hw
      | raised error => exact error.elim
      | crashed => exact hw.1
    · cases saved with
      | true => exact triple_pure true fun _ world hw => hw.1
      | false =>
        simp only [Bool.false_eq_true, if_false]
        refine triple_seq (fun _ _ => Grown old bound floor) ?_ fun _ => preserves_pure false
        apply triple_modifyWorld
        intro env world hw
        exact hw.1.of_same rfl (by simp only; omega)

theorem emitEvent_grown (deal : Option Nat) :
    Preserves (fun _ => Grown old bound floor) (emitEvent deal) := by
  unfold emitEvent
  refine preserves_bind buildEventJson_grown fun reserved => ?_
  unfold writeEventAtomic
  split
  · exact preserves_bind preserves_getWorld fun world => publish_event_grown _ deal
  · exact preserves_pure false

theorem emitDealAddEvent_grown (ticket : Nat) :
    Preserves (fun _ => Grown old bound floor) (emitDealAddEvent ticket) := by
  unfold emitDealAddEvent
  have hlook : Preserves (fun _ => Grown old bound floor)
      (Program.consult BridgeEnv.nextDeal : BridgeProgram (Option DealView)) :=
    triple_consult fun _ _ hw => hw
  refine preserves_bind hlook fun answer => ?_
  cases answer with
  | none => exact preserves_pure false
  | some deal =>
    simp only
    split
    · exact preserves_pure true
    · split
      · exact preserves_pure false
      · split
        · exact preserves_pure false
        · exact emitEvent_grown _

/-- What touches neither the files nor the counter. -/
theorem globals_grown {f : BridgeWorld → BridgeWorld}
    (h : ∀ world, (f world).log = world.log ∧ (f world).eventSeq = world.eventSeq) :
    Preserves (fun _ => Grown old bound floor) (Program.modifyWorld f : BridgeProgram Unit) := by
  apply triple_modifyWorld
  intro env world hw
  obtain ⟨hlog, hseq⟩ := h world
  have := hw.counter
  exact hw.of_same hlog (by omega)

theorem retryPendingFrom_grown (n : Nat) :
    Preserves (fun _ => Grown old bound floor) (retryPendingFrom n) := by
  induction n with
  | zero => exact preserves_pure ()
  | succ i ih =>
    unfold retryPendingFrom
    refine preserves_bind preserves_getWorld fun world => ?_
    cases world.pendingDeals[i]? with
    | none => exact ih
    | some entry =>
      refine preserves_bind (globals_grown fun world => ⟨rfl, rfl⟩) fun _ => ?_
      refine preserves_bind (emitDealAddEvent_grown entry.1) fun published => ?_
      refine preserves_bind (globals_grown fun world => ?_) fun _ => ih
      split <;> exact ⟨rfl, rfl⟩

theorem publishFiles_grown {sequence : Int} (hsequence : bound < sequence ∧ sequence ≤ floor)
    (files : List BundleFile) :
    Preserves (fun _ => Grown old bound floor) (publishFiles sequence files) := by
  induction files with
  | nil => exact preserves_pure true
  | cons file rest ih =>
    unfold publishFiles
    refine preserves_bind (publish_grown fun _ _ _ => hsequence) fun ok => ?_
    exact preserves_bind ih fun others => preserves_pure _

theorem writeNewOnlySnapshot_grown {sequence : Int}
    (hsequence : bound < sequence ∧ sequence ≤ floor) :
    Preserves (fun _ => Grown old bound floor) (writeNewOnlySnapshot sequence) := by
  unfold writeNewOnlySnapshot
  refine preserves_bind (publishFiles_grown hsequence _) fun snapshotOk => ?_
  split
  · exact preserves_bind (publish_heartbeat_grown sequence) fun _ => preserves_pure ()
  · exact preserves_pure ()

theorem writeHistorySnapshot_grown {sequence : Int}
    (hsequence : bound < sequence ∧ sequence ≤ floor) :
    Preserves (fun _ => Grown old bound floor) (writeHistorySnapshot sequence) := by
  unfold writeHistorySnapshot
  refine preserves_bind preserves_getEnv fun env => ?_
  split
  · exact preserves_pure ()
  · refine preserves_bind (publishFiles_grown hsequence _) fun snapshotOk => ?_
    split
    · unfold commitHistory
      refine preserves_bind (publish_heartbeat_grown sequence) fun committed => ?_
      refine globals_grown fun world => ?_
      split <;> exact ⟨rfl, rfl⟩
    · exact preserves_pure ()

theorem queuePendingDealEvent_grown (ticket : Nat) :
    Preserves (fun _ => Grown old bound floor) (queuePendingDealEvent ticket) := by
  unfold queuePendingDealEvent
  refine preserves_bind preserves_getEnv fun env => ?_
  refine preserves_bind preserves_getWorld fun world => ?_
  split
  · exact preserves_pure false
  · split
    · exact preserves_pure true
    · split
      · exact preserves_pure false
      · split
        · exact preserves_pure false
        · exact preserves_bind (globals_grown fun world => ⟨rfl, rfl⟩) fun _ => preserves_pure true

theorem onTradeTransaction_grown (transaction : Transaction) :
    Preserves (fun _ => Grown old bound floor) (onTradeTransaction transaction) := by
  have hselected : Preserves (fun _ => Grown old bound floor) emitSelectedEvent := by
    unfold emitSelectedEvent
    refine preserves_bind preserves_getEnv fun env => ?_
    split
    · exact preserves_bind (emitEvent_grown none) fun _ => preserves_pure ()
    · exact preserves_pure ()
  unfold onTradeTransaction
  cases transaction with
  | dealAdd ticket =>
    refine preserves_bind (emitDealAddEvent_grown ticket) fun published => ?_
    split
    · exact preserves_pure ()
    · exact preserves_bind (queuePendingDealEvent_grown ticket) fun _ => preserves_pure ()
  | other => exact preserves_pure ()
  | orderAdd => exact hselected
  | orderUpdate => exact hselected
  | orderDelete => exact hselected
  | position => exact hselected
  | historyAdd => exact hselected

theorem onDeinit_grown : Preserves (fun _ => Grown old bound floor) onDeinit := by
  unfold onDeinit
  exact preserves_bind saveCursorState_grown fun _ => preserves_pure ()

/-- A cycle may have raised the floor. -/
def Reached (old : List Publication) (bound : Int) (world : BridgeWorld) : Prop :=
  ∃ floor, bound ≤ floor ∧ Grown old bound floor world

theorem reached_of_grown {α : Type} {p : BridgeProgram α}
    (h : ∀ floor, Preserves (fun _ => Grown old bound floor) p) :
    Preserves (fun _ => Reached old bound) p := by
  rintro env world ⟨floor, hle, hgrown⟩
  exact ⟨floor, hle, h floor env world hgrown⟩

/-- A cycle numbers its parts above the counter it found. -/
theorem writeAllSnapshots_reached : Preserves (fun _ => Reached old bound) writeAllSnapshots := by
  unfold writeAllSnapshots
  apply triple_read
  intro start
  split
  · refine triple_seq (fun _ _ => Reached old bound) ?_ fun _ => preserves_pure ()
    refine (reached_of_grown fun floor => publish_heartbeat_grown _).weaken
      (fun _ _ hw => hw.1) fun exit _ world hw => ?_
    cases exit <;> exact hw
  · refine triple_seq (fun _ _ world => Grown old bound (start.eventSeq + 1) world ∧
      bound ≤ start.eventSeq) ?_ fun _ => ?_
    · apply triple_modifyWorld
      rintro env world ⟨⟨floor, hle, hw⟩, rfl⟩
      have hcounter := hw.counter
      have hnext : Grown old bound floor { world with eventSeq := world.eventSeq + 1 } :=
        hw.of_same rfl (by simp only; omega)
      exact ⟨hnext.raise (by omega) (le_refl _), by omega⟩
    · intro env world hw
      have hsequence : bound < start.eventSeq + 1 ∧ start.eventSeq + 1 ≤ start.eventSeq + 1 := by
        omega
      have hreached : ∀ {p : BridgeProgram Unit},
          Preserves (fun _ => Grown old bound (start.eventSeq + 1)) p →
          Reached old bound (p env world).2.2 :=
        fun h => ⟨_, by omega, h env world hw.1⟩
      split
      · exact hreached (writeNewOnlySnapshot_grown hsequence)
      · exact hreached (writeHistorySnapshot_grown hsequence)

theorem onTimer_reached : Preserves (fun _ => Reached old bound) onTimer := by
  unfold onTimer switchMode
  refine preserves_bind (reached_of_grown fun floor => ?_) fun _ => ?_
  · refine preserves_bind preserves_getEnv fun env => globals_grown fun world => ?_
    split <;> exact ⟨rfl, rfl⟩
  · refine preserves_bind preserves_getEnv fun env => ?_
    refine preserves_bind preserves_getWorld fun world => ?_
    split
    · exact preserves_pure ()
    · refine preserves_bind (reached_of_grown fun floor => ?_) fun _ =>
        preserves_bind writeAllSnapshots_reached fun _ =>
        preserves_bind (reached_of_grown fun floor => saveCursorState_grown) fun _ =>
        preserves_pure ()
      unfold retryPendingDealEvents
      exact preserves_bind preserves_getWorld fun world => retryPendingFrom_grown _

end Handlers

end TradeJournalWorker
