import TradeJournalWorker.DealQueue
import TradeJournalWorker.FirstOccurrences

namespace TradeJournalWorker

open FaultProgram FirstOccurrences

section Handlers

variable {published pending : List Nat} {views : List (Option DealView)}

theorem publish_bundle_deals (file : BundleFile) (sequence : Int) :
    Triple (Deals published pending views) (publish (.bundle file) sequence none)
      (returning (fun _ => Deals published pending views) never) := by
  refine (publish_deals (.bundle file) sequence none).weaken (fun _ _ hw => hw) ?_
  refine returning_mono ?_ fun _ _ h => h
  intro ok env world hw
  have hdeals := hw.2
  rwa [Option.toList_none, List.append_nil] at hdeals

theorem publishFiles_deals (sequence : Int) (files : List BundleFile) :
    Triple (Deals published pending views) (publishFiles sequence files)
      (returning (fun _ => Deals published pending views) never) := by
  induction files with
  | nil => exact triple_pure _ fun env world hw => hw
  | cons file rest ih =>
    unfold publishFiles
    refine triple_returning (publish_bundle_deals file sequence) fun ok => ?_
    exact triple_returning ih fun others => triple_pure _ fun env world hw => hw

theorem commitHistory_deals (sequence : Int) :
    Triple (Deals published pending views) (commitHistory sequence)
      (returning (fun _ => Deals published pending views) never) := by
  unfold commitHistory
  refine triple_returning (publish_bundle_deals _ sequence) fun committed => ?_
  apply triple_modifyWorld
  intro env world hw
  cases committed with
  | false => exact hw
  | true => exact ⟨hw.faultless, hw.views, hw.published, hw.pending, hw.running⟩

theorem writeNewOnlySnapshot_deals (sequence : Int) :
    Triple (Deals published pending views) (writeNewOnlySnapshot sequence)
      (returning (fun _ => Deals published pending views) never) := by
  unfold writeNewOnlySnapshot
  refine triple_returning (publishFiles_deals sequence newOnlyFiles) fun snapshotOk => ?_
  cases snapshotOk with
  | false => exact triple_pure _ fun env world hw => hw
  | true =>
    exact triple_returning (publish_bundle_deals _ sequence) fun _ =>
      triple_pure _ fun env world hw => hw

theorem writeHistorySnapshot_deals (sequence : Int) :
    Triple (Deals published pending views) (writeHistorySnapshot sequence)
      (returning (fun _ => Deals published pending views) never) := by
  unfold writeHistorySnapshot
  apply triple_readEnv
  intro start
  have hdeals : Triple (Deals published pending views) (do
      let snapshotOk ← publishFiles sequence historyFiles
      if snapshotOk && start.ledgerUnchanged then commitHistory sequence else return ())
      (returning (fun _ => Deals published pending views) never) := by
    refine triple_returning (publishFiles_deals sequence historyFiles) fun snapshotOk => ?_
    split
    · exact commitHistory_deals sequence
    · exact triple_pure _ fun env world hw => hw
  split
  · exact triple_pure _ fun env world hw => hw.1
  · exact fun env world hw => hdeals env world hw.1

theorem writeAllSnapshots_deals :
    Triple (Deals published pending views) writeAllSnapshots
      (returning (fun _ => Deals published pending views) never) := by
  unfold writeAllSnapshots
  apply triple_read
  intro start env world hw
  have hdeals := hw.1
  revert hdeals
  generalize env = env', world = world'
  revert env' world'
  split
  · exact triple_returning (publish_bundle_deals _ _) fun _ =>
      triple_pure _ fun env world hw => hw
  · refine triple_returning (counter_deals fun world => world.eventSeq + 1) fun _ => ?_
    split
    · exact writeNewOnlySnapshot_deals _
    · exact writeHistorySnapshot_deals _

theorem queuePendingDealEvent_deals {ticket : Nat} (hticket : ticket ≠ 0)
    (hroom : pending.length < maxPendingDealEvents) :
    Triple (Deals published pending views) (queuePendingDealEvent ticket)
      (returning (fun _ => Deals published
        (if ticket ∈ pending then pending else pending ++ [ticket]) views) never) := by
  unfold queuePendingDealEvent
  apply triple_readEnv
  intro start
  apply triple_read
  rintro world env world' ⟨⟨hw, rfl⟩, rfl⟩
  have hmem : (ticket ∈ world'.pendingDeals.map Prod.fst) = (ticket ∈ pending) :=
    congrArg (ticket ∈ ·) hw.pending
  have hlength : ¬ maxPendingDealEvents ≤ world'.pendingDeals.length := by
    have hmap : (pendingTickets world').length = world'.pendingDeals.length := List.length_map _
    rw [hw.pending] at hmap
    omega
  simp only [hmem, hticket, hlength, hw.faultless.queueRoom, if_false, not_true_eq_false]
  split
  · exact hw
  · have hqueued : ∀ queue : List (Nat × Nat), queue.map Prod.fst = pending →
        (queue ++ [(ticket, 0)]).map Prod.fst = pending ++ [ticket] := by
      intro queue hqueue
      rw [List.map_append, hqueue]
      rfl
    exact triple_returning (queue_deals (· ++ [(ticket, 0)]) hqueued)
      (fun _ => triple_pure _ fun env world hw => hw) env world' hw

end Handlers

/-- Something happens in a running terminal whose file system works; `view` is what the history
cache shows of each deal meanwhile. -/
inductive DealStep where
  | transaction (transaction : Transaction) (view : Nat → Option DealView) (env : BridgeEnv)
  | timer (view : Nat → Option DealView) (env : BridgeEnv)

def BridgeEnv.working (env : BridgeEnv) (views : List (Option DealView)) : BridgeEnv :=
  { env with cursorWrites := [], publishes := [], queueRoom := true, deals := views }

theorem BridgeEnv.working_faultless (env : BridgeEnv) (views : List (Option DealView)) :
    Faultless (env.working views) := ⟨rfl, rfl, rfl⟩

/-- The deal tickets a step delivers. -/
def DealStep.arrival : DealStep → Option Nat
  | .transaction (.dealAdd ticket) _ _ => some ticket
  | _ => none

def DealStep.view : DealStep → Nat → Option DealView
  | .transaction _ view _ => view
  | .timer view _ => view

def arrivals (steps : List DealStep) : List Nat := steps.filterMap DealStep.arrival

/-- The looks at the history cache in the order in which the handler takes them. -/
def DealStep.toBridge (world : BridgeWorld) : DealStep → BridgeStep
  | .transaction (.dealAdd ticket) view env =>
    .transaction (.dealAdd ticket) (env.working [view ticket])
  | .transaction unrelated _ env => .transaction unrelated (env.working [])
  | .timer view env => .timer (env.working ((pendingTickets world).reverse.map view))

def runDealStep (world : BridgeWorld) (step : DealStep) : BridgeWorld :=
  runBridgeStep world (step.toBridge world)

def runDeals (world : BridgeWorld) (steps : List DealStep) : BridgeWorld :=
  steps.foldl runDealStep world

/-- `OnTimer` gets past the startup grace. -/
def retries (env : BridgeEnv) (world : BridgeWorld) : Bool :=
  (world.newOnly || env.newOnlyFlag) → env.graceOver

/-- What a step publishes. -/
def DealStep.publishes (world : BridgeWorld) : DealStep → List Nat
  | .transaction (.dealAdd ticket) view _ => if publishable (view ticket) then [ticket] else []
  | .transaction _ _ _ => []
  | .timer view env =>
    if retries env world then
      ((pendingTickets world).filter fun t => publishable (view t)).reverse
    else []

/-- What a step leaves in the queue. -/
def DealStep.keeps (world : BridgeWorld) : DealStep → List Nat
  | .transaction (.dealAdd ticket) view _ =>
    if handled (view ticket) ∨ ticket ∈ pendingTickets world then pendingTickets world
    else pendingTickets world ++ [ticket]
  | .transaction _ _ _ => pendingTickets world
  | .timer view env =>
    if retries env world then (pendingTickets world).filter fun t => ! handled (view t)
    else pendingTickets world

/-- What the terminal checks before it queues a deal. -/
def Deliverable (world : BridgeWorld) (step : DealStep) : Prop :=
  ∀ ticket, step.arrival = some ticket →
    ticket ≠ 0 ∧ (pendingTickets world).length < maxPendingDealEvents

section Steps

variable {published pending : List Nat} {views : List (Option DealView)}

theorem switchMode_deals (start : BridgeEnv) (startWorld : BridgeWorld) :
    Triple (fun env world => Deals published pending views env world ∧ env = start ∧
        world = startWorld) switchMode
      (returning (fun _ env world => Deals published pending views env world ∧ env = start ∧
        world.newOnly = (startWorld.newOnly || start.newOnlyFlag)) never) := by
  rintro env world ⟨hw, rfl, rfl⟩
  unfold switchMode
  simp only [Program.run_bind, Program.getEnv, Program.modifyWorld]
  split
  next hswitch =>
    refine ⟨⟨hw.faultless, hw.views, hw.published, hw.pending, hw.running⟩, rfl, ?_⟩
    simp [hswitch.2]
  next hstay =>
    refine ⟨hw, rfl, ?_⟩
    cases hnew : world.newOnly with
    | true => rfl
    | false =>
      have hflag : ¬ env.newOnlyFlag = true := fun h => hstay ⟨by simp [hnew], h⟩
      simp [hflag]

theorem onTimer_deals (view : Nat → Option DealView) (start : BridgeEnv)
    (startWorld : BridgeWorld) :
    Triple (fun env world => Deals published pending (pending.reverse.map view) env world ∧
        env = start ∧ world = startWorld) onTimer
      (returning (fun _ env world =>
        if retries start startWorld then
          Deals (published ++ (pending.filter fun t => publishable (view t)).reverse)
            (pending.filter fun t => ! handled (view t)) [] env world
        else Deals published pending (pending.reverse.map view) env world) never) := by
  unfold onTimer
  refine triple_returning (switchMode_deals start startWorld) fun _ => ?_
  apply triple_readEnv
  intro env
  apply triple_read
  rintro world env' world' ⟨⟨⟨hw, rfl, hmode⟩, rfl⟩, rfl⟩
  by_cases hgrace : world'.newOnly ∧ ¬ env'.graceOver
  · have hno : retries env' startWorld = false := by
      unfold retries
      rw [← hmode]
      simp [hgrace.1, hgrace.2]
    simp only [hgrace, hno, not_false_eq_true, and_self, if_true, Bool.false_eq_true, if_false]
    exact hw
  · have hyes : retries env' startWorld = true := by
      unfold retries
      rw [← hmode]
      cases hnew : world'.newOnly with
      | false => rfl
      | true => exact decide_eq_true fun _ => not_not.mp fun h => hgrace ⟨hnew, h⟩
    simp only [hgrace, hyes, if_true, if_false]
    refine triple_returning (retryPendingDealEvents_deals view) (fun _ => ?_) env' world'
      (by rwa [List.append_nil])
    refine triple_returning writeAllSnapshots_deals fun _ => ?_
    refine triple_returning saveCursorState_deals fun saved => ?_
    exact triple_pure _ fun env world hw => hw.2

/-- A handler that ends as it should leaves its world to the terminal. -/
theorem runHandler_deals {pre post : BridgeEnv → BridgeWorld → Prop}
    {handler : BridgeProgram Unit} (h : Triple pre handler (returning (fun _ => post) never))
    {env : BridgeEnv} {world : BridgeWorld} (hw : pre env world) :
    ∃ env', post env' (runHandler handler env world) := by
  have hpost := h env world hw
  unfold runHandler
  rcases he : handler env world with ⟨exit, env', world'⟩
  rw [he] at hpost
  cases exit with
  | returned value => exact ⟨env', hpost⟩
  | raised error => exact error.elim
  | crashed => exact hpost.elim

theorem onDealAdd_deals {ticket : Nat} (view : Option DealView) (hticket : ticket ≠ 0)
    (hroom : pending.length < maxPendingDealEvents) :
    Triple (Deals published pending [view]) (onTradeTransaction (.dealAdd ticket))
      (returning (fun _ => Deals (published ++ if publishable view then [ticket] else [])
        (if handled view ∨ ticket ∈ pending then pending else pending ++ [ticket]) []) never) := by
  unfold onTradeTransaction
  refine triple_returning (emitDealAddEvent_deals ticket view) ?_
  rintro done env world ⟨rfl, hw⟩
  cases hdone : handled view with
  | true =>
    simp only [true_or, if_true]
    exact hw
  | false =>
    simp only [Bool.false_eq_true, false_or, if_false]
    have hqueued := queuePendingDealEvent_deals hticket hroom env world hw
    rw [Program.run_bind]
    rcases hq : queuePendingDealEvent ticket env world with ⟨exit, env', world'⟩
    rw [hq] at hqueued
    cases exit with
    | returned queued => exact hqueued
    | raised error => exact error.elim
    | crashed => exact hqueued.elim

theorem emitSelectedEvent_deals :
    Triple (Deals published pending views) emitSelectedEvent
      (returning (fun _ => Deals published pending views) never) := by
  unfold emitSelectedEvent
  apply triple_readEnv
  intro start
  split
  · have hemitted : Triple (fun env world => Deals published pending views env world ∧ env = start)
        (emitEvent none) (returning (fun _ => Deals published pending views) never) := by
      refine (emitEvent_deals none).weaken (fun _ _ hw => hw.1) ?_
      refine returning_mono ?_ fun _ _ h => h
      intro ok env world hw
      have hdeals := hw.2
      rwa [Option.toList_none, List.append_nil] at hdeals
    exact triple_returning hemitted fun _ => triple_pure _ fun env world hw => hw
  · exact triple_pure _ fun env world hw => hw.1

/-- What a step does to the published deals and to the queue. -/
theorem runDealStep_deals {world : BridgeWorld} (hrunning : world.running = true)
    {step : DealStep} (hdeliver : Deliverable world step) :
    publishedDeals (runDealStep world step) = publishedDeals world ++ step.publishes world ∧
    pendingTickets (runDealStep world step) = step.keeps world ∧
    (runDealStep world step).running = true := by
  have hstart : ∀ env views, Deals (publishedDeals world) (pendingTickets world) views
      (BridgeEnv.working env views) world :=
    fun env views => ⟨env.working_faultless views, rfl, rfl, rfl, hrunning⟩
  have hsilent : ∀ {step : DealStep} {env : BridgeEnv}, runDealStep world step =
      runHandler emitSelectedEvent (env.working []) world → step.publishes world = [] →
      step.keeps world = pendingTickets world →
      publishedDeals (runDealStep world step) = publishedDeals world ++ step.publishes world ∧
      pendingTickets (runDealStep world step) = step.keeps world ∧
      (runDealStep world step).running = true := by
    intro step env hrun hpublishes hkeeps
    obtain ⟨env', hend⟩ := runHandler_deals emitSelectedEvent_deals (hstart env [])
    rw [hrun, hpublishes, hkeeps, List.append_nil]
    exact ⟨hend.published, hend.pending, hend.running⟩
  have hhandler : ∀ handler env, (if world.running = true then runHandler handler env world
      else world) = runHandler handler env world := fun handler env => if_pos hrunning
  cases step with
  | timer view env =>
    have hrun : runDealStep world (.timer view env) = runHandler onTimer
        (env.working ((pendingTickets world).reverse.map view)) world := hhandler _ _
    rw [hrun]
    obtain ⟨env', hend⟩ := runHandler_deals (onTimer_deals view (env.working _) world)
      ⟨hstart env _, rfl, rfl⟩
    have hretries : retries (env.working ((pendingTickets world).reverse.map view)) world =
        retries env world := rfl
    rw [hretries] at hend
    simp only [DealStep.publishes, DealStep.keeps]
    cases hretry : retries env world with
    | true =>
      simp only [hretry, if_true] at hend
      exact ⟨hend.published, hend.pending, hend.running⟩
    | false =>
      simp only [hretry, Bool.false_eq_true, if_false] at hend
      simp only [Bool.false_eq_true, if_false, List.append_nil]
      exact ⟨hend.published, hend.pending, hend.running⟩
  | transaction transaction view env =>
    cases transaction with
    | dealAdd ticket =>
      have hrun : runDealStep world (.transaction (.dealAdd ticket) view env) =
          runHandler (onTradeTransaction (.dealAdd ticket)) (env.working [view ticket]) world :=
        hhandler _ _
      rw [hrun]
      obtain ⟨hticket, hroom⟩ := hdeliver ticket rfl
      obtain ⟨env', hend⟩ := runHandler_deals (onDealAdd_deals (view ticket) hticket hroom)
        (hstart env _)
      exact ⟨hend.published, hend.pending, hend.running⟩
    | other =>
      have hrun : runDealStep world (.transaction .other view env) = world := hhandler _ _
      rw [hrun]
      exact ⟨(List.append_nil _).symm, rfl, hrunning⟩
    | orderAdd => exact hsilent (hhandler emitSelectedEvent _) rfl rfl
    | orderUpdate => exact hsilent (hhandler emitSelectedEvent _) rfl rfl
    | orderDelete => exact hsilent (hhandler emitSelectedEvent _) rfl rfl
    | position => exact hsilent (hhandler emitSelectedEvent _) rfl rfl
    | historyAdd => exact hsilent (hhandler emitSelectedEvent _) rfl rfl

end Steps

end TradeJournalWorker
