import TradeJournalWorker.BridgeRuns
import TradeJournalWorker.SnapshotCycles

namespace TradeJournalWorker

open FaultProgram

/-- The counter is not below the number of any part published so far. -/
def PartsBelow (world : BridgeWorld) : Prop :=
  ∀ p ∈ world.log, p.isPart = true → p.sequence ≤ world.eventSeq

/-- Parts published after `old` have numbers above those in `old`, and a terminal that runs has a
counter that will keep it so. -/
structure Ascending (old : List Publication) (world : BridgeWorld) : Prop where
  log : ∃ new, world.log = old ++ new ∧
    ∀ p ∈ new, p.isPart = true → ∀ q ∈ old, q.isPart = true → q.sequence < p.sequence
  below : world.running = true → PartsBelow world

/-- Above a bound for the old parts the new ones ascend. -/
theorem Reached.ascending {old : List Publication} {bound : Int} {world : BridgeWorld}
    (h : Reached old bound world)
    (hold : ∀ q ∈ old, q.isPart = true → q.sequence ≤ bound) :
    Ascending old world ∧ PartsBelow world := by
  obtain ⟨floor, hle, hgrown⟩ := h
  obtain ⟨new, hlog, hnew⟩ := hgrown.log
  have hcounter := hgrown.counter
  have hbelow : PartsBelow world := by
    intro p hp hpart
    rw [hlog] at hp
    rcases List.mem_append.mp hp with hp | hp
    · have := hold p hp hpart
      omega
    · have := hnew p hp hpart
      omega
  refine ⟨⟨⟨new, hlog, fun p hp hpart q hq hqpart => ?_⟩, fun _ => hbelow⟩, hbelow⟩
  have hq := hold q hq hqpart
  have hp := hnew p hp hpart
  omega

/-- A terminal that does not run has nothing to keep. -/
theorem ascending_of_log {old : List Publication} {world world' : BridgeWorld}
    (h : Ascending old world) (hlog : world'.log = world.log) (hstopped : world'.running = false) :
    Ascending old world' := by
  refine ⟨?_, fun hrun => absurd hrun (by rw [hstopped]; exact Bool.false_ne_true)⟩
  rw [hlog]
  exact h.log

theorem ascending_refl {world : BridgeWorld} (h : world.running = true → PartsBelow world) :
    Ascending world.log world :=
  ⟨⟨[], (List.append_nil _).symm, fun _ hp => absurd hp List.not_mem_nil⟩, h⟩

/-- The counter that `LoadCursorState` gives a new process. -/
def loadedSequence (env : BridgeEnv) (world : BridgeWorld) : Int :=
  match world.cursorFile with
  | none => 0
  | some content => if env.cursorReadable then extractJsonLong content eventSeqKey 0 else 0

/-- A start that gets as far as publishing loads a counter not below the parts on disk. -/
def StartAbove (env : BridgeEnv) (world : BridgeWorld) : Prop :=
  env.chartsClosed = true →
    ∀ p ∈ world.log, p.isPart = true → p.sequence ≤ loadedSequence env world

section Start

variable {start : BridgeWorld}

theorem loadCursorState_reached (env : BridgeEnv) (newOnly : Bool) :
    Reached start.log (loadedSequence env start)
      (loadCursorState env { reset start with newOnly := newOnly }).2.2 := by
  have hload : (loadCursorState env { reset start with newOnly := newOnly }).2.2.log = start.log ∧
      (loadCursorState env { reset start with newOnly := newOnly }).2.2.eventSeq =
        loadedSequence env start := by
    unfold loadCursorState loadedSequence reset
    simp only [Program.run_bind, Program.getEnv, Program.modifyWorld]
    cases start.cursorFile with
    | none => exact ⟨rfl, rfl⟩
    | some content =>
      simp only
      split <;> exact ⟨rfl, rfl⟩
  refine ⟨_, le_refl _, ⟨[], ?_, ?_⟩, hload.2.ge⟩
  · rw [hload.1, List.append_nil]
  · exact fun p hp => absurd hp List.not_mem_nil

/-- A start either gets as far as the loaded counter or gives up before it touches a file. -/
def Started (start : BridgeWorld) (initial : BridgeEnv) (world : BridgeWorld) : Prop :=
  initial.chartsClosed = true ∧ Reached start.log (loadedSequence initial start) world ∨
    world.log = start.log ∧ world.running = false

theorem preserves_started {initial : BridgeEnv} {p : BridgeProgram Unit}
    (hgrown : ∀ bound, Preserves (fun _ => Reached start.log bound) p)
    (hsame : Preserves (fun _ world => world.log = start.log ∧ world.running = false) p) :
    Preserves (fun _ => Started start initial) p := by
  intro env world hw
  rcases hw with ⟨hcharts, hreached⟩ | hgivenUp
  · exact Or.inl ⟨hcharts, hgrown _ env world hreached⟩
  · exact Or.inr (hsame env world hgivenUp)

theorem onInit_started (initial : BridgeEnv) :
    Triple (fun env world => env = initial ∧ world = reset start) onInit
      (fun exit _ world => Started start initial world ∧ (exit = .returned true →
        initial.chartsClosed = true ∧
          Reached start.log (loadedSequence initial start) world)) := by
  unfold onInit
  apply triple_readEnv
  intro env
  split
  next hcharts =>
    apply triple_pure
    rintro env' world ⟨⟨hinitial, rfl⟩, rfl⟩
    exact ⟨Or.inr ⟨rfl, rfl⟩, fun h => by cases h⟩
  next hcharts =>
    have hlater : Triple (fun env' world => env' = initial ∧ ∃ newOnly,
        world = { reset start with newOnly := newOnly }) (do
          loadCursorState
          initBackfill
          if ¬env.newOnlyFlag then writeAllSnapshots else pure ()
          return env.timerSet : BridgeProgram Bool)
        (fun _ _ => Reached start.log (loadedSequence initial start)) := by
      refine triple_seq (fun _ _ => Reached start.log (loadedSequence initial start)) ?_ fun _ => ?_
      · rintro env' world ⟨rfl, newOnly, rfl⟩
        have hreached := @loadCursorState_reached start env' newOnly
        cases (loadCursorState env' { reset start with newOnly := newOnly }).1 <;> exact hreached
      · refine preserves_bind ?_ fun _ => ?_
        · unfold initBackfill
          refine preserves_bind preserves_getWorld fun world => ?_
          split
          · refine preserves_bind (reached_of_grown fun floor => globals_grown fun world =>
              ⟨rfl, rfl⟩) fun _ => ?_
            exact preserves_bind (reached_of_grown fun floor => saveCursorState_grown) fun _ =>
              preserves_pure ()
          · exact preserves_pure ()
        · split
          · exact preserves_bind writeAllSnapshots_reached fun _ => preserves_pure _
          · exact preserves_bind (preserves_pure _) fun _ => preserves_pure _
    refine triple_seq (fun _ env' world => (env' = initial ∧ ∃ newOnly,
      world = { reset start with newOnly := newOnly }) ∧ initial.chartsClosed = true) ?_ fun _ => ?_
    · apply triple_modifyWorld
      rintro env' world ⟨⟨hinitial, rfl⟩, rfl⟩
      refine ⟨⟨hinitial, env'.newOnlyFlag, rfl⟩, ?_⟩
      rw [← hinitial]
      simpa using hcharts
    · intro env' world hw
      have hreached := hlater env' world hw.1
      exact ⟨Or.inl ⟨hw.2, hreached⟩, fun _ => ⟨hw.2, hreached⟩⟩

theorem startTerminal_ascending {initial : BridgeEnv} (habove : StartAbove initial start) :
    Triple (fun env world => env = initial ∧ world = start) startTerminal
      (fun _ _ => Ascending start.log) := by
  have hascending : ∀ {world : BridgeWorld}, Started start initial world →
      Ascending start.log world := by
    intro world hw
    rcases hw with ⟨hcharts, hreached⟩ | ⟨hlog, hstopped⟩
    · exact (hreached.ascending (habove hcharts)).1
    · refine ⟨⟨[], ?_, fun _ hp => absurd hp List.not_mem_nil⟩, ?_⟩
      · rw [hlog, List.append_nil]
      · intro hrun
        rw [hstopped] at hrun
        cases hrun
  unfold startTerminal
  refine triple_seq (fun _ env world => env = initial ∧ world = reset start) ?_ fun _ => ?_
  · apply triple_modifyWorld
    rintro env world ⟨rfl, rfl⟩
    exact ⟨rfl, rfl⟩
  · refine triple_seq (fun succeeded _ world => Started start initial world ∧
      (succeeded = true → initial.chartsClosed = true ∧
        Reached start.log (loadedSequence initial start) world)) ?_ fun succeeded => ?_
    · refine (onInit_started initial).weaken (fun _ _ hw => hw) fun exit _ world hw => ?_
      cases exit with
      | returned succeeded => exact ⟨hw.1, fun h => hw.2 (by rw [h])⟩
      | raised error => exact error.elim
      | crashed => exact hascending hw.1
    · cases succeeded with
      | true =>
        simp only [if_true]
        apply triple_modifyWorld
        intro env world hw
        obtain ⟨hcharts, floor, hle, hgrown⟩ := hw.2 trivial
        exact hascending (Or.inl ⟨hcharts, floor, hle, hgrown.of_same rfl hgrown.counter⟩)
      | false =>
        simp only [Bool.false_eq_true, if_false]
        have hdeinit : Preserves (fun _ => Started start initial) onDeinit := by
          refine preserves_started (fun bound => reached_of_grown fun floor => onDeinit_grown) ?_
          unfold onDeinit
          exact preserves_bind (saveCursorState_keeps fun text world hw => hw) fun _ =>
            preserves_pure ()
        exact hdeinit.weaken (fun _ _ hw => hw.1) fun _ _ _ hw => hascending hw

end Start

/-- The files in the order of their publication, each with the number of the step that wrote it;
a step writes at most one bundle. -/
def stamped (stamp : Nat) (world : BridgeWorld) : List BridgeStep → List (Nat × Publication)
  | [] => []
  | step :: rest =>
    let world' := runBridgeStep world step
    (world'.log.drop world.log.length).map (fun p => (stamp, p)) ++ stamped (stamp + 1) world' rest

/-- The condition on one step: a start does not fall behind the parts on disk. -/
def StepAbove (world : BridgeWorld) : BridgeStep → Prop
  | .start env => StartAbove env world
  | _ => True

def RunAbove : BridgeWorld → List BridgeStep → Prop
  | _, [] => True
  | world, step :: rest => StepAbove world step ∧ RunAbove (runBridgeStep world step) rest

section Stamps

theorem runHandler_ascending {handler : BridgeProgram Unit} {env : BridgeEnv}
    {world : BridgeWorld} {old : List Publication}
    (h : Ascending old (handler env world).2.2) : Ascending old (runHandler handler env world) := by
  unfold runHandler
  rcases he : handler env world with ⟨exit, env', world'⟩
  rw [he] at h
  cases exit with
  | returned value => exact h
  | raised error => exact error.elim
  | crashed => exact ascending_of_log h rfl rfl

/-- One step publishes its parts above those published before. -/
theorem runBridgeStep_ascending {world : BridgeWorld}
    (hbelow : world.running = true → PartsBelow world) {step : BridgeStep}
    (hstep : StepAbove world step) : Ascending world.log (runBridgeStep world step) := by
  have handled : ∀ {handler : BridgeProgram Unit} {env : BridgeEnv},
      (∀ bound, Preserves (fun _ => Reached world.log bound) handler) →
      world.running = true → Ascending world.log (runHandler handler env world) := by
    intro handler env hreached hrun
    have hstart : Reached world.log world.eventSeq world := ⟨world.eventSeq, le_refl _,
      ⟨[], (List.append_nil _).symm, fun _ hp => absurd hp List.not_mem_nil⟩, le_refl _⟩
    exact runHandler_ascending ((hreached _ env world hstart).ascending (hbelow hrun)).1
  cases step with
  | start env =>
    apply runHandler_ascending
    exact @startTerminal_ascending { world with running := false } env hstep env _ ⟨rfl, rfl⟩
  | timer env =>
    unfold runBridgeStep
    simp only
    split
    next hrun => exact handled (fun bound => onTimer_reached) hrun
    next => exact ascending_refl hbelow
  | transaction transaction env =>
    unfold runBridgeStep
    simp only
    split
    next hrun =>
      exact handled (fun bound => reached_of_grown fun floor =>
        onTradeTransaction_grown transaction) hrun
    next => exact ascending_refl hbelow
  | stop env =>
    unfold runBridgeStep
    simp only
    split
    next hrun =>
      exact ascending_of_log (handled (fun bound => reached_of_grown fun floor => onDeinit_grown)
        hrun) rfl rfl
    next => exact ascending_refl hbelow
  | crash => exact ascending_of_log (ascending_refl hbelow) rfl rfl
  | acknowledge sequence =>
    unfold runBridgeStep acknowledgeEvents
    simp only
    split
    · exact @ascending_refl { world with checkpoint := sequence } hbelow
    · exact ascending_refl hbelow

theorem Ascending.drop {old : List Publication} {world : BridgeWorld} (h : Ascending old world) :
    world.log = old ++ world.log.drop old.length ∧
      ∀ p ∈ world.log.drop old.length, p.isPart = true → ∀ q ∈ old, q.isPart = true →
        q.sequence < p.sequence := by
  obtain ⟨new, hlog, hnew⟩ := h.log
  rw [hlog, List.drop_left]
  exact ⟨rfl, hnew⟩

/-- Parts published later have numbers above the parts published before the run. -/
theorem stamped_above {steps : List BridgeStep} {world : BridgeWorld} {stamp : Nat}
    (hbelow : world.running = true → PartsBelow world) (habove : RunAbove world steps)
    {entry : Nat × Publication} (h : entry ∈ stamped stamp world steps)
    (hpart : entry.2.isPart = true) :
    ∀ q ∈ world.log, q.isPart = true → q.sequence < entry.2.sequence := by
  induction steps generalizing world stamp with
  | nil => cases h
  | cons step rest ih =>
    have hascending := runBridgeStep_ascending hbelow habove.1
    obtain ⟨hlog, hnew⟩ := hascending.drop
    rcases List.mem_append.mp h with h | h
    · obtain ⟨p, hp, rfl⟩ := List.mem_map.mp h
      exact hnew p hp hpart
    · intro q hq
      refine ih hascending.below habove.2 h q ?_
      rw [hlog]
      exact List.mem_append_left _ hq

/-- Two parts with one number come from one cycle. -/
theorem stamp_eq {steps : List BridgeStep} {world : BridgeWorld} {stamp : Nat}
    (hbelow : world.running = true → PartsBelow world) (habove : RunAbove world steps)
    {first second : Nat × Publication} (hfirst : first ∈ stamped stamp world steps)
    (hsecond : second ∈ stamped stamp world steps) (hpartFirst : first.2.isPart = true)
    (hpartSecond : second.2.isPart = true) (hsequence : first.2.sequence = second.2.sequence) :
    first.1 = second.1 := by
  induction steps generalizing world stamp with
  | nil => cases hfirst
  | cons step rest ih =>
    have hascending := runBridgeStep_ascending hbelow habove.1
    obtain ⟨hlog, -⟩ := hascending.drop
    -- A part of this step and one of a later step differ in their numbers.
    have happart : ∀ p ∈ (runBridgeStep world step).log.drop world.log.length, p.isPart = true →
        ∀ entry ∈ stamped (stamp + 1) (runBridgeStep world step) rest, entry.2.isPart = true →
        p.sequence < entry.2.sequence := by
      intro p hp hppart entry hentry hpart
      refine stamped_above hascending.below habove.2 hentry hpart p ?_ hppart
      rw [hlog]
      exact List.mem_append_right _ hp
    rcases List.mem_append.mp hfirst with hf | hf <;>
      rcases List.mem_append.mp hsecond with hs | hs
    · obtain ⟨p, -, rfl⟩ := List.mem_map.mp hf
      obtain ⟨q, -, rfl⟩ := List.mem_map.mp hs
      rfl
    · obtain ⟨p, hp, rfl⟩ := List.mem_map.mp hf
      have hlt := happart p hp hpartFirst second hs hpartSecond
      exact absurd hsequence hlt.ne
    · obtain ⟨q, hq, rfl⟩ := List.mem_map.mp hs
      have hlt := happart q hq hpartSecond first hf hpartFirst
      exact absurd hsequence hlt.ne'
    · exact ih hascending.below habove.2 hf hs

end Stamps

/-- The moments, counted in visible files, at which one attempt of `snapshot` reads its files;
`none` is a read that raises. -/
structure SnapshotReads where
  heartbeatBefore : Option Nat
  account : Option Nat
  positions : Option Nat
  orders : Option Nat
  deals : Option Nat
  heartbeatAfter : Option Nat
  deriving DecidableEq, Repr

/-- The envelopes of one attempt with the steps that wrote them. -/
structure SnapshotBundle where
  heartbeatBefore : Nat × Publication
  account : Nat × Publication
  positions : Nat × Publication
  orders : Nat × Publication
  deals : Nat × Publication
  heartbeatAfter : Nat × Publication
  deriving DecidableEq, Repr

/-- `_read_envelope`: the file as it was last published. -/
def readEnvelope (log : List (Nat × Publication)) (file : BundleFile) (moment : Option Nat) :
    Option (Nat × Publication) :=
  moment.bind fun visible =>
    (log.take visible).reverse.find? fun entry => entry.2.file = .bundle file

def readBundle (log : List (Nat × Publication)) (reads : SnapshotReads) :
    Option SnapshotBundle := do
  let heartbeatBefore ← readEnvelope log .heartbeat reads.heartbeatBefore
  let account ← readEnvelope log .account reads.account
  let positions ← readEnvelope log .positions reads.positions
  let orders ← readEnvelope log .orders reads.orders
  let deals ← readEnvelope log .deals reads.deals
  let heartbeatAfter ← readEnvelope log .heartbeat reads.heartbeatAfter
  return ⟨heartbeatBefore, account, positions, orders, deals, heartbeatAfter⟩

/-- The six sequences are one. -/
def SnapshotBundle.consistent (bundle : SnapshotBundle) : Bool :=
  [bundle.heartbeatAfter, bundle.account, bundle.positions, bundle.orders, bundle.deals].all
    fun entry => entry.2.sequence = bundle.heartbeatBefore.2.sequence

/-- `snapshot`: the first consistent attempt; a read that raises ends them all. -/
def adapterSnapshot (log : List (Nat × Publication)) : List SnapshotReads → Option SnapshotBundle
  | [] => none
  | reads :: attempts =>
    match readBundle log reads with
    | none => none
    | some bundle => if bundle.consistent then some bundle else adapterSnapshot log attempts

/-- Account, positions, orders and deals come from the same cycle. -/
def SnapshotBundle.Coherent (bundle : SnapshotBundle) : Prop :=
  bundle.positions.1 = bundle.account.1 ∧ bundle.orders.1 = bundle.account.1 ∧
    bundle.deals.1 = bundle.account.1

section Reads

variable {log : List (Nat × Publication)}

theorem readEnvelope_mem {file : BundleFile} {moment : Option Nat} {entry : Nat × Publication}
    (h : readEnvelope log file moment = some entry) :
    entry ∈ log ∧ entry.2.file = .bundle file := by
  obtain ⟨visible, -, hfind⟩ := Option.bind_eq_some_iff.mp h
  have hmem := List.mem_reverse.mp (List.mem_of_find?_eq_some hfind)
  have hfile := List.find?_some hfind
  exact ⟨List.mem_of_mem_take hmem, of_decide_eq_true hfile⟩

theorem readBundle_eq_some {reads : SnapshotReads} {bundle : SnapshotBundle}
    (h : readBundle log reads = some bundle) :
    readEnvelope log .account reads.account = some bundle.account ∧
    readEnvelope log .positions reads.positions = some bundle.positions ∧
    readEnvelope log .orders reads.orders = some bundle.orders ∧
    readEnvelope log .deals reads.deals = some bundle.deals := by
  unfold readBundle at h
  obtain ⟨before, -, h⟩ := Option.bind_eq_some_iff.mp h
  obtain ⟨account, haccount, h⟩ := Option.bind_eq_some_iff.mp h
  obtain ⟨positions, hpositions, h⟩ := Option.bind_eq_some_iff.mp h
  obtain ⟨orders, horders, h⟩ := Option.bind_eq_some_iff.mp h
  obtain ⟨deals, hdeals, h⟩ := Option.bind_eq_some_iff.mp h
  obtain ⟨after, -, h⟩ := Option.bind_eq_some_iff.mp h
  cases h
  exact ⟨haccount, hpositions, horders, hdeals⟩

theorem adapterSnapshot_eq_some {attempts : List SnapshotReads} {bundle : SnapshotBundle}
    (h : adapterSnapshot log attempts = some bundle) :
    bundle.consistent = true ∧ ∃ reads, readBundle log reads = some bundle := by
  induction attempts with
  | nil => cases h
  | cons reads rest ih =>
    unfold adapterSnapshot at h
    split at h
    next => cases h
    next read hread =>
      split at h
      next hconsistent =>
        cases h
        exact ⟨hconsistent, reads, hread⟩
      next => exact ih h

end Reads

/-- From an empty directory: whatever `snapshot` accepts during a run in which no start falls
behind the published bundles comes from one cycle. -/
theorem coherent_of_runAbove (steps : List BridgeStep) (habove : RunAbove {} steps)
    (attempts : List SnapshotReads) (bundle : SnapshotBundle)
    (haccepted : adapterSnapshot (stamped 0 {} steps) attempts = some bundle) :
    bundle.Coherent := by
  have hempty : ({} : BridgeWorld).running = true → PartsBelow {} :=
    fun hrun => absurd hrun Bool.false_ne_true
  obtain ⟨hconsistent, reads, hread⟩ := adapterSnapshot_eq_some haccepted
  obtain ⟨haccount, hpositions, horders, hdeals⟩ := readBundle_eq_some hread
  simp only [SnapshotBundle.consistent, List.all_cons, List.all_nil, Bool.and_true,
    Bool.and_eq_true, decide_eq_true_eq] at hconsistent
  obtain ⟨-, hseqAccount, hseqPositions, hseqOrders, hseqDeals⟩ := hconsistent
  have hpart : ∀ {file : BundleFile} {entry : Nat × Publication},
      entry.2.file = .bundle file → file ≠ .heartbeat → entry.2.isPart = true := by
    intro file entry hfile hne
    unfold Publication.isPart
    rw [hfile]
    exact decide_eq_true hne
  obtain ⟨hmemAccount, hfileAccount⟩ := readEnvelope_mem haccount
  have hsame : ∀ {file : BundleFile} {moment : Option Nat} {entry : Nat × Publication},
      readEnvelope (stamped 0 {} steps) file moment = some entry → file ≠ .heartbeat →
      entry.2.sequence = bundle.account.2.sequence → entry.1 = bundle.account.1 := by
    intro file moment entry hentry hne hseq
    obtain ⟨hmem, hfile⟩ := readEnvelope_mem hentry
    exact stamp_eq hempty habove hmem hmemAccount (hpart hfile hne) (hpart hfileAccount (by decide))
      hseq
  refine ⟨hsame hpositions (by decide) ?_, hsame horders (by decide) ?_,
    hsame hdeals (by decide) ?_⟩
  · rw [hseqPositions, hseqAccount]
  · rw [hseqOrders, hseqAccount]
  · rw [hseqDeals, hseqAccount]

section Restart

/-- One terminal in new-only mode with two cycles, the second of which fails to commit. -/
def uncommittedCycle : List BridgeStep :=
  [.start { newOnlyFlag := true }, .timer { newOnlyFlag := true },
    .timer { newOnlyFlag := true, publishes := [.done, .failed] }]

/-- A snapshot that reads its last file before the second cycle. -/
def readsBefore : SnapshotReads := ⟨some 6, some 6, some 6, some 6, some 6, some 6⟩

theorem coherent_of_runAbove_uncommitted :
    ∃ bundle, adapterSnapshot (stamped 0 {} uncommittedCycle) [readsBefore] = some bundle ∧
      bundle.Coherent := by
  have habove : RunAbove {} uncommittedCycle :=
    ⟨fun _ p hp => absurd hp List.not_mem_nil, trivial, trivial, trivial⟩
  have hsome : (adapterSnapshot (stamped 0 {} uncommittedCycle) [readsBefore]).isSome = true := by
    decide +kernel
  obtain ⟨bundle, hbundle⟩ := Option.isSome_iff_exists.mp hsome
  exact ⟨bundle, hbundle, coherent_of_runAbove uncommittedCycle habove [readsBefore] bundle hbundle⟩

/-- Every write of `cursor.json` fails until the terminal is restarted in an orderly way: the
first cycle of the new terminal has number 1 again. -/
def repeatedSequence : List BridgeStep :=
  [.start { cursorWrites := [.failed] }, .stop { cursorWrites := [.failed] }, .start {}]

/-- The reader falls between the account and the positions of the second terminal. -/
def readsBetween : SnapshotReads := ⟨some 12, some 15, some 15, some 15, some 15, some 15⟩

theorem not_coherent_after_restart :
    ¬ ∀ (steps : List BridgeStep) (attempts : List SnapshotReads) (bundle : SnapshotBundle),
      adapterSnapshot (stamped 0 {} steps) attempts = some bundle → bundle.Coherent := by
  intro h
  have hmixed : ∃ bundle, adapterSnapshot (stamped 0 {} repeatedSequence) [readsBetween] =
      some bundle ∧ bundle.positions.1 ≠ bundle.account.1 := by
    have hsome : (adapterSnapshot (stamped 0 {} repeatedSequence) [readsBetween]).any
        (fun bundle => bundle.positions.1 ≠ bundle.account.1) = true := by
      decide +kernel
    cases hread : adapterSnapshot (stamped 0 {} repeatedSequence) [readsBetween] with
    | none =>
      rw [hread] at hsome
      cases hsome
    | some bundle =>
      rw [hread] at hsome
      exact ⟨bundle, rfl, of_decide_eq_true hsome⟩
  obtain ⟨bundle, hread, hne⟩ := hmixed
  exact hne (h repeatedSequence [readsBetween] bundle hread).1

end Restart

end TradeJournalWorker
