import TradeJournalWorker.BridgeRuns
import TradeJournalWorker.DealOrder

namespace TradeJournalWorker

open FirstOccurrences

/-- The fills in the queue; balance operations wait there too, but never become events. -/
def waiting (trades : Nat → Bool) (world : BridgeWorld) : List Nat :=
  (pendingTickets world).filter trades

/-- Each ticket that arrived is published or waits, once, in the order of arrival. -/
def InOrder (trades : Nat → Bool) (arrived : List Nat) (world : BridgeWorld) : Prop :=
  publishedDeals world ++ waiting trades world = firsts (arrived.filter trades)

/-- The history cache tells fills from balance operations. -/
def Truthful (trades : Nat → Bool) (step : DealStep) : Prop :=
  ∀ ticket deal, step.view ticket = some deal → deal.isTrade = trades ticket

/-- No deal overtakes: one is published on arrival only if none waits, a retry finds at most
the oldest one ready, and a published deal is not delivered again. -/
def InTurn (trades : Nat → Bool) (world : BridgeWorld) : DealStep → Prop
  | .transaction (.dealAdd ticket) view _ => trades ticket = true →
      ticket ∉ publishedDeals world ∧
        (publishable (view ticket) = true → waiting trades world = [])
  | .transaction _ _ _ => True
  | .timer view env => retries env world = true →
      ∀ ticket ∈ (waiting trades world).tail, publishable (view ticket) = false

def RunInTurn (trades : Nat → Bool) : BridgeWorld → List DealStep → Prop
  | _, [] => True
  | world, step :: rest =>
    InTurn trades world step ∧ RunInTurn trades (runDealStep world step) rest

/-- The queue is never full when a deal is delivered, and tickets are not zero. -/
def NeverFull : BridgeWorld → List DealStep → Prop
  | _, [] => True
  | world, step :: rest => Deliverable world step ∧ NeverFull (runDealStep world step) rest

section Step

variable {trades : Nat → Bool} {world : BridgeWorld} {arrived : List Nat} {step : DealStep}

theorem Truthful.trade_of_publishable (h : Truthful trades step) {ticket : Nat}
    (hpub : publishable (step.view ticket) = true) : trades ticket = true := by
  cases hview : step.view ticket with
  | none =>
    rw [hview] at hpub
    cases hpub
  | some deal =>
    rw [hview] at hpub
    rw [← h ticket deal hview]
    exact (of_decide_eq_true hpub).1

theorem Truthful.publishable_eq_handled (h : Truthful trades step) {ticket : Nat}
    (htrade : trades ticket = true) :
    handled (step.view ticket) = publishable (step.view ticket) := by
  cases hview : step.view ticket with
  | none => rfl
  | some deal =>
    rw [← h ticket deal hview] at htrade
    cases hpub : publishable (some deal) with
    | true => exact handled_of_publishable hpub
    | false =>
      cases hdone : handled (some deal) with
      | false => rfl
      | true => rw [publishable_of_handled hdone htrade] at hpub; cases hpub

/-- What a retry publishes and keeps, seen on the fills alone. -/
theorem Truthful.published_of_retry (h : Truthful trades step) (queue : List Nat) :
    queue.filter (fun t => publishable (step.view t)) =
      (queue.filter trades).filter fun t => publishable (step.view t) := by
  rw [List.filter_filter]
  apply List.filter_congr
  intro ticket _
  cases hpub : publishable (step.view ticket) with
  | false => rfl
  | true => rw [h.trade_of_publishable hpub]; rfl

theorem Truthful.kept_of_retry (h : Truthful trades step) (queue : List Nat) :
    (queue.filter fun t => ! handled (step.view t)).filter trades =
      (queue.filter trades).filter fun t => ! publishable (step.view t) := by
  rw [List.filter_filter, List.filter_filter]
  apply List.filter_congr
  intro ticket _
  cases htrade : trades ticket with
  | false => simp
  | true => rw [h.publishable_eq_handled htrade]; simp

end Step

/-- Publishing backwards keeps the order only when at most the first is ready. -/
theorem reverse_filter_append {ready : Nat → Bool} {queue : List Nat}
    (h : ∀ ticket ∈ queue.tail, ready ticket = false) :
    (queue.filter ready).reverse ++ queue.filter (fun t => ! ready t) = queue := by
  cases queue with
  | nil => rfl
  | cons first rest =>
    have hrest : rest.filter ready = [] := by
      apply List.filter_eq_nil_iff.mpr
      intro ticket hmem
      rw [h ticket hmem]
      exact Bool.false_ne_true
    have hkept : rest.filter (fun t => ! ready t) = rest := by
      apply List.filter_eq_self.mpr
      intro ticket hmem
      rw [h ticket hmem]
      rfl
    cases hfirst : ready first <;> simp [hfirst, hrest, hkept]

theorem tail_not_ready {ready : Nat → Bool} {queue more others : List Nat} (hnodup : queue.Nodup)
    (heq : (queue.filter ready).reverse ++ more = queue ++ others) :
    ∀ ticket ∈ queue.tail, ready ticket = false := by
  cases queue with
  | nil => exact fun ticket hmem => absurd hmem List.not_mem_nil
  | cons first rest =>
    intro ticket hmem
    by_contra hready
    have hready : ready ticket = true := by simpa using hready
    have hin : ticket ∈ rest.filter ready := List.mem_filter.mpr ⟨hmem, hready⟩
    -- The last of the ready ones would have to be the first of the queue.
    obtain ⟨before, last, hlast⟩ : ∃ before last, rest.filter ready = before ++ [last] := by
      have hne : rest.filter ready ≠ [] := List.ne_nil_of_mem hin
      exact ⟨_, _, (List.dropLast_append_getLast hne).symm⟩
    have hfilter : ∃ ahead, (first :: rest).filter ready = ahead ++ [last] := by
      rw [List.filter_cons]
      split
      · exact ⟨first :: before, by rw [hlast]; rfl⟩
      · exact ⟨before, hlast⟩
    obtain ⟨ahead, hahead⟩ := hfilter
    rw [hahead, List.reverse_append] at heq
    have hfirst : last = first := (List.cons.inj heq).1
    have hlastmem : last ∈ rest := by
      have hmem' : last ∈ rest.filter ready := by rw [hlast]; simp
      exact (List.mem_filter.mp hmem').1
    rw [hfirst] at hlastmem
    exact (List.nodup_cons.mp hnodup).1 hlastmem

section Runs

variable {trades : Nat → Bool}

/-- What is left of the arrivals after a step. -/
def DealStep.arrived (step : DealStep) : List Nat := step.arrival.toList

theorem inOrder_step {world : BridgeWorld} {arrived : List Nat} {step : DealStep}
    (hrunning : world.running = true) (hdeliver : Deliverable world step)
    (htruthful : Truthful trades step) (horder : InOrder trades arrived world)
    (hturn : InTurn trades world step) :
    InOrder trades (arrived ++ step.arrived) (runDealStep world step) := by
  obtain ⟨hpublished, hpending, -⟩ := runDealStep_deals hrunning hdeliver
  unfold InOrder waiting at horder ⊢
  rw [hpublished, hpending]
  cases step with
  | timer view env =>
    have harrived : DealStep.arrived (.timer view env) = [] := rfl
    rw [harrived, List.append_nil]
    simp only [DealStep.publishes, DealStep.keeps]
    cases hretry : retries env world with
    | false =>
      simp only [Bool.false_eq_true, if_false, List.append_nil]
      exact horder
    | true =>
      simp only [if_true]
      have hqueue := reverse_filter_append (hturn hretry)
      unfold waiting at hqueue
      have hout := htruthful.published_of_retry (pendingTickets world)
      have hkept := htruthful.kept_of_retry (pendingTickets world)
      simp only [DealStep.view] at hout hkept
      rw [hout, hkept, List.append_assoc, hqueue]
      exact horder
  | transaction transaction view env =>
    have hquiet : ∀ unrelated, DealStep.arrived (.transaction unrelated view env) = [] →
        DealStep.publishes world (.transaction unrelated view env) = [] →
        DealStep.keeps world (.transaction unrelated view env) = pendingTickets world →
        publishedDeals world ++ DealStep.publishes world (.transaction unrelated view env) ++
          (DealStep.keeps world (.transaction unrelated view env)).filter trades =
        firsts ((arrived ++ DealStep.arrived (.transaction unrelated view env)).filter trades) := by
      intro unrelated harrived hpublishes hkeeps
      rw [harrived, hpublishes, hkeeps, List.append_nil, List.append_nil]
      exact horder
    cases transaction with
    | orderAdd => exact hquiet .orderAdd rfl rfl rfl
    | orderUpdate => exact hquiet .orderUpdate rfl rfl rfl
    | orderDelete => exact hquiet .orderDelete rfl rfl rfl
    | position => exact hquiet .position rfl rfl rfl
    | historyAdd => exact hquiet .historyAdd rfl rfl rfl
    | other => exact hquiet .other rfl rfl rfl
    | dealAdd ticket =>
      have harrived : DealStep.arrived (.transaction (.dealAdd ticket) view env) = [ticket] := rfl
      rw [harrived, List.filter_append]
      simp only [DealStep.publishes, DealStep.keeps]
      cases htrade : trades ticket with
      | false =>
        have hnot : publishable (view ticket) = false := by
          by_contra hpub
          have hpub : publishable (view ticket) = true := by simpa using hpub
          have := htruthful.trade_of_publishable hpub
          rw [htrade] at this
          cases this
        have hsame : ∀ queue : List Nat, (queue ++ [ticket]).filter trades = queue.filter trades := by
          intro queue
          simp [List.filter_append, htrade]
        have hnone : [ticket].filter trades = [] := by simp [htrade]
        rw [hnone, List.append_nil, hnot]
        simp only [Bool.false_eq_true, if_false, List.append_nil]
        split
        · exact horder
        · rw [hsame]
          exact horder
      | true =>
        obtain ⟨hfresh, hempty⟩ := hturn htrade
        have hone : [ticket].filter trades = [ticket] := by simp [htrade]
        have hdone := htruthful.publishable_eq_handled htrade
        simp only [DealStep.view] at hdone
        have hseen : ticket ∈ arrived.filter trades ↔
            ticket ∈ publishedDeals world ∨ ticket ∈ (pendingTickets world).filter trades := by
          rw [← mem_firsts, ← horder, List.mem_append]
        rw [hone, hdone]
        cases hpub : publishable (view ticket) with
        | true =>
          have hnone : (pendingTickets world).filter trades = [] := hempty hpub
          have hnew : ticket ∉ arrived.filter trades := by
            rw [hseen, hnone]
            simp [hfresh]
          rw [firsts_concat_of_not_mem hnew, ← horder, hnone]
          simp [hnone]
        | false =>
          simp only [Bool.false_eq_true, if_false, List.append_nil, false_or]
          split
          next hmem =>
            have hold : ticket ∈ arrived.filter trades :=
              hseen.mpr (Or.inr (List.mem_filter.mpr ⟨hmem, htrade⟩))
            rw [firsts_concat_of_mem hold]
            exact horder
          next hmem =>
            have hnew : ticket ∉ arrived.filter trades := by
              intro hin
              rcases hseen.mp hin with hin | hin
              · exact hfresh hin
              · exact hmem (List.mem_filter.mp hin).1
            rw [firsts_concat_of_not_mem hnew, ← horder, List.filter_append, hone,
              List.append_assoc]

/-- A fill in the queue is published by the step or stays there. -/
theorem waiting_step {world : BridgeWorld} {step : DealStep} (hrunning : world.running = true)
    (hdeliver : Deliverable world step) (htruthful : Truthful trades step) {ticket : Nat}
    (hwaits : ticket ∈ waiting trades world) :
    ticket ∈ step.publishes world ∨ ticket ∈ waiting trades (runDealStep world step) := by
  obtain ⟨-, hpending, -⟩ := runDealStep_deals hrunning hdeliver
  obtain ⟨hmem, htrade⟩ := List.mem_filter.mp hwaits
  have hkept : ticket ∈ step.keeps world → ticket ∈ waiting trades (runDealStep world step) := by
    intro hin
    unfold waiting
    rw [hpending]
    exact List.mem_filter.mpr ⟨hin, htrade⟩
  cases step with
  | timer view env =>
    simp only [DealStep.publishes, DealStep.keeps] at hkept ⊢
    cases hretry : retries env world with
    | false =>
      rw [hretry] at hkept
      exact Or.inr (hkept hmem)
    | true =>
      rw [hretry] at hkept
      have hdone := htruthful.publishable_eq_handled htrade
      simp only [DealStep.view] at hdone
      cases hpub : publishable (view ticket) with
      | true =>
        refine Or.inl ?_
        simp only [if_true, List.mem_reverse]
        exact List.mem_filter.mpr ⟨hmem, hpub⟩
      | false =>
        refine Or.inr (hkept ?_)
        simp only [if_true]
        refine List.mem_filter.mpr ⟨hmem, ?_⟩
        rw [hdone, hpub]
        rfl
  | transaction transaction view env =>
    refine Or.inr (hkept ?_)
    cases transaction with
    | dealAdd other =>
      simp only [DealStep.keeps]
      split
      · exact hmem
      · exact List.mem_append_left _ hmem
    | orderAdd => exact hmem
    | orderUpdate => exact hmem
    | orderDelete => exact hmem
    | position => exact hmem
    | historyAdd => exact hmem
    | other => exact hmem

/-- A run only adds to what is published, and by its end it has published what waited. -/
theorem published_later {steps : List DealStep} {world : BridgeWorld}
    (hrunning : world.running = true) (hroom : NeverFull world steps)
    (htruthful : ∀ step ∈ steps, Truthful trades step)
    (hcomplete : waiting trades (runDeals world steps) = []) :
    ∃ more, publishedDeals (runDeals world steps) = publishedDeals world ++ more ∧
      ∀ ticket ∈ waiting trades world, ticket ∈ more := by
  induction steps generalizing world with
  | nil =>
    refine ⟨[], (List.append_nil _).symm, fun ticket hwaits => ?_⟩
    have hnone : waiting trades world = [] := hcomplete
    rwa [hnone] at hwaits
  | cons step rest ih =>
    obtain ⟨hdeliver, hlater⟩ := hroom
    obtain ⟨hpublished, -, hgoes⟩ := runDealStep_deals hrunning hdeliver
    have hstep : Truthful trades step := htruthful step List.mem_cons_self
    obtain ⟨more, hmore, hall⟩ := ih hgoes hlater
      (fun later hmem => htruthful later (List.mem_cons_of_mem _ hmem)) hcomplete
    refine ⟨step.publishes world ++ more, ?_, fun ticket hwaits => ?_⟩
    · rw [← List.append_assoc, ← hpublished]
      exact hmore
    · rcases waiting_step hrunning hdeliver hstep hwaits with hout | hstays
      · exact List.mem_append_left _ hout
      · exact List.mem_append_right _ (hall ticket hstays)

theorem arrivals_cons (step : DealStep) (rest : List DealStep) :
    arrivals (step :: rest) = step.arrived ++ arrivals rest := by
  unfold arrivals DealStep.arrived
  cases h : step.arrival <;> simp [h]

/-- A complete run in order took its first step in turn. -/
theorem inTurn_of_ordered {world : BridgeWorld} {arrived : List Nat} {step : DealStep}
    {rest : List DealStep} (hrunning : world.running = true)
    (hroom : NeverFull world (step :: rest))
    (htruthful : ∀ later ∈ step :: rest, Truthful trades later)
    (horder : InOrder trades arrived world)
    (hcomplete : waiting trades (runDeals world (step :: rest)) = [])
    (hordered : publishedDeals (runDeals world (step :: rest)) =
      firsts ((arrived ++ arrivals (step :: rest)).filter trades)) :
    InTurn trades world step := by
  obtain ⟨hdeliver, hlater⟩ := hroom
  obtain ⟨hpublished, hpending, hgoes⟩ := runDealStep_deals hrunning hdeliver
  have hstep : Truthful trades step := htruthful step List.mem_cons_self
  obtain ⟨more, hmore, hall⟩ := published_later hgoes hlater
    (fun later hmem => htruthful later (List.mem_cons_of_mem _ hmem)) hcomplete
  have hend : publishedDeals (runDeals world (step :: rest)) =
      publishedDeals world ++ (step.publishes world ++ more) := by
    rw [← List.append_assoc, ← hpublished]
    exact hmore
  -- The end of the run lists every ticket once and begins with what was due before the step.
  have hnodup : (publishedDeals world ++ (step.publishes world ++ more)).Nodup := by
    rw [← hend, hordered]
    exact nodup_firsts _
  have hfront : publishedDeals world ++ waiting trades world <+:
      publishedDeals world ++ (step.publishes world ++ more) := by
    rw [← hend, hordered, List.filter_append]
    unfold InOrder at horder
    rw [horder]
    exact firsts_prefix _ _
  obtain ⟨others, hothers⟩ := hfront
  rw [List.append_assoc] at hothers
  have hnext : step.publishes world ++ more = waiting trades world ++ others :=
    (List.append_cancel_left hothers).symm
  obtain ⟨-, hnodupLater, hapart⟩ := List.nodup_append.mp hnodup
  cases step with
  | timer view env =>
    intro hretry
    have hout := hstep.published_of_retry (pendingTickets world)
    simp only [DealStep.view] at hout
    simp only [DealStep.publishes, hretry, if_true, hout] at hnext
    have hqueue : (waiting trades world).Nodup := by
      have hdue : (publishedDeals world ++ waiting trades world).Nodup := by
        unfold InOrder at horder
        rw [horder]
        exact nodup_firsts _
      exact (List.nodup_append.mp hdue).2.1
    exact tail_not_ready hqueue hnext
  | transaction transaction view env =>
    cases transaction with
    | dealAdd ticket =>
      intro htrade
      have hdone := hstep.publishable_eq_handled htrade
      simp only [DealStep.view] at hdone
      have hwaits : ticket ∈ pendingTickets (runDealStep world
          (.transaction (.dealAdd ticket) view env)) → ticket ∈ more :=
        fun hin => hall ticket (List.mem_filter.mpr ⟨hin, htrade⟩)
      rw [hpending] at hwaits
      simp only [DealStep.publishes, DealStep.keeps, hdone] at hnext hwaits hnodupLater hapart
      refine ⟨fun hold => ?_, fun hpub => ?_⟩
      · -- A second delivery of a published ticket ends in a second event.
        have hagain : ticket ∈ (if publishable (view ticket) = true then [ticket] else []) ++ more := by
          cases hpub : publishable (view ticket) with
          | true => simp
          | false =>
            rw [hpub] at hwaits
            simp only [Bool.false_eq_true, false_or] at hwaits
            refine List.mem_append_right _ (hwaits ?_)
            split
            next hmem => exact hmem
            next => simp
        exact hapart ticket hold ticket hagain rfl
      · rw [hpub] at hnext hwaits hnodupLater
        simp only [if_true, true_or] at hnext hwaits hnodupLater
        by_contra hne
        obtain ⟨oldest, others', hqueue⟩ := List.exists_cons_of_ne_nil hne
        rw [hqueue] at hnext
        have hsame : ticket = oldest := (List.cons.inj hnext).1
        have hmem : ticket ∈ pendingTickets world := by
          have hin : oldest ∈ waiting trades world := by rw [hqueue]; exact List.mem_cons_self
          rw [hsame]
          exact (List.mem_filter.mp hin).1
        exact (List.nodup_cons.mp hnodupLater).1 (hwaits hmem)
    | orderAdd => trivial
    | orderUpdate => trivial
    | orderDelete => trivial
    | position => trivial
    | historyAdd => trivial
    | other => trivial

theorem ordered_iff_runInTurn {steps : List DealStep} {world : BridgeWorld} {arrived : List Nat}
    (hrunning : world.running = true) (hroom : NeverFull world steps)
    (htruthful : ∀ step ∈ steps, Truthful trades step) (horder : InOrder trades arrived world)
    (hcomplete : waiting trades (runDeals world steps) = []) :
    publishedDeals (runDeals world steps) =
        firsts ((arrived ++ arrivals steps).filter trades) ↔ RunInTurn trades world steps := by
  induction steps generalizing world arrived with
  | nil =>
    refine ⟨fun _ => trivial, fun _ => ?_⟩
    have hnone : waiting trades world = [] := hcomplete
    unfold InOrder at horder
    rw [hnone, List.append_nil] at horder
    have harrivals : arrivals [] = [] := rfl
    rw [harrivals, List.append_nil]
    exact horder
  | cons step rest ih =>
    have hstep : Truthful trades step := htruthful step List.mem_cons_self
    have hlater : InTurn trades world step → (publishedDeals (runDeals world (step :: rest)) =
        firsts ((arrived ++ arrivals (step :: rest)).filter trades) ↔
        RunInTurn trades (runDealStep world step) rest) := by
      intro hturn
      rw [arrivals_cons, ← List.append_assoc]
      exact ih (runDealStep_deals hrunning hroom.1).2.2 hroom.2
        (fun later hmem => htruthful later (List.mem_cons_of_mem _ hmem))
        (inOrder_step hrunning hroom.1 hstep horder hturn) hcomplete
    constructor
    · intro hordered
      have hturn := inTurn_of_ordered hrunning hroom htruthful horder hcomplete hordered
      exact ⟨hturn, (hlater hturn).mp hordered⟩
    · intro hrun
      exact (hlater hrun.1).mpr hrun.2

end Runs

section Schedules

/-- A terminal in new-only mode, just started. -/
def startedBridge : BridgeWorld := runBridge {} [.start { newOnlyFlag := true }]

/-- Two fills whose history is not there yet, then a timer pass that finds both. -/
def bothLate : List DealStep :=
  [.transaction (.dealAdd 7) (fun _ => none) {}, .transaction (.dealAdd 8) (fun _ => none) {},
    .timer (fun _ => openFill) {}]

/-- The same with a timer pass that finds the first one between them. -/
def oneLate : List DealStep :=
  [.transaction (.dealAdd 7) (fun _ => none) {}, .timer (fun _ => openFill) {},
    .transaction (.dealAdd 8) (fun _ => openFill) {}]

theorem neverFull_oneLate : NeverFull startedBridge oneLate := by
  refine ⟨?_, ?_, ?_, trivial⟩
  · intro ticket h
    cases h
    decide +kernel
  · intro ticket h
    cases h
  · intro ticket h
    cases h
    decide +kernel

theorem neverFull_bothLate : NeverFull startedBridge bothLate := by
  refine ⟨?_, ?_, ?_, trivial⟩
  · intro ticket h
    cases h
    decide +kernel
  · intro ticket h
    cases h
    decide +kernel
  · intro ticket h
    cases h

/-- Both runs see nothing but fills. -/
theorem truthful_late {step : DealStep} (hmem : step ∈ bothLate ++ oneLate) :
    Truthful (fun _ => true) step := by
  have hviews : ∀ later ∈ bothLate ++ oneLate,
      later.view = (fun _ => none) ∨ later.view = fun _ => openFill := by
    intro later hlater
    simp only [bothLate, oneLate, List.cons_append, List.nil_append, List.mem_cons,
      List.not_mem_nil, or_false] at hlater
    rcases hlater with rfl | rfl | rfl | rfl | rfl | rfl <;> simp [DealStep.view]
  intro ticket deal hview
  rcases hviews step hmem with h | h
  · rw [h] at hview
    cases hview
  · rw [h] at hview
    cases hview
    rfl

end Schedules

end TradeJournalWorker
