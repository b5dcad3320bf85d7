import TradeJournalWorker.BridgeInvariant

namespace TradeJournalWorker

open FaultProgram

/-- The tickets of the deal events in the order of their publication. -/
def publishedDeals (world : BridgeWorld) : List Nat := world.log.filterMap Publication.deal

def pendingTickets (world : BridgeWorld) : List Nat := world.pendingDeals.map Prod.fst

/-- `EmitDealAddEvent` has all it needs for an event. -/
def publishable (view : Option DealView) : Bool :=
  match view with
  | none => false
  | some deal => deal.isTrade ∧ deal.resolvedSymbol ≠ "" ∧ 0 < deal.volume

/-- `EmitDealAddEvent` is done with the deal, with or without an event. -/
def handled (view : Option DealView) : Bool :=
  match view with
  | none => false
  | some deal => deal.isTrade → deal.resolvedSymbol ≠ "" ∧ 0 < deal.volume

theorem handled_of_publishable {view : Option DealView} (h : publishable view = true) :
    handled view = true := by
  cases view with
  | none => exact h
  | some deal =>
    have hall := of_decide_eq_true h
    exact decide_eq_true fun _ => hall.2

theorem publishable_of_handled {deal : DealView} (h : handled (some deal) = true)
    (htrade : deal.isTrade = true) : publishable (some deal) = true :=
  decide_eq_true ⟨htrade, of_decide_eq_true h htrade⟩

/-- The file system takes every write and the queue can grow. -/
structure Faultless (env : BridgeEnv) : Prop where
  cursorWrites : env.cursorWrites = []
  publishes : env.publishes = []
  queueRoom : env.queueRoom = true

theorem Faultless.nextCursorWrite {env : BridgeEnv} (h : Faultless env) :
    env.nextCursorWrite = (.done, env) := by
  cases env
  cases h.cursorWrites
  rfl

theorem Faultless.nextPublish {env : BridgeEnv} (h : Faultless env) :
    env.nextPublish = (.done, env) := by
  cases env
  cases h.publishes
  rfl

/-- A running terminal with these deals published, these in the queue and these views to come. -/
structure Deals (published pending : List Nat) (views : List (Option DealView)) (env : BridgeEnv)
    (world : BridgeWorld) : Prop where
  faultless : Faultless env
  views : env.deals = views
  published : publishedDeals world = published
  pending : pendingTickets world = pending
  running : world.running = true

/-- The programs below never raise and never crash. -/
def never (_ : BridgeEnv) (_ : BridgeWorld) : Prop := False

section Emission

variable {published pending : List Nat} {views : List (Option DealView)}

theorem saveCursorState_deals :
    Triple (Deals published pending views) saveCursorState
      (returning (fun saved env world => saved = true ∧ Deals published pending views env world)
        never) := by
  intro env world hw
  have hanswer := hw.faultless.nextCursorWrite
  unfold saveCursorState
  simp only [Program.run_bind, Program.getWorld, writeJsonAtomic, Program.consult, hanswer,
    Program.modifyWorld]
  exact ⟨rfl, hw.faultless, hw.views, hw.published, hw.pending, hw.running⟩

theorem publish_deals (file : PublishedFile) (sequence : Int) (deal : Option Nat) :
    Triple (Deals published pending views) (publish file sequence deal)
      (returning (fun ok env world => ok = true ∧
        Deals (published ++ deal.toList) pending views env world) never) := by
  intro env world hw
  have hanswer := hw.faultless.nextPublish
  unfold publish
  simp only [Program.run_bind, writeJsonAtomic, Program.consult, hanswer, Program.modifyWorld]
  refine ⟨rfl, hw.faultless, hw.views, ?_, hw.pending, hw.running⟩
  have hlog : publishedDeals { world with log := world.log ++
      [{ file := file, sequence := sequence, checkpoint := world.checkpoint, deal := deal }] } =
      publishedDeals world ++ deal.toList := by
    unfold publishedDeals
    rw [List.filterMap_append]
    cases deal <;> rfl
  rw [← hw.published]
  exact hlog

theorem counter_deals (f : BridgeWorld → Int) :
    Triple (Deals published pending views)
      (Program.modifyWorld fun world => { world with eventSeq := f world } : BridgeProgram Unit)
      (returning (fun _ => Deals published pending views) never) := by
  apply triple_modifyWorld
  exact fun env world hw => ⟨hw.faultless, hw.views, hw.published, hw.pending, hw.running⟩

theorem emitEvent_deals (deal : Option Nat) :
    Triple (Deals published pending views) (emitEvent deal)
      (returning (fun ok env world => ok = true ∧
        Deals (published ++ deal.toList) pending views env world) never) := by
  have hbuild : Triple (Deals published pending views) buildEventJson
      (returning (fun saved env world => saved = true ∧ Deals published pending views env world)
        never) := by
    unfold buildEventJson
    refine triple_returning (counter_deals fun world => world.eventSeq + 1) fun _ => ?_
    refine triple_returning saveCursorState_deals ?_
    rintro saved env world ⟨rfl, hw⟩
    exact ⟨rfl, hw⟩
  unfold emitEvent
  refine triple_returning hbuild ?_
  rintro reserved env world ⟨rfl, hw⟩
  unfold writeEventAtomic
  simp only [if_true]
  rw [Program.run_bind]
  exact publish_deals .event world.eventSeq deal env world hw

/-- One deal: it is published if its view allows, and done with or not. -/
theorem emitDealAddEvent_deals (ticket : Nat) (view : Option DealView) :
    Triple (Deals published pending (view :: views)) (emitDealAddEvent ticket)
      (returning (fun done env world => done = handled view ∧
        Deals (published ++ if publishable view then [ticket] else []) pending views env world)
        never) := by
  intro env world hw
  have hanswer : env.nextDeal = (view, { env with deals := views }) := by
    unfold BridgeEnv.nextDeal
    rw [hw.views]
    rfl
  have hrest : Deals published pending views { env with deals := views } world :=
    ⟨⟨hw.faultless.cursorWrites, hw.faultless.publishes, hw.faultless.queueRoom⟩, rfl,
      hw.published, hw.pending, hw.running⟩
  have hnone : Deals (published ++ []) pending views { env with deals := views } world := by
    rw [List.append_nil]
    exact hrest
  unfold emitDealAddEvent
  simp only [Program.run_bind, Program.consult, hanswer]
  cases view with
  | none => exact ⟨rfl, hnone⟩
  | some deal =>
    simp only
    by_cases htrade : deal.isTrade = true
    · by_cases hsymbol : deal.resolvedSymbol = ""
      · have hnot : publishable (some deal) = false := decide_eq_false fun h => h.2.1 hsymbol
        have hleft : handled (some deal) = false := decide_eq_false fun h => (h htrade).1 hsymbol
        simp only [hnot, hleft, htrade, hsymbol, not_true_eq_false, Bool.false_eq_true, if_false,
          if_true]
        exact ⟨rfl, hnone⟩
      · by_cases hvolume : deal.volume ≤ 0
        · have hnot : publishable (some deal) = false :=
            decide_eq_false fun h => absurd h.2.2 (not_lt.mpr hvolume)
          have hleft : handled (some deal) = false :=
            decide_eq_false fun h => absurd (h htrade).2 (not_lt.mpr hvolume)
          simp only [hnot, hleft, htrade, hsymbol, hvolume, not_true_eq_false, Bool.false_eq_true,
            if_false, if_true]
          exact ⟨rfl, hnone⟩
        · have hall : publishable (some deal) = true :=
            decide_eq_true ⟨htrade, hsymbol, not_le.mp hvolume⟩
          have hdone := handled_of_publishable hall
          simp only [hall, hdone, htrade, hsymbol, hvolume, not_true_eq_false, if_false, if_true]
          exact emitEvent_deals (some ticket) _ world hrest
    · have hnot : publishable (some deal) = false := decide_eq_false fun h => htrade h.1
      have hdone : handled (some deal) = true := decide_eq_true fun h => absurd h htrade
      simp only [hnot, hdone, htrade, not_false_eq_true, Bool.false_eq_true, if_false, if_true]
      exact ⟨rfl, hnone⟩

end Emission

section Retry

variable {published pending : List Nat} {views : List (Option DealView)}

theorem queue_deals (f : List (Nat × Nat) → List (Nat × Nat)) {pending' : List Nat}
    (hf : ∀ queue, queue.map Prod.fst = pending → (f queue).map Prod.fst = pending') :
    Triple (Deals published pending views)
      (Program.modifyWorld fun world => { world with pendingDeals := f world.pendingDeals } :
        BridgeProgram Unit)
      (returning (fun _ => Deals published pending' views) never) := by
  apply triple_modifyWorld
  exact fun env world hw => ⟨hw.faultless, hw.views, hw.published, hf _ hw.pending, hw.running⟩

/-- The pass goes from the last deal to the first: what it publishes comes out backwards, what
it keeps stays in its order. -/
theorem retryPendingFrom_deals (view : Nat → Option DealView) (n : Nat) :
    ∀ published pending : List Nat, n ≤ pending.length →
      Triple (Deals published pending ((pending.take n).reverse.map view ++ views))
        (retryPendingFrom n)
        (returning (fun _ => Deals
            (published ++ ((pending.take n).filter fun t => publishable (view t)).reverse)
            ((pending.take n).filter (fun t => ! handled (view t)) ++ pending.drop n) views)
          never) := by
  induction n with
  | zero =>
    intro published pending _
    simp only [List.take_zero, List.reverse_nil, List.map_nil, List.nil_append, List.filter_nil,
      List.append_nil, List.drop_zero]
    exact triple_pure _ fun env world hw => hw
  | succ i ih =>
    intro published pending hlength
    have hget : pending[i]? = some pending[i] := List.getElem?_eq_getElem (by omega)
    generalize pending[i] = ticket at hget
    have htake : pending.take (i + 1) = pending.take i ++ [ticket] := by
      rw [List.take_add_one, hget]
      rfl
    have hdrop : pending.drop i = ticket :: pending.drop (i + 1) := by
      have hhead := List.drop_eq_getElem_cons (l := pending) (i := i) (by omega)
      rw [List.getElem?_eq_getElem (by omega)] at hget
      rw [hhead, Option.some.inj hget]
    unfold retryPendingFrom
    apply triple_read
    rintro start env world ⟨hw, rfl⟩
    have hentry : world.pendingDeals[i]?.map Prod.fst = some ticket := by
      rw [← List.getElem?_map]
      exact (congrArg (·[i]?) hw.pending).trans hget
    obtain ⟨⟨first, attempts⟩, hsome, hfirst⟩ := Option.map_eq_some_iff.mp hentry
    obtain rfl : ticket = first := hfirst.symm
    rw [hsome]
    simp only
    rw [htake, List.reverse_append, List.map_append, List.append_assoc] at hw
    have hcounted : ∀ queue : List (Nat × Nat), queue.map Prod.fst = pending →
        (queue.set i (ticket, attempts + 1)).map Prod.fst = pending := by
      intro queue hqueue
      obtain ⟨hlt, heq⟩ := List.getElem?_eq_some_iff.mp hget
      rw [List.map_set, hqueue]
      have hself := List.set_getElem_self hlt
      rwa [heq] at hself
    refine triple_returning (queue_deals (·.set i (ticket, attempts + 1)) hcounted) ?_ env world hw
    intro _
    refine triple_returning (emitDealAddEvent_deals ticket (view ticket)) ?_
    rintro done env world ⟨rfl, hw⟩
    have hreverse : ((pending.take i ++ [ticket]).filter fun t => publishable (view t)).reverse =
        (if publishable (view ticket) then [ticket] else []) ++
          ((pending.take i).filter fun t => publishable (view t)).reverse := by
      rw [List.filter_append, List.reverse_append]
      cases hpub : publishable (view ticket) <;> simp [hpub]
    have hlength_take : (pending.take i).length = i := by
      rw [List.length_take]
      omega
    rw [htake, hreverse, ← List.append_assoc, List.filter_append]
    cases hdone : handled (view ticket) with
    | true =>
      have herase : ∀ queue : List (Nat × Nat), queue.map Prod.fst = pending →
          (queue.eraseIdx i).map Prod.fst = pending.take i ++ pending.drop (i + 1) := by
        intro queue hqueue
        rw [List.eraseIdx_eq_take_drop_succ, List.map_append, List.map_take, List.map_drop, hqueue]
      have hgone : [ticket].filter (fun t => ! handled (view t)) = [] := by simp [hdone]
      have hlater := ih (published ++ if publishable (view ticket) then [ticket] else [])
        (pending.take i ++ pending.drop (i + 1)) (by rw [List.length_append]; omega)
      rw [List.take_left' hlength_take, List.drop_left' hlength_take] at hlater
      rw [hgone, List.append_nil]
      simp only [if_true]
      exact triple_returning (queue_deals (·.eraseIdx i) herase) (fun _ => hlater) env world hw
    | false =>
      have hkept : [ticket].filter (fun t => ! handled (view t)) = [ticket] := by simp [hdone]
      have hlater := ih (published ++ if publishable (view ticket) then [ticket] else []) pending
        (by omega)
      rw [hdrop] at hlater
      rw [hkept, List.append_assoc _ [ticket], List.singleton_append]
      simp only [Bool.false_eq_true, if_false]
      exact triple_returning (queue_deals id fun queue h => h) (fun _ => hlater) env world hw

/-- A whole pass over the queue. -/
theorem retryPendingDealEvents_deals (view : Nat → Option DealView) :
    Triple (Deals published pending (pending.reverse.map view ++ views)) retryPendingDealEvents
      (returning (fun _ => Deals
          (published ++ (pending.filter fun t => publishable (view t)).reverse)
          (pending.filter fun t => ! handled (view t)) views) never) := by
  unfold retryPendingDealEvents
  apply triple_read
  rintro start env world ⟨hw, rfl⟩
  have hlength : world.pendingDeals.length = pending.length := by
    rw [← hw.pending]
    exact (List.length_map Prod.fst).symm
  have hpass := @retryPendingFrom_deals views view pending.length published pending
    (le_refl _)
  simp only [List.take_length, List.drop_length, List.append_nil] at hpass
  rw [hlength]
  exact hpass env world hw

end Retry

end TradeJournalWorker
