import TradeJournalWorker.ExcursionCoverage
import TradeJournalWorker.PlannedIds

namespace TradeJournalWorker

open RunningPeak

section Closes

variable {sampleMs : Nat} {now : String} {ticket : String}

/-- Each event is enriched from what the events before it have left. -/
theorem enrichCloseEvents_at (positions : Excursions) (front : List RawEvent) (event : RawEvent)
    (back : List RawEvent) :
    (enrichCloseEvents sampleMs now positions (front ++ event :: back)).events[front.length]? =
      some { event with
        excursion := closeExcursion sampleMs now
          (stateOf (enrichCloseEvents sampleMs now positions front).positions event.ticket)
          event } := by
  have hgrows : ∀ (events : List RawEvent) (enriched : Enriched), ∃ later,
      (events.foldl (enrichCloseEvent sampleMs now) enriched).events = enriched.events ++ later ∧
        later.length = events.length := by
    intro events
    induction events with
    | nil => exact fun enriched => ⟨[], (List.append_nil _).symm, rfl⟩
    | cons event rest ih =>
      intro enriched
      obtain ⟨later, hlater, hlength⟩ := ih (enrichCloseEvent sampleMs now enriched event)
      rw [enrichCloseEvent_events, List.append_assoc] at hlater
      exact ⟨_, hlater, by simp [hlength]⟩
  obtain ⟨first, hfirst, hlength⟩ := hgrows front { positions }
  have hfront : (enrichCloseEvents sampleMs now positions front).events = first := hfirst
  obtain ⟨later, hlater, -⟩ := hgrows back
    (enrichCloseEvent sampleMs now (enrichCloseEvents sampleMs now positions front) event)
  have hall : (enrichCloseEvents sampleMs now positions (front ++ event :: back)).events =
      first ++ { event with
        excursion := closeExcursion sampleMs now
          (stateOf (enrichCloseEvents sampleMs now positions front).positions event.ticket)
          event } :: later := by
    unfold enrichCloseEvents at hlater hfront ⊢
    rw [List.foldl_append, List.foldl_cons, hlater, enrichCloseEvent_events, hfront,
      List.append_assoc]
    rfl
  rw [hall, ← hlength, List.getElem?_append_right (Nat.le_refl _), Nat.sub_self]
  rfl

theorem closings_concat (front : List RawEvent) {event : RawEvent}
    (hcloses : event.closesPosition ticket) (watch : Watch) :
    watch.closings ticket (front ++ [event]) = (watch.closings ticket front).closing event := by
  unfold Watch.closings
  rw [List.foldl_append]
  exact if_pos hcloses

/-- The fields of a close are those of what was seen up to it. -/
theorem closeExcursion_shown (sampleMs : Nat) (now : String) (front : List RawEvent)
    {positions : Excursions} {view : Watch} {event : RawEvent}
    (h : Shown view (stateOf positions ticket))
    (hcloses : event.closesPosition ticket) (hknown : view.known = true) :
    let final := view.closings ticket (front ++ [event])
    let excursion := closeExcursion sampleMs now
      (stateOf (enrichCloseEvents sampleMs now positions front).positions event.ticket) event
    excursion.mfePriceDelta = final.largest Sighting.favorable ∧
      excursion.maePriceDelta = final.largest Sighting.adverse ∧
      excursion.mfePoints = Watch.measured Sighting.favorable final.sightings ∧
      excursion.maePoints = Watch.measured Sighting.adverse final.sightings ∧
      excursion.samples = some final.sightings.length := by
  obtain ⟨htype, hne, hticket⟩ := id hcloses
  subst hticket
  have hfront := h.closings sampleMs now front
  have hfinal := hfront.closing event now
  have hstill : (view.closings event.ticket front).known = true := by
    obtain ⟨added, -, hview⟩ := closings_added event.ticket front view.toTerms
    rw [hview view rfl]
    exact hknown
  unfold closeExcursion
  simp only
  rw [closings_concat front hcloses, if_pos ⟨htype, hne, hfront.known.mp hstill⟩]
  exact ⟨hfinal.mfe, hfinal.mae, hfinal.mfePoints, hfinal.maePoints, congrArg some hfinal.samples⟩

theorem closeExcursion_unknown {positions : Excursions} {view : Watch} {front : List RawEvent}
    {event : RawEvent} (h : Shown view (stateOf positions event.ticket))
    (hknown : view.known = false) :
    closeExcursion sampleMs now
      (stateOf (enrichCloseEvents sampleMs now positions front).positions event.ticket) event =
      event.excursion := by
  have hfront := h.closings sampleMs now front
  have hstill : ¬ (view.closings event.ticket front).known = true := by
    obtain ⟨added, -, hview⟩ := closings_added event.ticket front view.toTerms
    rw [hview view rfl]
    exact Bool.eq_false_iff.mp hknown
  unfold closeExcursion
  exact if_neg fun hall => hstill (hfront.known.mpr hall.2.2)

end Closes

/-- In this run the calls ended with an attempt to enrich these events. -/
def Attempted (calls : List TrackerCall) (before : List TrackerCall) (events : List RawEvent)
    (enriched : List RawEvent) : Prop :=
  ∃ now after, calls = before ++ .closes events now enriched :: after

/-- Every close carries the largest favorable and adverse distances of all that was seen, with
its own price, and their values in points of the symbol. What was seen does not depend on
restarts, failed saves or failed attempts. -/
def ClosesExact (ticket : String) (calls : List TrackerCall) : Prop :=
  ∀ before events enriched, Attempted calls before events enriched →
    ∀ front event back, events = front ++ event :: back → event.closesPosition ticket →
      (watchOf ticket before).known = true →
      let seen := (watchOf ticket before).closings ticket (front ++ [event])
      ∃ excursion, enriched[front.length]? = some { event with excursion := excursion } ∧
        excursion.mfePriceDelta = seen.largest Sighting.favorable ∧
        excursion.maePriceDelta = seen.largest Sighting.adverse ∧
        excursion.mfePoints = seen.symbolPoint.map
          (peak (seen.sightings.map Sighting.favorable) / ·) ∧
        excursion.maePoints = seen.symbolPoint.map
          (peak (seen.sightings.map Sighting.adverse) / ·)

/-- Two attempts to close the position with one event, of which `comparable` says more, compute
the event id from the same fields. -/
def SameFields (ticket : String) (calls : List TrackerCall)
    (comparable : List TrackerCall → List RawEvent → List TrackerCall → List RawEvent →
      RawEvent → Prop) : Prop :=
  ∀ before events enriched before' events' enriched',
    Attempted calls before events enriched → Attempted calls before' events' enriched' →
    ∀ front front' event back back', events = front ++ event :: back →
      events' = front' ++ event :: back' → event.closesPosition ticket →
      comparable before front before' front' event →
      (enriched[front.length]?).map fingerprint = (enriched'[front'.length]?).map fingerprint

/-- The closing events of the position in the two fronts are the same, and nothing was seen between
the attempts, each made by a process that had counted no close before; or the event has the ticket
of its deal. -/
def Unchanged (ticket : String) (before : List TrackerCall) (front : List RawEvent)
    (before' : List TrackerCall) (front' : List RawEvent) (event : RawEvent) : Prop :=
  event.nativeDealTicket ≠ none ∨
    front.filter (·.closesPosition ticket) = front'.filter (·.closesPosition ticket) ∧
      watchOf ticket before = watchOf ticket before' ∧
      (statusOf ticket before).held = watchOf ticket before ∧
      (statusOf ticket before').held = watchOf ticket before'

/-- The position is not closed by this call. -/
def TrackerCall.leavesOpen (ticket : String) : TrackerCall → Prop
  | .closes events _ _ => ∀ event ∈ events, ¬ event.closesPosition ticket
  | .discards tickets _ => ticket ∉ tickets
  | _ => True

section Watching

variable {ticket : String}

theorem openings_suffix (events : List RawEvent) (watch : Watch) :
    watch.sightings <:+ (watch.openings ticket events).sightings := by
  unfold Watch.openings
  induction events generalizing watch with
  | nil => exact List.suffix_refl _
  | cons event rest ih =>
    apply List.IsSuffix.trans _ (ih _)
    show _ <:+ (if event.opensPosition ticket then watch.opening event else watch).sightings
    split
    next => exact List.suffix_refl _
    next => exact List.suffix_refl _

theorem rows_suffix (snapshot : Snapshot) (watch : Watch) :
    watch.sightings <:+ (watch.rows ticket snapshot).sightings := by
  unfold Watch.rows
  induction snapshot.positions.entries generalizing watch with
  | nil => exact List.suffix_refl _
  | cons entry rest ih =>
    apply List.IsSuffix.trans _ (ih _)
    show _ <:+ (if observedTicket entry.1 entry.2 = ticket then watch.row entry.2
      else watch).sightings
    split
    next => exact List.suffix_append _ _
    next => exact List.suffix_refl _

/-- While a position is open its sightings only become more. -/
theorem watch_call_suffix {call : TrackerCall} (h : call.leavesOpen ticket) (watch : Watch) :
    watch.sightings <:+ (watch.call ticket call).sightings := by
  cases call with
  | opens events saved => exact openings_suffix events watch
  | rows snapshot now saved => exact rows_suffix snapshot watch
  | closes events now enriched => exact List.suffix_refl _
  | discards tickets saved =>
    have hkept : watch.call ticket (.discards tickets saved) = watch := if_neg h
    rw [hkept]
  | restart => exact List.suffix_refl _

theorem pendingAfter_open {call : TrackerCall} (h : call.leavesOpen ticket) {status : Status}
    (hpending : status.pending = []) : status.pendingAfter ticket call = [] := by
  cases call with
  | opens events saved => exact hpending
  | rows snapshot now saved => exact hpending
  | closes events now enriched =>
    have hnone : events.filter (·.closesPosition ticket) = [] := by
      apply List.filter_eq_nil_iff.mpr
      intro event hmem
      simpa using h event hmem
    show (events.filter (·.closesPosition ticket)).flatMap _ ++ status.pending = []
    rw [hnone, hpending]
    rfl
  | discards tickets saved =>
    show (if ticket ∈ tickets then [] else status.pending) = []
    rw [if_neg h]
    exact hpending
  | restart => exact hpending

theorem statusOf_open (calls : List TrackerCall) {middle : List TrackerCall}
    (hopen : ∀ call ∈ middle, call.leavesOpen ticket)
    (hpending : (statusOf ticket calls).pending = []) :
    (statusOf ticket (calls ++ middle)).pending = [] ∧
      (watchOf ticket calls).sightings <:+ (watchOf ticket (calls ++ middle)).sightings := by
  induction middle using List.reverseRecOn with
  | nil =>
    rw [List.append_nil]
    exact ⟨hpending, List.suffix_refl _⟩
  | append_singleton middle call ih =>
    have hcall := hopen call (List.mem_append_right _ (List.mem_singleton_self call))
    obtain ⟨hbefore, hsuffix⟩ := ih fun other hmem => hopen other (List.mem_append_left _ hmem)
    rw [← List.append_assoc]
    constructor
    · rw [statusOf_concat]
      exact pendingAfter_open hcall hbefore
    · apply hsuffix.trans
      rw [← statusOf_watch ticket (calls ++ middle ++ [call]), statusOf_concat,
        ← statusOf_watch ticket (calls ++ middle)]
      exact watch_call_suffix hcall _

theorem peak_suffix {distance : Sighting → Rat} {xs ys : List Sighting} (h : xs <:+ ys) :
    peak (xs.map distance) ≤ peak (ys.map distance) := by
  obtain ⟨later, hlater⟩ := h
  rw [← hlater, List.map_append]
  exact peak_le_append _ _

theorem closings_filter (events : List RawEvent) (watch : Watch) :
    watch.closings ticket (events.filter (·.closesPosition ticket)) =
      watch.closings ticket events := by
  unfold Watch.closings
  induction events generalizing watch with
  | nil => rfl
  | cons event rest ih =>
    by_cases hcloses : event.closesPosition ticket
    · rw [List.filter_cons_of_pos (by simpa using hcloses)]
      exact ih _
    · rw [List.filter_cons_of_neg (by simpa using hcloses), List.foldl_cons, if_neg hcloses]
      exact ih watch

end Watching

section Measured

variable {distance : Sighting → Rat} {watch : Watch}

/-- With a point at the last sighting, or with none at all, points are distances over points. -/
theorem measured_carried (h : watch.PointCarried) :
    Watch.measured distance watch.sightings =
      watch.symbolPoint.map (peak (watch.sightings.map distance) / ·) := by
  have hnone : ∀ sightings : List Sighting,
      (∀ sighting ∈ sightings, sighting.positivePoint = none) →
      Watch.measured distance sightings = none := by
    intro sightings
    induction sightings with
    | nil => exact fun _ => rfl
    | cons sighting earlier ih =>
      intro hall
      unfold Watch.measured
      rw [hall sighting List.mem_cons_self]
      exact ih fun other hmem => hall other (List.mem_cons_of_mem sighting hmem)
  cases hpoint : watch.symbolPoint with
  | none => exact hnone _ (h hpoint)
  | some point =>
    unfold Watch.symbolPoint at hpoint
    cases hsightings : watch.sightings with
    | nil =>
      rw [hsightings] at hpoint
      cases hpoint
    | cons sighting earlier =>
      rw [hsightings] at hpoint
      have hpositive : sighting.positivePoint = some point := hpoint
      unfold Watch.measured
      rw [hpositive]
      rfl

end Measured

section Attempts

variable {ticket : String} {pending : List Sighting} {watch view : Watch}

/-- If a process has counted no other close price than those of this attempt, it sees at the
attempt what there was to be seen. -/
theorem Covers.atAttempt (h : Covers pending watch view) {batch : List RawEvent}
    (hpending : ∀ sighting ∈ pending, sighting ∈ closeSightings ticket batch watch.toTerms) :
    (view.closings ticket batch).sightings ⊆ (watch.closings ticket batch).sightings ∧
      (watch.closings ticket batch).sightings ⊆ (view.closings ticket batch).sightings ∧
      (view.closings ticket batch).symbolPoint = (watch.closings ticket batch).symbolPoint := by
  obtain ⟨added, hadded, hview⟩ := closings_added ticket batch watch.toTerms
  rw [hview watch rfl, hview view h.terms]
  refine ⟨?_, ?_, ?_⟩
  · intro sighting hmem
    rcases List.mem_append.mp hmem with hmem | hmem
    · exact List.mem_append_left _ hmem
    · rcases h.extra sighting hmem with hwatch | hcounted
      · exact List.mem_append_right _ hwatch
      · exact List.mem_append_left _ ((hadded sighting).mpr (hpending sighting hcounted))
  · intro sighting hmem
    rcases List.mem_append.mp hmem with hmem | hmem
    · exact List.mem_append_left _ hmem
    · exact List.mem_append_right _ (h.kept hmem)
  · cases added with
    | nil =>
      have hnone : pending = [] := by
        apply List.eq_nil_iff_forall_not_mem.mpr
        intro sighting hmem
        exact absurd ((hadded sighting).mpr (hpending sighting hmem)) List.not_mem_nil
      rw [h.exact hnone]
    | cons sighting rest => rfl

theorem largest_congr (distance : Sighting → Rat) (hview : view.sightings ⊆ watch.sightings)
    (hwatch : watch.sightings ⊆ view.sightings) :
    view.largest distance = watch.largest distance ∧
      peak (view.sightings.map distance) = peak (watch.sightings.map distance) := by
  have hpeak : peak (view.sightings.map distance) = peak (watch.sightings.map distance) :=
    peak_congr (List.map_subset distance hview) (List.map_subset distance hwatch)
  have hempty : view.sightings = [] ↔ watch.sightings = [] := by
    constructor
    · intro hnil
      rw [hnil] at hwatch
      exact List.eq_nil_of_subset_nil hwatch
    · intro hnil
      rw [hnil] at hview
      exact List.eq_nil_of_subset_nil hview
  refine ⟨?_, hpeak⟩
  unfold Watch.largest
  simp only [hempty, hpeak]

/-- What an attempt attaches, with what the process has seen beside what there was to be seen. -/
theorem attached_exact (sampleMs : Nat) (now : String) {positions : Excursions}
    {front : List RawEvent} {event : RawEvent} (h : Covers pending watch view)
    (hshown : Shown view (stateOf positions ticket)) (hcloses : event.closesPosition ticket)
    (hknown : watch.known = true)
    (hpending : ∀ sighting ∈ pending,
      sighting ∈ closeSightings ticket (front ++ [event]) watch.toTerms)
    (hpoint : (watch.closings ticket (front ++ [event])).PointCarried) :
    let seen := watch.closings ticket (front ++ [event])
    let excursion := closeExcursion sampleMs now
      (stateOf (enrichCloseEvents sampleMs now positions front).positions event.ticket) event
    excursion.mfePriceDelta = seen.largest Sighting.favorable ∧
      excursion.maePriceDelta = seen.largest Sighting.adverse ∧
      excursion.mfePoints =
        seen.symbolPoint.map (peak (seen.sightings.map Sighting.favorable) / ·) ∧
      excursion.maePoints =
        seen.symbolPoint.map (peak (seen.sightings.map Sighting.adverse) / ·) := by
  have hviewKnown : view.known = true := by
    have hterms := congrArg Terms.known h.terms
    exact hterms.trans hknown
  obtain ⟨hmfe, hmae, hmfePoints, hmaePoints, -⟩ :=
    closeExcursion_shown sampleMs now front hshown hcloses hviewKnown
  obtain ⟨hview, hwatch, hsymbol⟩ := h.atAttempt hpending
  have hcarried : (view.closings ticket (front ++ [event])).PointCarried := by
    intro hnone sighting hmem
    exact hpoint (hsymbol ▸ hnone) sighting (hview hmem)
  obtain ⟨hfavorable, hfavorablePeak⟩ := largest_congr Sighting.favorable hview hwatch
  obtain ⟨hadverse, hadversePeak⟩ := largest_congr Sighting.adverse hview hwatch
  refine ⟨hmfe.trans hfavorable, hmae.trans hadverse, ?_, ?_⟩
  · rw [hmfePoints, measured_carried hcarried, hsymbol, hfavorablePeak]
  · rw [hmaePoints, measured_carried hcarried, hsymbol, hadversePeak]

/-- An attempt was made on a tracker that shows what its process has seen. -/
theorem attempted_shown {sampleMs : Nat} {start tracker : Tracker} {calls before : List TrackerCall}
    {events enriched : List RawEvent} (hmemory : stateOf start.memory ticket = {})
    (hstored : stateOf start.stored ticket = {}) (hreplay : Replays sampleMs start calls tracker)
    (hattempt : Attempted calls before events enriched) :
    ∃ positions now, Shown (statusOf ticket before).held (stateOf positions ticket) ∧
      enriched = (enrichCloseEvents sampleMs now positions events).events := by
  obtain ⟨now, after, hcalls⟩ := hattempt
  obtain ⟨found, left, hbefore, hstep⟩ := hreplay.split hcalls
  have haccords := accords_replay hmemory hstored hbefore
  cases hstep
  exact ⟨found.memory, now, haccords.held, rfl⟩

theorem attempted_meets {calls before : List TrackerCall} {events enriched : List RawEvent}
    (hsound : Sound ticket {} calls) (hattempt : Attempted calls before events enriched) :
    Sound ticket {} before ∧ ∃ now,
      Meets ticket (statusOf ticket before) (.closes events now enriched) := by
  obtain ⟨now, after, hcalls⟩ := hattempt
  rw [hcalls] at hsound
  obtain ⟨hbefore, hmeets, -⟩ := sound_append hsound
  exact ⟨hbefore, now, hmeets⟩

end Attempts

section Guarantee

variable {sampleMs : Nat} {ticket : String} {start tracker : Tracker} {calls : List TrackerCall}

theorem closesExact_of_sound (hmemory : stateOf start.memory ticket = {})
    (hstored : stateOf start.stored ticket = {}) (hreplay : Replays sampleMs start calls tracker)
    (hsound : Sound ticket {} calls) : ClosesExact ticket calls := by
  intro before events enriched hattempt front event back hevents hcloses hknown seen
  obtain ⟨positions, now, hshown, henriched⟩ := attempted_shown hmemory hstored hreplay hattempt
  obtain ⟨hbefore, now', hmeets⟩ := attempted_meets hsound hattempt
  have hcomplete := (complete_run hbefore).held
  rw [statusOf_watch] at hcomplete
  have hbatch : front ++ [event] ∈ events.inits := by
    rw [List.mem_inits, hevents]
    exact ⟨back, by simp⟩
  obtain ⟨hpending, hpoint⟩ := hmeets _ hbatch event (by simp) hcloses
  rw [statusOf_watch] at hpending hpoint
  have hexact := attached_exact sampleMs now hcomplete hshown hcloses hknown hpending hpoint
  refine ⟨_, ?_, hexact⟩
  rw [henriched, hevents]
  exact enrichCloseEvents_at positions front event back

theorem sameFields_of_sound (hmemory : stateOf start.memory ticket = {})
    (hstored : stateOf start.stored ticket = {}) (hreplay : Replays sampleMs start calls tracker) :
    SameFields ticket calls (Unchanged ticket) := by
  intro before events enriched before' events' enriched' hattempt hattempt' front front' event back
    back' hevents hevents' hcloses hsame
  obtain ⟨positions, now, hshown, henriched⟩ := attempted_shown hmemory hstored hreplay hattempt
  obtain ⟨positions', now', hshown', henriched'⟩ :=
    attempted_shown hmemory hstored hreplay hattempt'
  rw [henriched, henriched', hevents, hevents', enrichCloseEvents_at, enrichCloseEvents_at]
  refine congrArg some (fingerprint_excursion _ _ ?_)
  intro _ hnative
  obtain ⟨hfilter, hwatch, hheld, hheld'⟩ := hsame.resolve_left fun hdeal => hdeal hnative
  rw [hheld] at hshown
  rw [hheld', ← hwatch] at hshown'
  cases hknown : (watchOf ticket before).known with
  | true =>
    obtain ⟨-, -, hmfe, hmae, hsamples⟩ :=
      closeExcursion_shown sampleMs now front hshown hcloses hknown
    obtain ⟨-, -, hmfe', hmae', hsamples'⟩ :=
      closeExcursion_shown sampleMs now' front' hshown' hcloses hknown
    have hfinal : (watchOf ticket before).closings ticket (front ++ [event]) =
        (watchOf ticket before).closings ticket (front' ++ [event]) := by
      rw [← closings_filter (front ++ [event]), ← closings_filter (front' ++ [event]),
        List.filter_append, List.filter_append, hfilter]
    rw [hfinal] at hmfe hmae hsamples
    exact ⟨hmae.trans hmae'.symm, hmfe.trans hmfe'.symm, hsamples.trans hsamples'.symm⟩
  | false =>
    have hticket := hcloses.2.2
    rw [← hticket] at hshown hshown' hknown
    rw [closeExcursion_unknown hshown hknown, closeExcursion_unknown hshown' hknown]
    exact ⟨rfl, rfl, rfl⟩

/-- The extremes that the tracker holds of an open position do not decrease. -/
theorem rising_of_sound {later : Tracker} {middle : List TrackerCall}
    (hmemory : stateOf start.memory ticket = {}) (hstored : stateOf start.stored ticket = {})
    (hreplay : Replays sampleMs start calls tracker)
    (hlater : Replays sampleMs start (calls ++ middle) later)
    (hsound : Sound ticket {} (calls ++ middle)) (hpending : (statusOf ticket calls).pending = [])
    (hopen : ∀ call ∈ middle, call.leavesOpen ticket) :
    (stateOf tracker.memory ticket).mfePriceDelta.getD 0 ≤
        (stateOf later.memory ticket).mfePriceDelta.getD 0 ∧
      (stateOf tracker.memory ticket).maePriceDelta.getD 0 ≤
        (stateOf later.memory ticket).maePriceDelta.getD 0 := by
  obtain ⟨hpending', hsuffix⟩ := statusOf_open calls hopen hpending
  have hshown := (accords_replay hmemory hstored hreplay).held
  have hshown' := (accords_replay hmemory hstored hlater).held
  have hheld := (complete_run (sound_append hsound).1).held.exact hpending
  have hheld' := (complete_run hsound).held.exact hpending'
  rw [hheld, statusOf_watch] at hshown
  rw [hheld', statusOf_watch] at hshown'
  rw [hshown.mfe, hshown'.mfe, hshown.mae, hshown'.mae, largest_getD, largest_getD, largest_getD,
    largest_getD]
  exact ⟨peak_suffix hsuffix, peak_suffix hsuffix⟩

end Guarantee

section Runs

variable (digest : Fingerprint → String) (sampleMs : Nat) (ticket : String)

/-- While the position is open in the process and closed by no call, its extremes do not
decrease from one turn of the run to a later one. -/
def ExtremesRise (live : LiveWorld) (turns : List Turn) : Prop :=
  ∀ earlier later, turns = earlier ++ later →
    let before := runTurns digest sampleMs live earlier
    let after := runTurns digest sampleMs live turns
    ∃ since, after.calls = before.calls ++ since ∧
      ((statusOf ticket before.calls).pending = [] →
        (∀ call ∈ since, call.leavesOpen ticket) →
        (stateOf before.memory ticket).mfePriceDelta.getD 0 ≤
            (stateOf after.memory ticket).mfePriceDelta.getD 0 ∧
          (stateOf before.memory ticket).maePriceDelta.getD 0 ≤
            (stateOf after.memory ticket).maePriceDelta.getD 0)

/-- In every run whose calls meet the conditions, every close carries the extremes of all that was
seen of its position, they rise while it is open, and an attempt that is repeated unchanged
computes the event id from the same fields. -/
theorem excursions_exact (live : LiveWorld) (turns : List Turn)
    (hnew : stateOf live.excursions ticket = {})
    (hsound : Sound ticket {} (runTurns digest sampleMs live turns).calls) :
    ClosesExact ticket (runTurns digest sampleMs live turns).calls ∧
      SameFields ticket (runTurns digest sampleMs live turns).calls (Unchanged ticket) ∧
      ExtremesRise digest sampleMs ticket live turns := by
  have hreplay := replays_runTurns digest sampleMs live turns
  refine ⟨closesExact_of_sound hnew hnew hreplay hsound,
    sameFields_of_sound hnew hnew hreplay, ?_⟩
  intro earlier later hturns
  obtain ⟨since, hsince, -⟩ := replaying_turns digest sampleMs later
    (runTurns digest sampleMs live earlier)
  rw [← runTurns_append, ← hturns] at hsince
  refine ⟨since, hsince, ?_⟩
  intro hpending hopen
  have hearlier := replays_runTurns digest sampleMs live earlier
  rw [hsince] at hreplay hsound
  have hrise := rising_of_sound hnew hnew hearlier hreplay hsound hpending hopen
  rw [tracker_memory, tracker_memory] at hrise
  exact hrise

end Runs

/-- The tickets that a call discards. -/
def TrackerCall.discarded : TrackerCall → List String
  | .discards tickets _ => tickets
  | _ => []

/-- The events before this one are the same, and no call between the two attempts has discarded
the position. -/
def Retries (ticket : String) (before : List TrackerCall) (front : List RawEvent)
    (before' : List TrackerCall) (front' : List RawEvent) (_ : RawEvent) : Prop :=
  front = front' ∧ ∃ since, before' = before ++ since ∧ ∀ call ∈ since, ticket ∉ call.discarded

/-- A run in which a position is opened and closed; the snapshot of the first attempt to close it
cannot be saved. -/
def openRow : PositionRow :=
  { ticket := some "7", positionId := some "7", symbol := some "EURUSD", direction := some "buy"
    volume := some 1, openPrice := some (11 / 10), currentPrice := some (112 / 100)
    point := some (1 / 1000) }

def closingRow : DealRow :=
  { ticket := some "9", positionTicket := some "7", closePrice := some (109 / 100) }

def openReading : BridgeReading :=
  { account := { login := some "100", server := some "Demo" }, positions := [openRow] }

def closedReading : BridgeReading :=
  { account := { login := some "100", server := some "Demo" }, deals := [closingRow] }

def unsavedClose : List Turn :=
  [.poll { reading := .returned openReading },
    .poll { reading := .returned closedReading, saves := [.failed ()] }]

/-- The agent is started anew and closes the position then. -/
@[irreducible] def restartedClose : List Turn :=
  unsavedClose ++ [.restart { reading := .crashed }, .poll (cleanEnv closedReading)]

/-- The same process tries once more. -/
def retriedClose : List Turn := unsavedClose ++ [.poll (cleanEnv closedReading)]

theorem excursions_exact_restarted :
    Sound "7" {} (runTurns (fun _ => "") 2000 {} restartedClose).calls ∧
      ClosesExact "7" (runTurns (fun _ => "") 2000 {} restartedClose).calls ∧
      SameFields "7" (runTurns (fun _ => "") 2000 {} restartedClose).calls (Unchanged "7") := by
  have hsound : Sound "7" {} (runTurns (fun _ => "") 2000 {} restartedClose).calls := by
    decide +kernel
  have hnew : stateOf ({} : LiveWorld).excursions "7" = {} := rfl
  obtain ⟨hcloses, hsame, -⟩ :=
    excursions_exact (fun _ => "") 2000 "7" {} restartedClose hnew hsound
  exact ⟨hsound, hcloses, hsame⟩

/-- The events of a call to close and what they became. -/
def closesAt (calls : List TrackerCall) (n : Nat) : List RawEvent × List RawEvent :=
  match calls[n]? with
  | some (.closes events _ enriched) => (events, enriched)
  | _ => ([], [])

theorem attempted_closesAt {calls : List TrackerCall} {n : Nat}
    (h : (closesAt calls n).1 ≠ []) :
    Attempted calls (calls.take n) (closesAt calls n).1 (closesAt calls n).2 := by
  unfold closesAt at h ⊢
  split
  next events now enriched hcall =>
    obtain ⟨hlt, hget⟩ := List.getElem?_eq_some_iff.mp hcall
    refine ⟨now, calls.drop (n + 1), ?_⟩
    rw [← hget, List.getElem_cons_drop, List.take_append_drop]
  next hother =>
    split at h
    next events now enriched hcall => exact absurd hcall (hother events now enriched)
    next => exact absurd rfl h

/-- The process that tries once more counts the close price a second time, and the close gets
another event id. -/
theorem retried_close_counted :
    ¬ SameFields "7" (runTurns (fun _ => "") 2000 {} retriedClose).calls (Retries "7") := by
  intro hsame
  generalize hcalls : (runTurns (fun _ => "") 2000 {} retriedClose).calls = calls at hsame
  have hdifferent : ((closesAt calls 6).2[0]?).map fingerprint ≠
      ((closesAt calls 9).2[0]?).map fingerprint := by
    rw [← hcalls]
    decide +kernel
  have hfirst : (closesAt calls 6).1 =
      closedEvent "7" openRow closingRow :: (closesAt calls 6).1.tail := by
    rw [← hcalls]
    decide +kernel
  have hsecond : (closesAt calls 9).1 =
      closedEvent "7" openRow closingRow :: (closesAt calls 9).1.tail := by
    rw [← hcalls]
    decide +kernel
  have hcloses : (closedEvent "7" openRow closingRow).closesPosition "7" := by decide +kernel
  have hbetween : calls.take 9 = calls.take 6 ++ (calls.take 9).drop 6 ∧
      ∀ call ∈ (calls.take 9).drop 6, "7" ∉ call.discarded := by
    rw [← hcalls]
    decide +kernel
  have hattempt : Attempted calls (calls.take 6) _ _ :=
    attempted_closesAt fun hempty => by
      rw [hfirst] at hempty
      cases hempty
  have hattempt' : Attempted calls (calls.take 9) _ _ :=
    attempted_closesAt fun hempty => by
      rw [hsecond] at hempty
      cases hempty
  exact hdifferent (hsame _ _ _ _ _ _ hattempt hattempt' [] [] _ _ _ hfirst hsecond hcloses
    ⟨rfl, _, hbetween⟩)

end TradeJournalWorker
