import Mathlib.Data.List.Infix
import TradeJournalWorker.ExcursionViews

namespace TradeJournalWorker

open RunningPeak

/-- The sightings that the closing events of a batch add. -/
def closeSightings (ticket : String) (events : List RawEvent) (terms : Terms) : List Sighting :=
  (events.filter (·.closesPosition ticket)).flatMap terms.closeSighting

/-- The conditions on the next call. A restart falls where the file shows everything that was
seen. Of earlier attempts to close only prices are counted that this attempt counts too, and the
last sighting of a close carries a positive symbol point unless none ever did. -/
def Meets (ticket : String) (status : Status) : TrackerCall → Prop
  | .restart => status.unsaved = false
  | .closes events _ _ => ∀ batch ∈ events.inits, ∀ event ∈ batch.getLast?,
      event.closesPosition ticket →
      (∀ sighting ∈ status.pending,
        sighting ∈ closeSightings ticket batch status.watch.toTerms) ∧
      (status.watch.closings ticket batch).PointCarried
  | _ => True

instance (ticket : String) (status : Status) (call : TrackerCall) :
    Decidable (Meets ticket status call) := by
  cases call <;> unfold Meets <;> infer_instance

/-- Every call of a run meets the conditions. -/
def Sound (ticket : String) : Status → List TrackerCall → Prop
  | _, [] => True
  | status, call :: rest => Meets ticket status call ∧ Sound ticket (status.after ticket call) rest

instance decidableSound (ticket : String) :
    ∀ (status : Status) (calls : List TrackerCall), Decidable (Sound ticket status calls)
  | _, [] => inferInstanceAs (Decidable True)
  | status, call :: rest =>
    have := decidableSound ticket (status.after ticket call) rest
    inferInstanceAs (Decidable (_ ∧ _))

theorem sound_append {ticket : String} {before rest : List TrackerCall} :
    ∀ {status : Status}, Sound ticket status (before ++ rest) →
      Sound ticket status before ∧ Sound ticket (before.foldl (Status.after ticket) status) rest := by
  induction before with
  | nil => exact fun h => ⟨trivial, h⟩
  | cons call before ih =>
    intro status h
    obtain ⟨hcall, hbefore⟩ := h
    obtain ⟨hfront, hback⟩ := ih hbefore
    exact ⟨⟨hcall, hfront⟩, hback⟩

/-- A view of a process that has seen what was to be seen, and besides nothing but the close
prices of failed attempts. -/
structure Covers (pending : List Sighting) (watch view : Watch) : Prop where
  terms : view.toTerms = watch.toTerms
  kept : watch.sightings ⊆ view.sightings
  extra : ∀ sighting ∈ view.sightings, sighting ∈ watch.sightings ∨ sighting ∈ pending
  exact : pending = [] → view = watch

namespace Covers

variable {pending pending' : List Sighting} {watch view : Watch} {ticket : String}

theorem refl (pending : List Sighting) (watch : Watch) : Covers pending watch watch :=
  ⟨rfl, fun _ h => h, fun _ h => Or.inl h, fun _ => rfl⟩

theorem mono (h : Covers pending watch view) (hsub : pending ⊆ pending') :
    Covers pending' watch view where
  terms := h.terms
  kept := h.kept
  extra := fun sighting hmem => (h.extra sighting hmem).imp_right fun hp => hsub hp
  exact := by
    intro hempty
    rw [hempty] at hsub
    exact h.exact (List.eq_nil_of_subset_nil hsub)

/-- Both sides see the same sightings under the same terms. -/
theorem added (h : Covers pending watch view) (terms : Terms) (sightings : List Sighting) :
    Covers pending { toTerms := terms, sightings := sightings ++ watch.sightings }
      { toTerms := terms, sightings := sightings ++ view.sightings } where
  terms := rfl
  kept := by
    intro sighting hmem
    rcases List.mem_append.mp hmem with hmem | hmem
    · exact List.mem_append_left _ hmem
    · exact List.mem_append_right _ (h.kept hmem)
  extra := by
    intro sighting hmem
    rcases List.mem_append.mp hmem with hmem | hmem
    · exact Or.inl (List.mem_append_left _ hmem)
    · exact (h.extra sighting hmem).imp_left fun hw => List.mem_append_right _ hw
  exact := by
    intro hempty
    rw [h.exact hempty]

theorem openings (h : Covers pending watch view) (events : List RawEvent) :
    Covers pending (watch.openings ticket events) (view.openings ticket events) := by
  unfold Watch.openings
  induction events generalizing watch view with
  | nil => exact h
  | cons event rest ih =>
    apply ih
    show Covers pending (if event.opensPosition ticket then watch.opening event else watch)
      (if event.opensPosition ticket then view.opening event else view)
    split
    next =>
      have hboth := h.added (watch.toTerms.opening event) []
      unfold Watch.opening
      rw [h.terms]
      exact hboth
    next => exact h

theorem rows (h : Covers pending watch view) (snapshot : Snapshot) :
    Covers pending (watch.rows ticket snapshot) (view.rows ticket snapshot) := by
  unfold Watch.rows
  induction snapshot.positions.entries generalizing watch view with
  | nil => exact h
  | cons entry rest ih =>
    apply ih
    show Covers pending (if observedTicket entry.1 entry.2 = ticket then watch.row entry.2 else watch)
      (if observedTicket entry.1 entry.2 = ticket then view.row entry.2 else view)
    split
    next =>
      have hboth := h.added (watch.toTerms.told entry.2)
        ((watch.toTerms.told entry.2).rowSighting entry.2)
      unfold Watch.row
      rw [h.terms]
      exact hboth
    next => exact h

end Covers

/-- What the closing events of a batch add depends on what is known of the position only. -/
theorem closings_added (ticket : String) (events : List RawEvent) (terms : Terms) :
    ∃ added, (∀ sighting, sighting ∈ added ↔ sighting ∈ closeSightings ticket events terms) ∧
      ∀ view : Watch, view.toTerms = terms →
        view.closings ticket events = { view with sightings := added ++ view.sightings } := by
  induction events with
  | nil => exact ⟨[], fun sighting => Iff.rfl, fun view _ => rfl⟩
  | cons event rest ih =>
    obtain ⟨added, hmem, hview⟩ := ih
    by_cases hcloses : event.closesPosition ticket
    · refine ⟨added ++ terms.closeSighting event, ?_, ?_⟩
      · intro sighting
        unfold closeSightings at hmem ⊢
        rw [List.filter_cons_of_pos (by simpa using hcloses), List.flatMap_cons, List.mem_append,
          List.mem_append, hmem]
        exact Or.comm
      · intro view hterms
        show Watch.closings ticket rest (if event.closesPosition ticket then _ else _) = _
        rw [if_pos hcloses, hview (view.closing event) hterms]
        unfold Watch.closing
        rw [hterms, List.append_assoc]
    · refine ⟨added, ?_, ?_⟩
      · intro sighting
        unfold closeSightings at hmem ⊢
        rw [List.filter_cons_of_neg (by simpa using hcloses), hmem]
      · intro view hterms
        show Watch.closings ticket rest (if event.closesPosition ticket then _ else _) = _
        rw [if_neg hcloses]
        exact hview view hterms

namespace Covers

variable {pending : List Sighting} {watch view : Watch} {ticket : String}

theorem closings (h : Covers pending watch view) (events : List RawEvent) :
    Covers pending (watch.closings ticket events) (view.closings ticket events) := by
  obtain ⟨added, -, hview⟩ := closings_added ticket events watch.toTerms
  rw [hview watch rfl, hview view h.terms]
  have hboth := h.added watch.toTerms added
  rw [h.terms]
  exact hboth

/-- An attempt to close is seen by its process alone. -/
theorem attempted (h : Covers pending watch view) (events : List RawEvent) :
    Covers (closeSightings ticket events view.toTerms ++ pending) watch
      (view.closings ticket events) := by
  obtain ⟨added, hadded, hview⟩ := closings_added ticket events view.toTerms
  rw [hview view rfl]
  constructor
  · exact h.terms
  · intro sighting hmem
    exact List.mem_append_right _ (h.kept hmem)
  · intro sighting hmem
    rcases List.mem_append.mp hmem with hmem | hmem
    · exact Or.inr (List.mem_append_left _ ((hadded sighting).mp hmem))
    · exact (h.extra sighting hmem).imp_right fun hp => List.mem_append_right _ hp
  · intro hempty
    obtain ⟨hnone, hpending⟩ := List.append_eq_nil_iff.mp hempty
    have hempty : added = [] := by
      apply List.eq_nil_iff_forall_not_mem.mpr
      intro sighting hmem
      have hin := (hadded sighting).mp hmem
      rw [hnone] at hin
      exact absurd hin List.not_mem_nil
    rw [hempty]
    exact h.exact hpending

end Covers

section Runs

variable {ticket : String}

/-- The process has seen everything, and so has the file while nothing is unsaved. No close is
counted of a position without an open price. -/
structure Complete (status : Status) : Prop where
  held : Covers status.pending status.watch status.held
  filed : status.unsaved = false → Covers status.pending status.watch status.filed
  uncounted : status.watch.openPrice = none → status.pending = []

theorem closeSightings_unpriced {events : List RawEvent} {terms : Terms}
    (h : terms.openPrice = none) : closeSightings ticket events terms = [] := by
  unfold closeSightings
  apply List.flatMap_eq_nil_iff.mpr
  intro event _
  unfold Terms.closeSighting Terms.sighting
  rw [h]

theorem openings_openPrice {events : List RawEvent} {watch : Watch}
    (h : (watch.openings ticket events).openPrice = none) : watch.openPrice = none := by
  unfold Watch.openings at h
  induction events generalizing watch with
  | nil => exact h
  | cons event rest ih =>
    have hfirst : (if event.opensPosition ticket then watch.opening event else watch).openPrice =
      none := ih h
    by_cases hopens : event.opensPosition ticket
    · rw [if_pos hopens] at hfirst
      exact (Option.or_eq_none_iff.mp hfirst).1
    · rw [if_neg hopens] at hfirst
      exact hfirst

theorem rows_openPrice {snapshot : Snapshot} {watch : Watch}
    (h : (watch.rows ticket snapshot).openPrice = none) : watch.openPrice = none := by
  have hfold : ∀ (entries : List (String × PositionRow)) (watch : Watch),
      (entries.foldl (fun watch entry =>
        if observedTicket entry.1 entry.2 = ticket then watch.row entry.2 else watch)
          watch).openPrice = none → watch.openPrice = none := by
    intro entries
    induction entries with
    | nil => exact fun watch h => h
    | cons entry rest ih =>
      intro watch h
      have hfirst : (if observedTicket entry.1 entry.2 = ticket then watch.row entry.2
        else watch).openPrice = none := ih _ h
      by_cases hticket : observedTicket entry.1 entry.2 = ticket
      · rw [if_pos hticket] at hfirst
        exact (Option.or_eq_none_iff.mp hfirst).2
      · rw [if_neg hticket] at hfirst
        exact hfirst
  exact hfold _ watch h

theorem Complete.heldAfter {status : Status} {call : TrackerCall} (h : Complete status)
    (hmeets : Meets ticket status call) :
    Covers (status.pendingAfter ticket call) (status.watch.call ticket call)
      (status.heldAfter ticket call) := by
  cases call with
  | opens events saved => exact h.held.openings events
  | rows snapshot now saved => exact h.held.rows snapshot
  | closes events now enriched => exact h.held.attempted events
  | discards tickets saved =>
    show Covers (if ticket ∈ tickets then [] else status.pending)
      (if ticket ∈ tickets then {} else status.watch) (if ticket ∈ tickets then {} else status.held)
    split
    next => exact Covers.refl [] {}
    next => exact h.held
  | restart => exact h.filed hmeets

theorem Complete.uncountedAfter {status : Status} {call : TrackerCall} (h : Complete status)
    (hprice : (status.watch.call ticket call).openPrice = none) :
    status.pendingAfter ticket call = [] := by
  cases call with
  | opens events saved => exact h.uncounted (openings_openPrice hprice)
  | rows snapshot now saved => exact h.uncounted (rows_openPrice hprice)
  | closes events now enriched =>
    have hheld : status.held.openPrice = none := by
      rw [h.held.terms]
      exact hprice
    have hnone : closeSightings ticket events status.held.toTerms = [] :=
      closeSightings_unpriced hheld
    show closeSightings ticket events status.held.toTerms ++ status.pending = []
    rw [hnone, h.uncounted hprice]
    rfl
  | discards tickets saved =>
    show (if ticket ∈ tickets then [] else status.pending) = []
    split
    next => rfl
    next hkept =>
      have hsame : status.watch.call ticket (.discards tickets saved) = status.watch := if_neg hkept
      rw [hsame] at hprice
      exact h.uncounted hprice
  | restart => exact h.uncounted hprice

theorem Complete.step {status : Status} {call : TrackerCall} (h : Complete status)
    (hmeets : Meets ticket status call) : Complete (status.after ticket call) where
  held := h.heldAfter hmeets
  uncounted := h.uncountedAfter
  filed := by
    intro hunsaved
    have hheld := h.heldAfter hmeets
    show Covers (status.pendingAfter ticket call) (status.watch.call ticket call)
      (if call.saved then status.heldAfter ticket call else status.filed)
    split
    next => exact hheld
    next hsaved =>
      have hclean : status.unsaved = false ∧ status.watch.call ticket call = status.watch := by
        have hflag : (!call.saved && (status.unsaved ||
            status.watch.call ticket call ≠ status.watch)) = false := hunsaved
        simpa [hsaved] using hflag
      obtain ⟨hbefore, hwatch⟩ := hclean
      have hfiled := h.filed hbefore
      rw [hwatch]
      cases call with
      | opens events saved => exact hfiled
      | rows snapshot now saved => exact hfiled
      | closes events now enriched =>
        exact hfiled.mono (List.subset_append_right _ _)
      | discards tickets saved =>
        show Covers (if ticket ∈ tickets then [] else status.pending) _ _
        split
        next hgone =>
          have hnothing : status.watch = {} := by
            rw [← hwatch]
            exact if_pos hgone
          have hpending := h.uncounted (by rw [hnothing])
          rw [← hpending]
          exact hfiled
        next => exact hfiled
      | restart => exact hfiled

theorem complete_run {calls : List TrackerCall} (hsound : Sound ticket {} calls) :
    Complete (statusOf ticket calls) := by
  induction calls using List.reverseRecOn with
  | nil => exact ⟨Covers.refl [] {}, fun _ => Covers.refl [] {}, fun _ => rfl⟩
  | append_singleton calls call ih =>
    obtain ⟨hbefore, hmeets, -⟩ := sound_append hsound
    rw [statusOf_concat]
    exact (ih hbefore).step hmeets

end Runs

end TradeJournalWorker
