import TradeJournalWorker.InstancePool

namespace TradeJournalWorker

open RenameStore

/-- The way of a slot from its build to its instance. -/
def PoolPlace.Leads : PoolPlace → PoolPlace → Prop
  | .building slot, .ready other => other = slot
  | .ready _, .claimed _ => True
  | .claimed connection, .instances other => other = connection
  | _, _ => False

/-- A move along that way, by the thread that it belongs to. -/
structure PoolWorld.Moves (world : PoolWorld) (source target : PoolPlace) : Prop where
  leads : source.Leads target
  built : ∀ slot, target = .ready slot →
    ∃ thread, world.maintainers thread = .building .publishing slot
  bound : ∀ connection, target = .instances connection →
    ∃ thread slot, world.claims thread = some ⟨connection, .publishing slot⟩

/-- Directories only move, and a new slot is built under its own id. -/
def PoolWorld.Forward (world : PoolWorld) : PoolAction → Prop
  | .move source target => world.Moves source target
  | .create place item => (item.identity = none ∧ ∃ connection, place = .instances connection) ∨
      ∃ slot, item.identity = some slot ∧ place = .building slot
  | _ => True

/-- The call has its reservation. -/
def ClaimPoint.inFlight : ClaimPoint → Bool
  | .entry => false
  | .judging => false
  | .retiring => false
  | .unreserved => false
  | _ => true

/-- The connection of a claimed directory or of an instance. -/
def PoolPlace.owner : PoolPlace → Option String
  | .claimed connection => some connection
  | .instances connection => some connection
  | _ => none

theorem PoolPlace.Leads.ne {source target : PoolPlace} (h : source.Leads target) :
    source ≠ target := by
  rintro rfl
  cases source <;> exact h

section Steps

variable {pool : PoolConfig} {world : PoolWorld}

theorem removalStep_touches {store : PoolStore} {place other : PoolPlace} {action : PoolAction}
    {done raised : Bool} (h : RemovalStep store place action done raised)
    (htouches : action.Touches other) : other = place := by
  cases h with
  | entry => exact htouches
  | root => exact htouches
  | absent => exact absurd htouches id
  | failed => exact absurd htouches id

theorem removalStep_safe {place : PoolPlace} {action : PoolAction} {done raised : Bool}
    (h : RemovalStep world.store place action done raised) :
    action.Permitted world.issued world.store ∧ world.Forward action := by
  cases h with
  | entry => exact ⟨trivial, trivial⟩
  | root => exact ⟨trivial, trivial⟩
  | absent => exact ⟨trivial, trivial⟩
  | failed => exact ⟨trivial, trivial⟩

theorem safe_move {source target : PoolPlace} (hmoves : world.Moves source target)
    (hvacant : world.store target = none) :
    (Action.move source target : PoolAction).Permitted world.issued world.store ∧
      world.Forward (.move source target) :=
  ⟨⟨hmoves.leads.ne, hvacant⟩, hmoves⟩

theorem moves_take {slot connection : String} : world.Moves (.ready slot) (.claimed connection) :=
  ⟨trivial, fun _ h => (by cases h), fun _ h => (by cases h)⟩

theorem moves_bind {thread : Nat} {slot connection : String}
    (h : world.claims thread = some ⟨connection, .publishing slot⟩) :
    world.Moves (.claimed connection) (.instances connection) := by
  refine ⟨rfl, fun _ htarget => (by cases htarget), fun _ htarget => ?_⟩
  cases htarget
  exact ⟨thread, slot, h⟩

theorem moves_build {thread : Nat} {slot : String}
    (h : world.maintainers thread = .building .publishing slot) :
    world.Moves (.building slot) (.ready slot) := by
  refine ⟨rfl, fun _ htarget => ?_, fun _ htarget => (by cases htarget)⟩
  cases htarget
  exact ⟨thread, h⟩

/-- A call removes its own instance, or its own claimed directory while it is in flight. -/
theorem removal_place {connection : String} {point : ClaimPoint} {place : PoolPlace}
    {next failed : Option ClaimPoint}
    (h : point.removal connection = some (place, next, failed)) :
    place = .instances connection ∨ place = .claimed connection ∧ point.inFlight := by
  cases point with
  | retiring => cases h; exact Or.inl rfl
  | discarding rest => cases h; exact Or.inr ⟨rfl, rfl⟩
  | retracting => cases h; exact Or.inl rfl
  | cleaning => cases h; exact Or.inr ⟨rfl, rfl⟩
  | _ => cases h

/-- A call changes ready slots, its own instance, and its own claimed directory while it is in
flight. -/
theorem claimStep_touches {connection : String} {point : ClaimPoint} {action : PoolAction}
    {reservation : Option Bool} {next : Option ClaimPoint} {place : PoolPlace}
    (h : ClaimStep pool world connection point action reservation next)
    (htouches : action.Touches place) :
    (∃ slot, place = .ready slot) ∨ place = .instances connection ∨
      place = .claimed connection ∧ point.inFlight := by
  cases h with
  | take slot rest =>
    obtain rfl | rfl := htouches
    · exact Or.inl ⟨slot, rfl⟩
    · exact Or.inr (Or.inr ⟨rfl, rfl⟩)
  | takeLate slot rest =>
    obtain rfl | rfl := htouches
    · exact Or.inl ⟨slot, rfl⟩
    · exact Or.inr (Or.inr ⟨rfl, rfl⟩)
  | bind => exact Or.inr (Or.inr ⟨htouches, rfl⟩)
  | bindLate => exact Or.inr (Or.inr ⟨htouches, rfl⟩)
  | unmark => exact Or.inr (Or.inr ⟨htouches, rfl⟩)
  | publish =>
    obtain rfl | rfl := htouches
    · exact Or.inr (Or.inr ⟨rfl, rfl⟩)
    · exact Or.inr (Or.inl rfl)
  | publishLate =>
    obtain rfl | rfl := htouches
    · exact Or.inr (Or.inr ⟨rfl, rfl⟩)
    · exact Or.inr (Or.inl rfl)
  | removal point removed next failed action done raised removes step =>
    have hplace := removalStep_touches step htouches
    subst hplace
    exact Or.inr (removal_place removes)
  | _ => exact absurd htouches id

theorem claimStep_safe {thread : Nat} {connection : String} {point : ClaimPoint}
    {action : PoolAction} {reservation : Option Bool} {next : Option ClaimPoint}
    (hat : world.claims thread = some ⟨connection, point⟩)
    (h : ClaimStep pool world connection point action reservation next) :
    action.Permitted world.issued world.store ∧ world.Forward action := by
  cases h with
  | take slot rest found vacant => exact safe_move moves_take vacant
  | takeLate slot rest found vacant => exact safe_move moves_take vacant
  | publish slot found vacant => exact safe_move (moves_bind hat) vacant
  | publishLate slot found vacant => exact safe_move (moves_bind hat) vacant
  | removal point removed next failed action done raised removes step =>
    exact removalStep_safe step
  | _ => exact ⟨trivial, trivial⟩

theorem discardStep_safe {point : DiscardPoint} {action : PoolAction} {next : Option DiscardPoint}
    (h : DiscardStep pool world point action next) :
    action.Permitted world.issued world.store ∧ world.Forward action := by
  cases h with
  | dropping slot rest action done raised step => exact removalStep_safe step
  | _ => exact ⟨trivial, trivial⟩

theorem discardStep_touches {point : DiscardPoint} {action : PoolAction}
    {next : Option DiscardPoint} {place : PoolPlace}
    (h : DiscardStep pool world point action next) (htouches : action.Touches place) :
    ∃ slot, place = .ready slot := by
  cases h with
  | dropping slot rest action done raised step => exact ⟨slot, removalStep_touches step htouches⟩
  | _ => exact absurd htouches id

theorem maintenanceStep_safe {thread : Nat} {point : MaintenancePoint} {action : PoolAction}
    {next : MaintenancePoint} (hat : world.maintainers thread = point)
    (h : MaintenanceStep pool world point action next) :
    action.Permitted world.issued world.store ∧ world.Forward action := by
  cases h with
  | discard point next action step => exact discardStep_safe step
  | discardFailed point action step => exact discardStep_safe step
  | begin slots slot snapshot short fresh vacant =>
    refine ⟨⟨vacant, fun id hid => ?_⟩, Or.inr ⟨slot, rfl, rfl⟩⟩
    cases hid
    exact fresh
  | publish slot vacant => exact safe_move (moves_build hat) vacant
  | publishLate slot vacant => exact safe_move (moves_build hat) vacant
  | scrap slot action done raised step => exact removalStep_safe step
  | _ => exact ⟨trivial, trivial⟩

theorem recoveryStep_safe {point : RecoveryPoint} {action : PoolAction} {freed : Option String}
    {next : Option RecoveryPoint} (h : RecoveryStep pool world point action freed next) :
    action.Permitted world.issued world.store ∧ world.Forward action := by
  cases h with
  | clear place rest action done incomplete step => exact removalStep_safe step
  | discard point next action step => exact discardStep_safe step
  | _ => exact ⟨trivial, trivial⟩

theorem instanceLife_safe {connection : String} {action : PoolAction}
    (h : InstanceLife world.store connection action) :
    action.Permitted world.issued world.store ∧ world.Forward action := by
  cases h with
  | changes tree => exact ⟨trivial, trivial⟩
  | removed => exact ⟨trivial, trivial⟩
  | copied tree vacant =>
    refine ⟨⟨vacant, fun id hid => ?_⟩, Or.inl ⟨rfl, connection, rfl⟩⟩
    cases hid

/-- What every step does to the directories. -/
theorem poolStep_action {next : PoolWorld} (h : PoolStep pool world next) :
    ∃ action : PoolAction, next.store = action.apply world.store ∧
      next.issued = action.issue world.issued ∧ action.Permitted world.issued world.store ∧
      world.Forward action := by
  cases h with
  | claims thread claim action reservation next running at_claim step =>
    exact ⟨action, rfl, rfl, claimStep_safe at_claim step⟩
  | maintains thread action next running step => exact ⟨action, rfl, rfl, maintenanceStep_safe rfl step⟩
  | recovers point action freed next at_point step =>
    exact ⟨action, rfl, rfl, recoveryStep_safe step⟩
  | tampered slot tree => exact ⟨.rewrite (.ready slot) tree, rfl, rfl, trivial, trivial⟩
  | lives connection action life => exact ⟨action, rfl, rfl, instanceLife_safe life⟩
  | _ => exact ⟨.keep, rfl, rfl, trivial, trivial⟩

end Steps

/-- Every slot is under one place only, and where it is built or ready under its own id. -/
structure SlotsTracked (world : PoolWorld) : Prop where
  unique : Unique world.issued world.store
  named : ∀ slot item, world.store (.building slot) = some item ∨
    world.store (.ready slot) = some item → item.identity = some slot

/-- The place holds the directory that was built as the slot. -/
def PoolWorld.Holds (world : PoolWorld) (place : PoolPlace) (slot : String) : Prop :=
  ∃ tree, world.store place = some ⟨some slot, tree⟩

/-- No thread builds the slot and it is not ready: it was claimed, or it failed. -/
structure PoolWorld.Retired (world : PoolWorld) (slot : String) : Prop where
  issued : world.issued slot
  unready : world.store (.ready slot) = none
  unbuilt : ∀ thread stage, world.maintainers thread ≠ .building stage slot

section Slots

variable {pool : PoolConfig} {world next : PoolWorld}

theorem SlotsTracked.initial (h : world.Initial) : SlotsTracked world := by
  constructor
  · constructor
    · intro place other item twin id hplace hother hitem htwin
      rw [(h.slots place item hplace).1] at hitem
      cases hitem
    · intro place item id hplace hitem
      rw [(h.slots place item hplace).1] at hitem
      cases hitem
  · intro slot item hitem
    obtain hbuilding | hready := hitem
    · obtain ⟨_, connection, hplace⟩ := h.slots _ _ hbuilding
      cases hplace
    · obtain ⟨_, connection, hplace⟩ := h.slots _ _ hready
      cases hplace

theorem SlotsTracked.one (h : SlotsTracked world) {place other : PoolPlace} {slot : String}
    (hplace : world.Holds place slot) (hother : world.Holds other slot) : place = other := by
  obtain ⟨tree, htree⟩ := hplace
  obtain ⟨twin, htwin⟩ := hother
  exact h.unique.one place other _ _ slot htree htwin rfl rfl

theorem SlotsTracked.ready (h : SlotsTracked world) {slot : String}
    (hready : world.store (.ready slot) ≠ none) : world.Holds (.ready slot) slot := by
  obtain ⟨item, hitem⟩ := Option.ne_none_iff_exists'.mp hready
  obtain ⟨identity, tree⟩ := item
  have hidentity := h.named slot _ (Or.inr hitem)
  subst hidentity
  exact ⟨tree, hitem⟩

theorem SlotsTracked.building (h : SlotsTracked world) {slot : String}
    (hbuilding : world.store (.building slot) ≠ none) : world.Holds (.building slot) slot := by
  obtain ⟨item, hitem⟩ := Option.ne_none_iff_exists'.mp hbuilding
  obtain ⟨identity, tree⟩ := item
  have hidentity := h.named slot _ (Or.inl hitem)
  subst hidentity
  exact ⟨tree, hitem⟩

/-- Where the directory of a place was before a step. -/
theorem poolStep_origin (hstep : PoolStep pool world next) {place : PoolPlace}
    {item : Item String Tree} (hitem : next.store place = some item) :
    (∃ old, world.store place = some old ∧ old.identity = item.identity) ∨
      (∃ source, world.Moves source place ∧ world.store source = some item) ∨
      (item.identity = none ∧ ∃ connection, place = .instances connection) ∨
      ∃ slot, item.identity = some slot ∧ place = .building slot ∧ ¬ world.issued slot := by
  obtain ⟨action, hstore, _, hpermitted, hforward⟩ := poolStep_action hstep
  rw [hstore] at hitem
  obtain ⟨old, hold, hidentity, _⟩ | ⟨source, rfl, hsource⟩ | rfl := Action.apply_origin hitem
  · exact Or.inl ⟨old, hold, hidentity⟩
  · exact Or.inr (Or.inl ⟨source, hforward, hsource⟩)
  · obtain hcopy | ⟨slot, hidentity, hplace⟩ := hforward
    · exact Or.inr (Or.inr (Or.inl hcopy))
    · exact Or.inr (Or.inr (Or.inr ⟨slot, hidentity, hplace, hpermitted.2 slot hidentity⟩))

theorem SlotsTracked.step (h : SlotsTracked world) (hstep : PoolStep pool world next) :
    SlotsTracked next := by
  constructor
  · obtain ⟨action, hstore, hissued, hpermitted, _⟩ := poolStep_action hstep
    rw [hstore, hissued]
    exact h.unique.apply hpermitted
  · intro slot item hitem
    obtain hbuilding | hready := hitem
    · obtain ⟨old, hold, hidentity⟩ | ⟨source, hmoves, _⟩ | ⟨_, _, hplace⟩ |
        ⟨other, hidentity, hplace, _⟩ := poolStep_origin hstep hbuilding
      · exact hidentity.symm.trans (h.named slot old (Or.inl hold))
      · cases source <;> exact absurd hmoves.leads id
      · cases hplace
      · cases hplace
        exact hidentity
    · obtain ⟨old, hold, hidentity⟩ | ⟨source, hmoves, hsource⟩ | ⟨_, _, hplace⟩ |
        ⟨other, _, hplace, _⟩ := poolStep_origin hstep hready
      · exact hidentity.symm.trans (h.named slot old (Or.inr hold))
      · cases source with
        | building other =>
          have hsame : slot = other := hmoves.leads
          subst hsame
          exact h.named slot item (Or.inl hsource)
        | _ => exact absurd hmoves.leads id
      · cases hplace
      · cases hplace

theorem SlotsTracked.run (h : SlotsTracked world) (hrun : PoolRun pool world next) :
    SlotsTracked next := by
  induction hrun with
  | refl => exact h
  | step middle last run hlast ih => exact ih.step hlast

/-- A slot that is somewhere after a step was there, or one place earlier on its way. -/
theorem holds_step (hstep : PoolStep pool world next) {place : PoolPlace} {slot : String}
    (hissued : world.issued slot) (hholds : next.Holds place slot) :
    ∃ old, world.Holds old slot ∧ (old = place ∨ old.Leads place) := by
  obtain ⟨tree, htree⟩ := hholds
  obtain ⟨old, hold, hidentity⟩ | ⟨source, hmoves, hsource⟩ | ⟨hidentity, _⟩ |
    ⟨other, hidentity, _, hfresh⟩ := poolStep_origin hstep htree
  · obtain ⟨identity, content⟩ := old
    cases hidentity
    exact ⟨place, ⟨content, hold⟩, Or.inl rfl⟩
  · exact ⟨source, ⟨tree, hsource⟩, Or.inr hmoves.leads⟩
  · cases hidentity
  · cases hidentity
    exact absurd hissued hfresh

theorem issued_step (hstep : PoolStep pool world next) {slot : String}
    (hissued : world.issued slot) : next.issued slot := by
  obtain ⟨action, _, heq, _⟩ := poolStep_action hstep
  rw [heq]
  exact Action.issue_mono action hissued

theorem issued_run (hrun : PoolRun pool world next) {slot : String} (hissued : world.issued slot) :
    next.issued slot := by
  induction hrun with
  | refl => exact hissued
  | step middle last run hlast ih => exact issued_step hlast ih

/-- A slot that is somewhere after a run was there, or earlier on its way, before. -/
theorem holds_run (hrun : PoolRun pool world next) {place : PoolPlace} {slot : String}
    (hissued : world.issued slot) (hholds : next.Holds place slot) :
    ∃ old, world.Holds old slot ∧ Relation.ReflTransGen PoolPlace.Leads old place := by
  induction hrun generalizing place with
  | refl => exact ⟨place, hholds, .refl⟩
  | step middle last run hlast ih =>
    obtain ⟨between, hbetween, hway⟩ := holds_step hlast (issued_run run hissued) hholds
    obtain ⟨old, hold, hbefore⟩ := ih hbetween
    obtain rfl | hleads := hway
    · exact ⟨old, hold, hbefore⟩
    · exact ⟨old, hold, hbefore.tail hleads⟩

theorem owner_leads {source target : PoolPlace} {connection : String}
    (h : source.Leads target) (howner : source.owner = some connection) :
    target.owner = some connection := by
  cases source with
  | claimed owner =>
    cases target with
    | instances other =>
      have hsame : other = owner := h
      rw [hsame]
      exact howner
    | _ => exact absurd h id
  | instances owner => cases target <;> exact absurd h id
  | _ => cases howner

theorem owner_way {source target : PoolPlace} {connection : String}
    (h : Relation.ReflTransGen PoolPlace.Leads source target)
    (howner : source.owner = some connection) : target.owner = some connection := by
  induction h with
  | refl => exact howner
  | tail _ hleads ih => exact owner_leads hleads ih

/-- Once a connection has a slot, the slot is with that connection or nowhere. -/
theorem owner_run (htracked : SlotsTracked world) (hrun : PoolRun pool world next)
    {place other : PoolPlace} {slot connection : String} (hholds : world.Holds place slot)
    (howner : place.owner = some connection) (hlater : next.Holds other slot) :
    other.owner = some connection := by
  obtain ⟨tree, htree⟩ := hholds
  have hissued := htracked.unique.known place _ slot htree rfl
  obtain ⟨old, hold, hway⟩ := holds_run hrun hissued hlater
  have hsame := htracked.one ⟨tree, htree⟩ hold
  subst hsame
  exact owner_way hway howner

/-- A build starts with a fresh id only. -/
theorem maintenanceStep_builds {point later : MaintenancePoint} {action : PoolAction}
    {stage : BuildStage} {slot : String} (h : MaintenanceStep pool world point action later)
    (hlater : later = .building stage slot) :
    (∃ before, point = .building before slot) ∨ ¬ world.issued slot := by
  cases h with
  | begin slots built snapshot short fresh vacant =>
    cases hlater
    exact Or.inr fresh
  | copy => cases hlater; exact Or.inl ⟨_, rfl⟩
  | sanitise => cases hlater; exact Or.inl ⟨_, rfl⟩
  | sealing => cases hlater; exact Or.inl ⟨_, rfl⟩
  | record => cases hlater; exact Or.inl ⟨_, rfl⟩
  | verify => cases hlater; exact Or.inl ⟨_, rfl⟩
  | scrap built action done raised step =>
    split at hlater <;> cases hlater
  | _ => cases hlater

theorem PoolWorld.Retired.step {slot : String} (h : world.Retired slot)
    (hstep : PoolStep pool world next) : next.Retired slot := by
  refine ⟨issued_step hstep h.issued, ?_, ?_⟩
  · by_contra hready
    obtain ⟨item, hitem⟩ := Option.ne_none_iff_exists'.mp hready
    obtain ⟨old, hold, _⟩ | ⟨source, hmoves, _⟩ | ⟨_, _, hplace⟩ | ⟨_, _, hplace, _⟩ :=
      poolStep_origin hstep hitem
    · rw [h.unready] at hold
      cases hold
    · obtain ⟨thread, hbuilding⟩ := hmoves.built slot rfl
      exact h.unbuilt thread _ hbuilding
    · cases hplace
    · cases hplace
  · intro thread stage hbuilding
    cases hstep with
    | maintains acting action later running step =>
      by_cases hthread : thread = acting
      · subst hthread
        have hlater := (Function.update_self thread later world.maintainers).symm.trans hbuilding
        obtain ⟨before, hbefore⟩ | hfresh := maintenanceStep_builds step hlater
        · exact h.unbuilt thread before hbefore
        · exact hfresh h.issued
      · have hsame := (Function.update_of_ne hthread later world.maintainers).symm.trans hbuilding
        exact h.unbuilt thread stage hsame
    | crash => cases hbuilding
    | _ => exact h.unbuilt thread stage hbuilding

theorem PoolWorld.Retired.run {slot : String} (h : world.Retired slot)
    (hrun : PoolRun pool world next) : next.Retired slot := by
  induction hrun with
  | refl => exact h
  | step middle last run hlast ih => exact ih.step hlast

end Slots

end TradeJournalWorker
