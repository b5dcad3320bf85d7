import TradeJournalWorker.PoolSafety

namespace TradeJournalWorker

open RenameStore

/-- What a call knows about the directory that it has taken. -/
def ClaimPoint.Knows (pool : PoolConfig) (store : PoolStore) (connection : String) :
    ClaimPoint → Prop
  | .validated slot state => ∃ tree template,
      store (.claimed connection) = some ⟨some slot, tree⟩ ∧
      validateSlot pool.checks template tree = .ok state
  | .rebound slot => ∃ tree template state now,
      store (.claimed connection) = some ⟨some slot, setNode tree instanceJson (.instanceFile
        (boundInstance connection slot (pool.terminalPath connection) now state))⟩ ∧
      validateSlot pool.checks template tree = .ok state
  | .moved slot _ => ∃ tree, store (.claimed connection) = some ⟨some slot, tree⟩
  | .unlinked slot => ∃ tree, store (.claimed connection) = some ⟨some slot, tree⟩ ∧
      PublishedFromPool pool.checks connection slot tree
  | .publishing slot => ∃ tree, store (.claimed connection) = some ⟨some slot, tree⟩ ∧
      PublishedFromPool pool.checks connection slot tree
  | _ => True

/-- The slot that a thread of the replenishment builds or scraps. -/
def MaintenancePoint.slot : MaintenancePoint → Option String
  | .building _ slot => some slot
  | .scrapping slot => some slot
  | _ => none

/-- What the threads of the pool may rely on between their steps. -/
structure ThreadsApart (pool : PoolConfig) (world : PoolWorld) : Prop where
  quiet : world.recovery ≠ none → ∀ thread, world.claims thread = none ∧
    (world.maintainers thread).slot = none
  reserved : ∀ thread claim, world.claims thread = some claim → claim.point.inFlight →
    world.reserved claim.connection = true
  alone : ∀ thread other first second, world.claims thread = some first →
    world.claims other = some second → first.point.inFlight → second.point.inFlight →
    first.connection = second.connection → thread = other
  knows : ∀ thread claim, world.claims thread = some claim →
    claim.point.Knows pool world.store claim.connection
  builders : ∀ thread other slot, (world.maintainers thread).slot = some slot →
    (world.maintainers other).slot = some slot → thread = other
  drawn : ∀ thread slot, (world.maintainers thread).slot = some slot → world.issued slot

section Claims

variable {pool : PoolConfig} {world : PoolWorld} {connection : String} {point : ClaimPoint}
  {action : PoolAction} {reservation : Option Bool} {next : Option ClaimPoint}

theorem ClaimPoint.Knows.congr {store changed : PoolStore}
    (hsame : point.inFlight → changed (.claimed connection) = store (.claimed connection))
    (h : point.Knows pool store connection) : point.Knows pool changed connection := by
  cases point with
  | moved slot rest =>
    obtain ⟨tree, htree⟩ := h
    exact ⟨tree, (hsame rfl).trans htree⟩
  | validated slot state =>
    obtain ⟨tree, template, htree, hvalid⟩ := h
    exact ⟨tree, template, (hsame rfl).trans htree, hvalid⟩
  | rebound slot =>
    obtain ⟨tree, template, state, now, htree, hvalid⟩ := h
    exact ⟨tree, template, state, now, (hsame rfl).trans htree, hvalid⟩
  | unlinked slot =>
    obtain ⟨tree, htree, hpublished⟩ := h
    exact ⟨tree, (hsame rfl).trans htree, hpublished⟩
  | publishing slot =>
    obtain ⟨tree, htree, hpublished⟩ := h
    exact ⟨tree, (hsame rfl).trans htree, hpublished⟩
  | _ => trivial

/-- After a removal a call knows nothing about a taken directory. -/
theorem removal_knows {store : PoolStore} {place : PoolPlace} {after failed : Option ClaimPoint}
    {later : ClaimPoint} (hremoves : point.removal connection = some (place, after, failed))
    (hlater : later = point ∨ after = some later ∨ failed = some later) :
    later.Knows pool store connection := by
  cases point with
  | retiring =>
    cases hremoves
    obtain rfl | hlater | hlater := hlater <;> first | trivial | (cases hlater; trivial)
  | discarding rest =>
    cases hremoves
    obtain rfl | hlater | hlater := hlater <;> first | trivial | (cases hlater; trivial)
  | retracting =>
    cases hremoves
    obtain rfl | hlater | hlater := hlater <;> first | trivial | (cases hlater; trivial)
  | cleaning =>
    cases hremoves
    obtain rfl | hlater | hlater := hlater <;> first | trivial | (cases hlater; trivial)
  | _ => cases hremoves

theorem claimStep_knows (htracked : SlotsTracked world)
    (hstep : ClaimStep pool world connection point action reservation next)
    (hknows : point.Knows pool world.store connection) {later : ClaimPoint}
    (hlater : next = some later) : later.Knows pool (action.apply world.store) connection := by
  cases hstep with
  | take slot rest found vacant =>
    cases hlater
    obtain ⟨tree, htree⟩ := htracked.ready found
    have hmoved := @Action.apply_move _ _ _ _ world.store (.ready slot) (.claimed connection)
      (fun heq => by cases heq)
    exact ⟨tree, hmoved.trans htree⟩
  | validate slot rest item state found valid =>
    cases hlater
    obtain ⟨tree, htree⟩ := hknows
    rw [htree] at found
    cases found
    exact ⟨tree, world.template, htree, valid⟩
  | bind slot state item now found =>
    cases hlater
    obtain ⟨tree, template, htree, hvalid⟩ := hknows
    rw [htree] at found
    cases found
    exact ⟨tree, template, state, now, Action.apply_rewrite htree, hvalid⟩
  | unmark slot item found =>
    cases hlater
    obtain ⟨tree, template, state, now, htree, hvalid⟩ := hknows
    rw [htree] at found
    cases found
    exact ⟨_, Action.apply_rewrite htree, publishedFromPool_boundTree hvalid⟩
  | free slot vacant =>
    cases hlater
    exact hknows
  | removal point removed after failed action done raised removes step =>
    refine removal_knows removes ?_
    cases raised with
    | true => exact Or.inr (Or.inr hlater)
    | false =>
      cases done with
      | true => exact Or.inr (Or.inl hlater)
      | false => exact Or.inl (Option.some.inj hlater).symm
  | _ => cases hlater <;> trivial

/-- A call gets in flight through a reservation that was free. -/
theorem claimStep_inFlight (hstep : ClaimStep pool world connection point action reservation next)
    {later : ClaimPoint} (hlater : next = some later) (hflight : later.inFlight) :
    (point.inFlight ∧ reservation = none) ∨
      (reservation = some true ∧ world.reserved connection = false) := by
  cases hstep with
  | reserve free => exact Or.inr ⟨rfl, free⟩
  | absent => cases hlater; cases hflight
  | present => cases hlater; cases hflight
  | incomplete => cases hlater; cases hflight
  | vanished => cases hlater; cases hflight
  | removal point removed after failed action done raised removes step =>
    refine Or.inl ⟨?_, rfl⟩
    cases point with
    | retiring =>
      cases removes
      cases raised <;> cases done <;> cases hlater <;> cases hflight
    | discarding rest => rfl
    | retracting => rfl
    | cleaning => rfl
    | _ => cases removes
  | _ => first | exact Or.inl ⟨rfl, rfl⟩ | cases hlater

/-- A reservation is given back by the last step of its call. -/
theorem claimStep_releases (hstep : ClaimStep pool world connection point action reservation next)
    (h : reservation = some false) : point.inFlight ∧ next = none := by
  cases hstep with
  | release => exact ⟨rfl, rfl⟩
  | _ => cases h

end Claims

section Maintenance

variable {pool : PoolConfig} {world : PoolWorld} {point later : MaintenancePoint}
  {action : PoolAction}

theorem maintenanceStep_touches {place : PoolPlace}
    (h : MaintenanceStep pool world point action later) (htouches : action.Touches place) :
    place.owner = none := by
  cases h with
  | discard before after action step =>
    obtain ⟨slot, rfl⟩ := discardStep_touches step htouches
    rfl
  | discardFailed before action step =>
    obtain ⟨slot, rfl⟩ := discardStep_touches step htouches
    rfl
  | begin => cases htouches; rfl
  | copy => cases htouches; rfl
  | sanitise => cases htouches; rfl
  | sealing => cases htouches; rfl
  | record => cases htouches; rfl
  | publish =>
    obtain rfl | rfl := htouches
    · rfl
    · rfl
  | publishLate =>
    obtain rfl | rfl := htouches
    · rfl
    · rfl
  | scrap slot action done raised step =>
    have hplace := removalStep_touches step htouches
    subst hplace
    rfl
  | _ => exact absurd htouches id

theorem maintenanceStep_slot {slot : String} (h : MaintenanceStep pool world point action later)
    (hlater : later.slot = some slot) :
    point.slot = some slot ∨ ¬ world.issued slot ∧ action.issue world.issued slot := by
  cases h with
  | begin slots built snapshot short fresh vacant =>
    cases hlater
    exact Or.inr ⟨fresh, Or.inr rfl⟩
  | scrap built action done raised step =>
    split at hlater
    · cases hlater
    · exact Or.inl hlater
  | start => cases hlater
  | discard => cases hlater
  | discardFailed => cases hlater
  | discarded => cases hlater
  | enough => cases hlater
  | publish => cases hlater
  | _ => exact Or.inl hlater

end Maintenance

namespace ThreadsApart

variable {pool : PoolConfig} {world next : PoolWorld}

theorem initial (h : world.Initial) : ThreadsApart pool world := by
  have hclaims : ∀ {thread claim}, world.claims thread = some claim → False := by
    intro thread claim hclaim
    rw [(h.idle thread).1] at hclaim
    cases hclaim
  have hslots : ∀ {thread slot}, (world.maintainers thread).slot = some slot → False := by
    intro thread slot hslot
    rw [(h.idle thread).2] at hslot
    cases hslot
  exact {
    quiet := fun _ thread => ⟨(h.idle thread).1, congrArg MaintenancePoint.slot (h.idle thread).2⟩
    reserved := fun _ _ hclaim => (hclaims hclaim).elim
    alone := fun _ _ _ _ hclaim => (hclaims hclaim).elim
    knows := fun _ _ hclaim => (hclaims hclaim).elim
    builders := fun _ _ _ hslot => (hslots hslot).elim
    drawn := fun _ _ hslot => (hslots hslot).elim }

/-- A step that leaves the threads and the claimed directories alone. -/
theorem frame (h : ThreadsApart pool world) (hclaims : next.claims = world.claims)
    (hmaintainers : next.maintainers = world.maintainers)
    (hreserved : next.reserved = world.reserved) (hrecovery : next.recovery = world.recovery)
    (hstore : ∀ connection, next.store (.claimed connection) = world.store (.claimed connection))
    (hissued : ∀ slot, world.issued slot → next.issued slot) : ThreadsApart pool next := by
  constructor
  · rw [hclaims, hmaintainers, hrecovery]
    exact h.quiet
  · rw [hclaims, hreserved]
    exact h.reserved
  · rw [hclaims]
    exact h.alone
  · intro thread claim hclaim
    rw [hclaims] at hclaim
    exact (h.knows thread claim hclaim).congr fun _ => hstore claim.connection
  · rw [hmaintainers]
    exact h.builders
  · intro thread slot hslot
    rw [hmaintainers] at hslot
    exact hissued slot (h.drawn thread slot hslot)

theorem claimed_kept (h : ThreadsApart pool world) {thread other : Nat} {claim rest : Claim}
    {action : PoolAction} {reservation : Option Bool} {later : Option ClaimPoint}
    (hclaim : world.claims thread = some claim) (hrest : world.claims other = some rest)
    (hne : other ≠ thread)
    (hstep : ClaimStep pool world claim.connection claim.point action reservation later)
    (hflight : rest.point.inFlight) :
    action.apply world.store (.claimed rest.connection) =
      world.store (.claimed rest.connection) := by
  refine Action.apply_of_not_touches fun htouches => ?_
  obtain ⟨slot, hplace⟩ | hplace | ⟨hplace, hacting⟩ := claimStep_touches hstep htouches
  · cases hplace
  · cases hplace
  · have hconnection : rest.connection = claim.connection := by injection hplace
    exact hne (h.alone other thread rest claim hrest hclaim hflight hacting hconnection)

/-- The calls after a step of one of them: that one goes on, the others are as they were. -/
theorem claim_after {thread other : Nat} {claims : Nat → Option Claim} {connection : String}
    {later : Option ClaimPoint} {after : Claim}
    (h : Function.update claims thread (later.map (Claim.mk connection)) other = some after) :
    (other = thread ∧ ∃ point, later = some point ∧ after = ⟨connection, point⟩) ∨
      (other ≠ thread ∧ claims other = some after) := by
  by_cases hother : other = thread
  · subst hother
    have hself := (Function.update_self other _ claims).symm.trans h
    obtain ⟨point, hpoint, hafter⟩ := Option.map_eq_some_iff.mp hself
    exact Or.inl ⟨rfl, point, hpoint, hafter.symm⟩
  · exact Or.inr ⟨hother, (Function.update_of_ne hother _ claims).symm.trans h⟩

/-- While a call is in flight no other call of its connection gets in flight. -/
theorem not_joined (h : ThreadsApart pool world) {thread other : Nat} {claim rest : Claim}
    {action : PoolAction} {reservation : Option Bool} {later : Option ClaimPoint}
    {point : ClaimPoint} (hclaim : world.claims thread = some claim)
    (hrest : world.claims other = some rest) (hne : other ≠ thread)
    (hstep : ClaimStep pool world claim.connection claim.point action reservation later)
    (hlater : later = some point) (hpoint : point.inFlight) (hflight : rest.point.inFlight)
    (hsame : rest.connection = claim.connection) : False := by
  obtain ⟨hacting, _⟩ | ⟨_, hfree⟩ := claimStep_inFlight hstep hlater hpoint
  · exact hne (h.alone other thread rest claim hrest hclaim hflight hacting hsame)
  · have htaken := h.reserved other rest hrest hflight
    rw [hsame, hfree] at htaken
    cases htaken

theorem claims (h : ThreadsApart pool world) (htracked : SlotsTracked world) {thread : Nat}
    {claim : Claim} {action : PoolAction} {reservation : Option Bool} {later : Option ClaimPoint}
    (running : world.recovery = none) (hclaim : world.claims thread = some claim)
    (hstep : ClaimStep pool world claim.connection claim.point action reservation later) :
    ThreadsApart pool
      { world.act action with
        claims := Function.update world.claims thread (later.map (Claim.mk claim.connection))
        reserved := (reservation.map (Function.update world.reserved claim.connection)).getD
          world.reserved } := by
  constructor
  · intro hrecovery
    exact absurd running hrecovery
  · intro other after hafter hflight
    obtain ⟨rfl, point, hlater, rfl⟩ | ⟨hne, hother⟩ := claim_after hafter
    · obtain ⟨hacting, rfl⟩ | ⟨rfl, _⟩ := claimStep_inFlight hstep hlater hflight
      · exact h.reserved other claim hclaim hacting
      · exact Function.update_self claim.connection true world.reserved
    · have htaken := h.reserved other after hother hflight
      cases reservation with
      | none => exact htaken
      | some taken =>
        by_cases hsame : after.connection = claim.connection
        · cases taken with
          | true =>
            rw [hsame]
            exact Function.update_self claim.connection true world.reserved
          | false =>
            have hacting := (claimStep_releases hstep rfl).1
            exact absurd (h.alone other thread after claim hother hclaim hflight hacting hsame) hne
        · exact (Function.update_of_ne hsame taken world.reserved).trans htaken
  · intro first second one two hone htwo hflight hflight' hsame
    obtain ⟨rfl, point, hlater, rfl⟩ | ⟨hne, hfirst⟩ := claim_after hone
    · obtain ⟨rfl, _⟩ | ⟨hne, hsecond⟩ := claim_after htwo
      · rfl
      · exact (h.not_joined hclaim hsecond hne hstep hlater hflight hflight' hsame.symm).elim
    · obtain ⟨rfl, point, hlater, rfl⟩ | ⟨hne', hsecond⟩ := claim_after htwo
      · exact (h.not_joined hclaim hfirst hne hstep hlater hflight' hflight hsame).elim
      · exact h.alone first second one two hfirst hsecond hflight hflight' hsame
  · intro other after hafter
    obtain ⟨rfl, point, hlater, rfl⟩ | ⟨hne, hafter⟩ := claim_after hafter
    · exact claimStep_knows htracked hstep (h.knows other claim hclaim) hlater
    · exact (h.knows other after hafter).congr fun hflight =>
        h.claimed_kept hclaim hafter hne hstep hflight
  · exact h.builders
  · intro other slot hslot
    exact Action.issue_mono action (h.drawn other slot hslot)

/-- The slots in the hands of the replenishment after a step of one of its threads. -/
theorem slot_after {thread other : Nat} {maintainers : Nat → MaintenancePoint}
    {later : MaintenancePoint} {slot : String}
    (h : (Function.update maintainers thread later other).slot = some slot) :
    (other = thread ∧ later.slot = some slot) ∨
      (other ≠ thread ∧ (maintainers other).slot = some slot) := by
  by_cases hother : other = thread
  · subst hother
    rw [Function.update_self] at h
    exact Or.inl ⟨rfl, h⟩
  · rw [Function.update_of_ne hother] at h
    exact Or.inr ⟨hother, h⟩

theorem maintains (h : ThreadsApart pool world) {thread : Nat} {action : PoolAction}
    {later : MaintenancePoint} (running : world.recovery = none)
    (hstep : MaintenanceStep pool world (world.maintainers thread) action later) :
    ThreadsApart pool
      { world.act action with
        maintainers := Function.update world.maintainers thread later } := by
  have hkept : ∀ connection, action.apply world.store (.claimed connection) =
      world.store (.claimed connection) := by
    intro connection
    refine Action.apply_of_not_touches fun htouches => ?_
    cases maintenanceStep_touches hstep htouches
  constructor
  · intro hrecovery
    exact absurd running hrecovery
  · exact h.reserved
  · exact h.alone
  · intro other claim hclaim
    exact (h.knows other claim hclaim).congr fun _ => hkept claim.connection
  · have hown : ∀ other slot, other ≠ thread → (world.maintainers other).slot = some slot →
        later.slot ≠ some slot := by
      intro other slot hne hslot hlater
      obtain hbefore | ⟨hfresh, _⟩ := maintenanceStep_slot hstep hlater
      · exact hne (h.builders other thread slot hslot hbefore)
      · exact hfresh (h.drawn other slot hslot)
    intro first second slot hfirst hsecond
    obtain ⟨rfl, hlater⟩ | ⟨hne, hone⟩ := slot_after hfirst
    · obtain ⟨rfl, _⟩ | ⟨hne, htwo⟩ := slot_after hsecond
      · rfl
      · exact absurd hlater (hown second slot hne htwo)
    · obtain ⟨rfl, hlater⟩ | ⟨hne', htwo⟩ := slot_after hsecond
      · exact absurd hlater (hown first slot hne hone)
      · exact h.builders first second slot hone htwo
  · intro other slot hslot
    obtain ⟨rfl, hlater⟩ | ⟨hne, hslot⟩ := slot_after hslot
    · obtain hbefore | ⟨_, hissued⟩ := maintenanceStep_slot hstep hlater
      · exact Action.issue_mono action (h.drawn other slot hbefore)
      · exact hissued
    · exact Action.issue_mono action (h.drawn other slot hslot)

/-- During a recovery there is no other thread. -/
theorem recovers (h : ThreadsApart pool world) (hrecovery : world.recovery ≠ none)
    (hclaims : next.claims = world.claims) (hmaintainers : next.maintainers = world.maintainers) :
    ThreadsApart pool next := by
  have hnone : ∀ {thread claim}, next.claims thread = some claim → False := by
    intro thread claim hclaim
    rw [hclaims, (h.quiet hrecovery thread).1] at hclaim
    cases hclaim
  have hidle : ∀ {thread slot}, (next.maintainers thread).slot = some slot → False := by
    intro thread slot hslot
    rw [hmaintainers, (h.quiet hrecovery thread).2] at hslot
    cases hslot
  exact {
    quiet := fun _ thread => by
      rw [hclaims, hmaintainers]
      exact h.quiet hrecovery thread
    reserved := fun _ _ hclaim => (hnone hclaim).elim
    alone := fun _ _ _ _ hclaim => (hnone hclaim).elim
    knows := fun _ _ hclaim => (hnone hclaim).elim
    builders := fun _ _ _ hslot => (hidle hslot).elim
    drawn := fun _ _ hslot => (hidle hslot).elim }

theorem crash (world : PoolWorld) :
    ThreadsApart pool
      { world with
        claims := fun _ => none
        maintainers := fun _ => .idle
        recovery := some .listing } where
  quiet := fun _ _ => ⟨rfl, rfl⟩
  reserved := fun _ _ hclaim => by cases hclaim
  alone := fun _ _ _ _ hclaim => by cases hclaim
  knows := fun _ _ hclaim => by cases hclaim
  builders := fun _ _ _ hslot => by cases hslot
  drawn := fun _ _ hslot => by cases hslot

theorem claimStarts (h : ThreadsApart pool world) (running : world.recovery = none)
    (thread : Nat) (connection : String) :
    ThreadsApart pool
      { world with
        claims := Function.update world.claims thread (some ⟨connection, .entry⟩) } := by
  have hafter : ∀ {other after}, Function.update world.claims thread (some ⟨connection, .entry⟩)
      other = some after → after.point = .entry ∨ world.claims other = some after := by
    intro other after h
    by_cases hother : other = thread
    · subst hother
      rw [Function.update_self] at h
      cases h
      exact Or.inl rfl
    · rw [Function.update_of_ne hother] at h
      exact Or.inr h
  constructor
  · intro hrecovery
    exact absurd running hrecovery
  · intro other after hother hflight
    obtain hentry | hother := hafter hother
    · rw [hentry] at hflight
      cases hflight
    · exact h.reserved other after hother hflight
  · intro first second one two hone htwo hflight hflight' hsame
    obtain hentry | hone := hafter hone
    · rw [hentry] at hflight
      cases hflight
    · obtain hentry | htwo := hafter htwo
      · rw [hentry] at hflight'
        cases hflight'
      · exact h.alone first second one two hone htwo hflight hflight' hsame
  · intro other after hother
    obtain hentry | hother := hafter hother
    · rw [hentry]
      trivial
    · exact h.knows other after hother
  · exact h.builders
  · exact h.drawn

theorem step (h : ThreadsApart pool world) (htracked : SlotsTracked world)
    (hstep : PoolStep pool world next) : ThreadsApart pool next := by
  cases hstep with
  | claimStarts thread connection running idle => exact h.claimStarts running thread connection
  | claims thread claim action reservation later running at_claim step =>
    exact h.claims htracked running at_claim step
  | maintains thread action later running step => exact h.maintains running step
  | crash => exact crash world
  | recovers point action freed later at_point step =>
    have hrecovery : world.recovery ≠ none := by
      rw [at_point]
      exact Option.some_ne_none point
    exact h.recovers hrecovery rfl rfl
  | templateChanges template =>
    exact h.frame rfl rfl rfl rfl (fun _ => rfl) (fun _ hissued => hissued)
  | tampered slot tree =>
    have hkept : ∀ connection, (Action.rewrite (.ready slot) tree : PoolAction).apply world.store
        (.claimed connection) = world.store (.claimed connection) :=
      fun connection => Action.apply_of_not_touches fun htouches => by cases htouches
    exact h.frame rfl rfl rfl rfl hkept (fun _ hissued => hissued)
  | lives connection action life =>
    refine h.frame rfl rfl rfl rfl (fun other => ?_) fun _ hissued =>
      Action.issue_mono action hissued
    refine Action.apply_of_not_touches fun htouches => ?_
    cases life <;> cases htouches

theorem run (h : ThreadsApart pool world) (htracked : SlotsTracked world)
    (hrun : PoolRun pool world next) : ThreadsApart pool next := by
  induction hrun with
  | refl => exact h
  | step middle last run hlast ih => exact ih.step (htracked.run run) hlast

/-- What a step publishes for a connection is valid and sanitised. -/
theorem published (h : ThreadsApart pool world)
    (hstep : PoolStep pool world next) {connection slot : String} {tree : Tree}
    (hbefore : ¬ world.Holds (.instances connection) slot)
    (hafter : next.store (.instances connection) = some ⟨some slot, tree⟩) :
    PublishedFromPool pool.checks connection slot tree := by
  obtain ⟨old, hold, hidentity⟩ | ⟨source, hmoves, hsource⟩ | ⟨hidentity, _⟩ | ⟨_, _, hplace, _⟩ :=
    poolStep_origin hstep hafter
  · obtain ⟨identity, content⟩ := old
    cases hidentity
    exact absurd ⟨content, hold⟩ hbefore
  · obtain ⟨thread, bound, hclaim⟩ := hmoves.bound connection rfl
    obtain ⟨known, hknown, hpublished⟩ := h.knows thread _ hclaim
    cases source with
    | claimed owner =>
      have hsame : connection = owner := hmoves.leads
      subst hsame
      rw [hknown] at hsource
      cases hsource
      exact hpublished
    | _ => exact absurd hmoves.leads id
  · cases hidentity
  · cases hplace

end ThreadsApart

end TradeJournalWorker
