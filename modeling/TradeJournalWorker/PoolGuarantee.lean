import TradeJournalWorker.PoolThreads

namespace TradeJournalWorker

open RenameStore

/-- What the pool guarantees in a world of a run. -/
structure PoolSafe (pool : PoolConfig) (world : PoolWorld) : Prop where
  /-- A connection has at most one call in flight. -/
  oneClaim : ∀ thread other first second, world.claims thread = some first →
    world.claims other = some second → first.point.inFlight → second.point.inFlight →
    first.connection = second.connection → thread = other
  /-- A slot is under one place at a time. -/
  onePlace : ∀ slot place other, world.Holds place slot → world.Holds other slot → place = other
  /-- The slot of a connection never gets to another one. -/
  oneInstance : ∀ later slot connection place other, PoolRun pool world later →
    world.Holds place slot → place.owner = some connection → later.Holds other slot →
    other.owner = some connection
  /-- A claimed slot is never ready again, nor is one that is neither ready nor under
  construction. -/
  neverReady : ∀ later slot, PoolRun pool world later →
    (∃ place connection, world.Holds place slot ∧ place.owner = some connection) ∨
      world.Retired slot → later.store (.ready slot) = none
  /-- A build that failed before its publication leaves no slot that can get ready. -/
  failedBuild : ∀ thread slot, world.maintainers thread = .scrapping slot →
    world.store (.ready slot) = none → world.Retired slot
  /-- What a step publishes for a connection is valid and sanitised. -/
  published : ∀ next connection slot tree, PoolStep pool world next →
    ¬ world.Holds (.instances connection) slot →
    next.store (.instances connection) = some ⟨some slot, tree⟩ →
    PublishedFromPool pool.checks connection slot tree

/-- The pool is safe in every world that calls, replenishment, crashes and recoveries lead to. -/
theorem warm_pool_safe (pool : PoolConfig) {start world : PoolWorld} (hstart : start.Initial)
    (hrun : PoolRun pool start world) : PoolSafe pool world := by
  have htracked : SlotsTracked world := (SlotsTracked.initial hstart).run hrun
  have hapart : ThreadsApart pool world :=
    (ThreadsApart.initial hstart).run (SlotsTracked.initial hstart) hrun
  constructor
  · exact hapart.alone
  · intro slot place other hplace hother
    exact htracked.one hplace hother
  · intro later slot connection place other hlater hplace howner hother
    exact owner_run htracked hlater hplace howner hother
  · intro later slot hlater hspent
    obtain ⟨place, connection, hplace, howner⟩ | hretired := hspent
    · by_contra hready
      have hholds := (htracked.run hlater).ready hready
      cases owner_run htracked hlater hplace howner hholds
    · exact (hretired.run hlater).unready
  · intro thread slot hscrapping hready
    have hslot : (world.maintainers thread).slot = some slot :=
      congrArg MaintenancePoint.slot hscrapping
    refine ⟨hapart.drawn thread slot hslot, hready, fun other stage hbuilding => ?_⟩
    have hother : (world.maintainers other).slot = some slot :=
      congrArg MaintenancePoint.slot hbuilding
    have hsame := hapart.builders thread other slot hslot hother
    subst hsame
    rw [hscrapping] at hbuilding
    cases hbuilding
  · intro next connection slot tree hstep hbefore hafter
    exact hapart.published hstep hbefore hafter

/-- The digests of a template whose only file is `terminal64.exe` with the content `MZ`. -/
def templateSha256 (text : String) : String :=
  if text = "MZ" then "9b8db510ef42b8ed54a3712636fda55a4f8cfcd5493e20b74ab00cd4f3979f2d"
  else if text.startsWith "f:" then
    "101822668d08ba877aeb78a8ac3b737bd002903f926100c1290d4b020435562a"
  else "b5ee70b76695613d86b39bb3d70665c8cdbe696dd600c4dff58300228031ee0c"

def smallPool : PoolConfig where
  checks := { unicode := asciiUnicode, sha256 := templateSha256, expectedTerminalSha256 := none }
  targetSize := 2
  maxSize := 3
  terminalPath connection := connection ++ "/terminal/terminal64.exe"

def emptyPool : PoolWorld where
  template := [(["terminal64.exe"], .file "MZ")]
  store _ := none
  reserved _ := false
  claims _ := none
  maintainers _ := .idle
  recovery := none
  issued _ := False

def warmSlot : String := "11111111-1111-4111-8111-111111111111"

def warmClient : String := "22222222-2222-4222-8222-222222222222"

theorem emptyPool_initial : emptyPool.Initial :=
  ⟨(fun _ _ h => nomatch h), fun _ => ⟨rfl, rfl⟩⟩


def warmState : InstanceRecord where
  connectionId := some warmSlot
  status := some "provisioned"
  terminal := some (smallPool.terminalPath warmSlot)
  terminalSha256 := some (templateSha256 "MZ")
  templateManifestSha256 := some (templateSha256 "f:")
  templateCodeManifestSha256 := some (templateSha256 "")

def builtSlot : Tree :=
  ["terminal", "worker", "secrets", "state", "logs", "data"].map
      (fun name => ([name], .directory)) ++
    [(["terminal", "terminal64.exe"], .file "MZ"), (instanceJson, .instanceFile warmState)]

def readySlot : Tree :=
  setNode (setNode builtSlot instanceJson (.instanceFile warmState)) poolJson
    (.poolFile (slotRecord warmSlot 1000 warmState))

theorem no_slots {store : PoolStore} (h : ∀ slot, store (.ready slot) = none) :
    IsSnapshot store [] :=
  ⟨.nil, fun slot => ⟨(fun hmem => nomatch hmem), fun hready => absurd (h slot) hready⟩⟩

theorem one_slot {store : PoolStore} (hready : store (.ready warmSlot) ≠ none)
    (hother : ∀ slot, slot ≠ warmSlot → store (.ready slot) = none) :
    IsSnapshot store [warmSlot] := by
  refine ⟨List.pairwise_singleton _ _, fun slot => ?_⟩
  by_cases hslot : slot = warmSlot
  · subst hslot
    simpa using hready
  · simpa [hslot] using hother slot hslot

/-- One slot is built and published, and the next call takes it. -/
theorem warm_claim_run : ∃ world tree, PoolRun smallPool emptyPool world ∧
    world.store (.instances warmClient) = some ⟨some warmSlot, tree⟩ := by
  have started := PoolRun.step _ _ (@PoolRun.refl smallPool emptyPool)
    (.maintains 0 _ _ rfl (.start [] (no_slots fun _ => rfl)))
  have checked := PoolRun.step _ _ started (.maintains 0 _ _ rfl .discarded)
  have begun := PoolRun.step _ _ checked (.maintains 0 _ _ rfl
    (.begin [] warmSlot (no_slots fun _ => rfl) ⟨by decide, by decide⟩ id rfl))
  have copied := PoolRun.step _ _ begun (.maintains 0 _ _ rfl
    (.copy warmSlot builtSlot (by decide +kernel)))
  have sanitised := PoolRun.step _ _ copied (.maintains 0 _ _ rfl
    (.sanitise warmSlot ⟨some warmSlot, builtSlot⟩ builtSlot rfl (by decide +kernel)))
  have sealed := PoolRun.step _ _ sanitised (.maintains 0 _ _ rfl
    (.sealing warmSlot ⟨some warmSlot, builtSlot⟩ warmState rfl (by decide +kernel)))
  have recorded := PoolRun.step _ _ sealed (.maintains 0 _ _ rfl
    (.record warmSlot ⟨some warmSlot, _⟩ warmState 1000 rfl (by decide +kernel)))
  have verified := PoolRun.step _ _ recorded (.maintains 0 _ _ rfl
    (.verify warmSlot ⟨some warmSlot, readySlot⟩ warmState rfl (by decide +kernel)))
  have readied := PoolRun.step _ _ verified (.maintains 0 _ _ rfl (.publish warmSlot rfl))
  have called := PoolRun.step _ _ readied (.claimStarts 0 warmClient rfl rfl)
  have absent := PoolRun.step _ _ called (.claims 0 _ _ _ _ rfl rfl (.absent rfl))
  have reserved := PoolRun.step _ _ absent (.claims 0 _ _ _ _ rfl rfl (.reserve rfl))
  have listed := PoolRun.step _ _ reserved (.claims 0 _ _ _ _ rfl rfl
    (.list [warmSlot] rfl (one_slot (fun h => nomatch h) fun slot hslot => by
      simp [PoolWorld.act, Action.apply, Function.update, emptyPool, hslot])))
  have taken := PoolRun.step _ _ listed (.claims 0 _ _ _ _ rfl rfl
    (.take warmSlot [] (fun h => nomatch h) rfl))
  have validated := PoolRun.step _ _ taken (.claims 0 _ _ _ _ rfl rfl
    (.validate warmSlot [] ⟨some warmSlot, readySlot⟩ warmState rfl (by decide +kernel)))
  have bound := PoolRun.step _ _ validated (.claims 0 _ _ _ _ rfl rfl
    (.bind warmSlot warmState ⟨some warmSlot, readySlot⟩ 2000 rfl))
  have unmarked := PoolRun.step _ _ bound (.claims 0 _ _ _ _ rfl rfl (.unmark warmSlot _ rfl))
  have free := PoolRun.step _ _ unmarked (.claims 0 _ _ _ _ rfl rfl (.free warmSlot rfl))
  have published := PoolRun.step _ _ free (.claims 0 _ _ _ _ rfl rfl
    (.publish warmSlot (fun h => nomatch h) rfl))
  exact ⟨_, _, published, rfl⟩

theorem warm_pool_safe_claimed : ∃ world tree, PoolSafe smallPool world ∧
    world.store (.instances warmClient) = some ⟨some warmSlot, tree⟩ := by
  obtain ⟨world, tree, hrun, hheld⟩ := warm_claim_run
  exact ⟨world, tree, warm_pool_safe smallPool emptyPool_initial hrun, hheld⟩

end TradeJournalWorker
