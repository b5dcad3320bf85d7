import TradeJournalWorker.RenameStore
import TradeJournalWorker.SlotTrees

namespace TradeJournalWorker

open RenameStore

/-- The directories of the pool, each below its root, and the instances of the connections. -/
inductive PoolPlace where
  | building (slot : String)
  | ready (slot : String)
  | claimed (connection : String)
  | instances (connection : String)
  deriving DecidableEq, Repr

/-- A directory is known by the slot as which it was built; a direct copy is no slot. -/
abbrev PoolStore := Store PoolPlace String Tree

abbrev PoolAction := Action PoolPlace String Tree

structure PoolConfig where
  checks : SlotChecks
  targetSize : Nat
  maxSize : Nat
  terminalPath : String → String

/-- Where a `claim` stands. -/
inductive ClaimPoint where
  | entry
  | judging
  | retiring
  | unreserved
  | reserved
  | choosing (slots : List String)
  | moved (slot : String) (rest : List String)
  | discarding (rest : List String)
  | validated (slot : String) (state : InstanceRecord)
  | rebound (slot : String)
  | unlinked (slot : String)
  | publishing (slot : String)
  | published (slot : String)
  | retracting
  | cleaning
  | releasing

structure Claim where
  connection : String
  point : ClaimPoint

/-- `_discard_incompatible_ready_slots`: the slots still to be checked, or the one being removed. -/
inductive DiscardPoint where
  | checking (slots : List String)
  | dropping (slot : String) (rest : List String)

inductive BuildStage where
  | copying
  | sanitising
  | sealing
  | recording
  | verifying
  | publishing
  deriving DecidableEq, Repr

/-- Where a thread of the replenishment stands. -/
inductive MaintenancePoint where
  | idle
  | discarding (point : DiscardPoint)
  | counting
  | building (stage : BuildStage) (slot : String)
  | scrapping (slot : String)

/-- Where `recover_incomplete` stands. -/
inductive RecoveryPoint where
  | listing
  | clearing (places : List PoolPlace)
  | unreserving
  | discarding (point : DiscardPoint)

/-- The directories, the reservations and the current template, with the threads on them.
`recovery` is set from a crash until the recovery is through. `issued` are the slot ids drawn so
far. -/
structure PoolWorld where
  template : Tree
  store : PoolStore
  reserved : String → Bool
  claims : Nat → Option Claim
  maintainers : Nat → MaintenancePoint
  recovery : Option RecoveryPoint
  issued : String → Prop

/-- `ready_slots`: the names below the ready root in their order. -/
def IsSnapshot (store : PoolStore) (slots : List String) : Prop :=
  slots.Pairwise (· < ·) ∧ ∀ slot, slot ∈ slots ↔ store (.ready slot) ≠ none

/-- The tree that `provision` makes of the template for a slot. -/
def provisionTree (checks : SlotChecks) (template : Tree) (slot terminal : String) :
    Except String Tree := do
  let manifest ← treeManifest checks template
  let code ← codeManifest checks template
  let executable := (nodeAt template ["terminal64.exe"]).map fun node => checks.sha256 node.content
  demand executable.isSome "source terminal invalid"
  demand (checks.expectedTerminalSha256.all fun expected =>
      executable = some (String.ofList ((stripText expected).toList.map Char.toLower)))
    "source terminal digest mismatch"
  let state : InstanceRecord :=
    { connectionId := some slot
      status := some "provisioned"
      terminal := some terminal
      terminalSha256 := executable
      templateManifestSha256 := some manifest
      templateCodeManifestSha256 := some code }
  return (["terminal", "worker", "secrets", "state", "logs", "data"].map fun name =>
      ([name], Node.directory)) ++
    template.map (fun entry => ("terminal" :: entry.1, entry.2)) ++
    [(instanceJson, .instanceFile state)]

/-- The state of a built slot, with the manifests of its own terminal. -/
def sealedState (checks : SlotChecks) (tree : Tree) : Except String InstanceRecord := do
  let state ← readInstance tree
  let manifest ← treeManifest checks (subtree tree ["terminal"])
  let code ← codeManifest checks (subtree tree ["terminal"])
  return { state with
    templateManifestSha256 := some manifest
    templateCodeManifestSha256 := some code }

/-- `pool.json` of a built slot. -/
def slotRecord (slot : String) (now : Int) (state : InstanceRecord) : PoolRecord where
  schemaVersion := 1
  slotId := slot
  status := "READY"
  createdAt := now
  terminalSha256 := state.terminalSha256
  templateManifestSha256 := state.templateManifestSha256
  codeManifestSha256 := state.templateCodeManifestSha256

/-- What `_remove_tree` does next at a place: it removes one entry, or at last the directory, or
finds nothing there, or fails. Entries go path by path. -/
inductive RemovalStep (store : PoolStore) (place : PoolPlace) : PoolAction → Bool → Bool → Prop where
  | entry (item : Item String Tree) (entry : List String × Node) (found : store place = some item)
      (listed : entry ∈ item.content) :
      RemovalStep store place (.rewrite place (item.content.erase entry)) false false
  | root (item : Item String Tree) (found : store place = some item) (empty : item.content = []) :
      RemovalStep store place (.remove place) true false
  | absent (vacant : store place = none) : RemovalStep store place .keep true false
  | failed : RemovalStep store place .keep false true

/-- The removals of `claim`: the place, and where it goes on after the removal and after a
failure; `none` ends the call. -/
def ClaimPoint.removal (connection : String) :
    ClaimPoint → Option (PoolPlace × Option ClaimPoint × Option ClaimPoint)
  | .retiring => some (.instances connection, some .unreserved, none)
  | .discarding rest => some (.claimed connection, some (.choosing rest), some .cleaning)
  | .retracting => some (.instances connection, some .releasing, some .releasing)
  | .cleaning => some (.claimed connection, some .releasing, none)
  | _ => none

/-- One step of `claim`: the action on the directories, what becomes of the reservation if
anything, and where the call goes on, `none` being its end. -/
inductive ClaimStep (pool : PoolConfig) (world : PoolWorld) (connection : String) :
    ClaimPoint → PoolAction → Option Bool → Option ClaimPoint → Prop where
  | absent (vacant : world.store (.instances connection) = none) :
      ClaimStep pool world connection .entry .keep none (some .unreserved)
  | present (found : world.store (.instances connection) ≠ none) :
      ClaimStep pool world connection .entry .keep none (some .judging)
  | reused (item : Item String Tree) (found : world.store (.instances connection) = some item)
      (valid : validateProvisioned pool.checks connection item.content = .ok ()) :
      ClaimStep pool world connection .judging .keep none none
  | owned : ClaimStep pool world connection .judging .keep none none
  | incomplete (item : Item String Tree) (state : InstanceRecord)
      (found : world.store (.instances connection) = some item)
      (invalid : validateProvisioned pool.checks connection item.content ≠ .ok ())
      (read : readInstance item.content = .ok state) (status : state.status ≠ some "provisioned") :
      ClaimStep pool world connection .judging .keep none (some .retiring)
  | vanished (vacant : world.store (.instances connection) = none) :
      ClaimStep pool world connection .judging .keep none (some .retiring)
  | reserve (free : world.reserved connection = false) :
      ClaimStep pool world connection .unreserved .keep (some true) (some .reserved)
  | reserveLate (free : world.reserved connection = false) :
      ClaimStep pool world connection .unreserved .keep (some true) none
  | refused : ClaimStep pool world connection .unreserved .keep none none
  | recheck (found : world.store (.instances connection) ≠ none) :
      ClaimStep pool world connection .reserved .keep none (some .releasing)
  | list (slots : List String) (vacant : world.store (.instances connection) = none)
      (snapshot : IsSnapshot world.store slots) :
      ClaimStep pool world connection .reserved .keep none (some (.choosing slots))
  | listFailed : ClaimStep pool world connection .reserved .keep none (some .releasing)
  | empty : ClaimStep pool world connection (.choosing []) .keep none (some .releasing)
  | take (slot : String) (rest : List String) (found : world.store (.ready slot) ≠ none)
      (vacant : world.store (.claimed connection) = none) :
      ClaimStep pool world connection (.choosing (slot :: rest))
        (.move (.ready slot) (.claimed connection)) none (some (.moved slot rest))
  | takeLate (slot : String) (rest : List String) (found : world.store (.ready slot) ≠ none)
      (vacant : world.store (.claimed connection) = none) :
      ClaimStep pool world connection (.choosing (slot :: rest))
        (.move (.ready slot) (.claimed connection)) none (some (.choosing rest))
  | gone (slot : String) (rest : List String) (vacant : world.store (.ready slot) = none) :
      ClaimStep pool world connection (.choosing (slot :: rest)) .keep none (some (.choosing rest))
  | takeFailed (slot : String) (rest : List String) :
      ClaimStep pool world connection (.choosing (slot :: rest)) .keep none (some .releasing)
  | validate (slot : String) (rest : List String) (item : Item String Tree)
      (state : InstanceRecord) (found : world.store (.claimed connection) = some item)
      (valid : validateSlot pool.checks world.template item.content = .ok state) :
      ClaimStep pool world connection (.moved slot rest) .keep none (some (.validated slot state))
  | invalid (slot : String) (rest : List String) :
      ClaimStep pool world connection (.moved slot rest) .keep none (some (.discarding rest))
  | validateFailed (slot : String) (rest : List String) :
      ClaimStep pool world connection (.moved slot rest) .keep none (some .cleaning)
  | bind (slot : String) (state : InstanceRecord) (item : Item String Tree) (now : Int)
      (found : world.store (.claimed connection) = some item) :
      ClaimStep pool world connection (.validated slot state)
        (.rewrite (.claimed connection) (setNode item.content instanceJson (.instanceFile
          (boundInstance connection slot (pool.terminalPath connection) now state))))
        none (some (.rebound slot))
  | bindLate (slot : String) (state : InstanceRecord) (item : Item String Tree) (now : Int)
      (found : world.store (.claimed connection) = some item) :
      ClaimStep pool world connection (.validated slot state)
        (.rewrite (.claimed connection) (setNode item.content instanceJson (.instanceFile
          (boundInstance connection slot (pool.terminalPath connection) now state))))
        none (some .cleaning)
  | bindFailed (slot : String) (state : InstanceRecord) :
      ClaimStep pool world connection (.validated slot state) .keep none (some .cleaning)
  | unmark (slot : String) (item : Item String Tree)
      (found : world.store (.claimed connection) = some item) :
      ClaimStep pool world connection (.rebound slot)
        (.rewrite (.claimed connection) (removeNode item.content poolJson)) none
        (some (.unlinked slot))
  | unmarkFailed (slot : String) :
      ClaimStep pool world connection (.rebound slot) .keep none (some .cleaning)
  | free (slot : String) (vacant : world.store (.instances connection) = none) :
      ClaimStep pool world connection (.unlinked slot) .keep none (some (.publishing slot))
  | occupied (slot : String) :
      ClaimStep pool world connection (.unlinked slot) .keep none (some .cleaning)
  | publish (slot : String) (found : world.store (.claimed connection) ≠ none)
      (vacant : world.store (.instances connection) = none) :
      ClaimStep pool world connection (.publishing slot)
        (.move (.claimed connection) (.instances connection)) none (some (.published slot))
  | publishLate (slot : String) (found : world.store (.claimed connection) ≠ none)
      (vacant : world.store (.instances connection) = none) :
      ClaimStep pool world connection (.publishing slot)
        (.move (.claimed connection) (.instances connection)) none (some .cleaning)
  | publishFailed (slot : String) :
      ClaimStep pool world connection (.publishing slot) .keep none (some .cleaning)
  | confirm (slot : String) (item : Item String Tree)
      (found : world.store (.instances connection) = some item)
      (valid : validateProvisioned pool.checks connection item.content = .ok ()) :
      ClaimStep pool world connection (.published slot) .keep none (some .releasing)
  | refute (slot : String) :
      ClaimStep pool world connection (.published slot) .keep none (some .retracting)
  | release : ClaimStep pool world connection .releasing .keep (some false) none
  | releaseFailed : ClaimStep pool world connection .releasing .keep none none
  | removal (point : ClaimPoint) (place : PoolPlace) (next failed : Option ClaimPoint)
      (action : PoolAction) (done raised : Bool)
      (removes : point.removal connection = some (place, next, failed))
      (step : RemovalStep world.store place action done raised) :
      ClaimStep pool world connection point action none
        (if raised then failed else if done then next else some point)

/-- One step of the check of the ready slots; `none` after a failure. -/
inductive DiscardStep (pool : PoolConfig) (world : PoolWorld) :
    DiscardPoint → PoolAction → Option DiscardPoint → Prop where
  | compatible (slot : String) (rest : List String) (item : Item String Tree)
      (state : InstanceRecord) (found : world.store (.ready slot) = some item)
      (valid : validateSlot pool.checks world.template item.content = .ok state) :
      DiscardStep pool world (.checking (slot :: rest)) .keep (some (.checking rest))
  | incompatible (slot : String) (rest : List String)
      (invalid : ∀ item, world.store (.ready slot) = some item →
        ∀ state, validateSlot pool.checks world.template item.content ≠ .ok state) :
      DiscardStep pool world (.checking (slot :: rest)) .keep (some (.dropping slot rest))
  | dropping (slot : String) (rest : List String) (action : PoolAction) (done raised : Bool)
      (step : RemovalStep world.store (.ready slot) action done raised) :
      DiscardStep pool world (.dropping slot rest) action
        (if raised then none else some (if done then .checking rest else .dropping slot rest))

/-- One step of `replenish_forever`. -/
inductive MaintenanceStep (pool : PoolConfig) (world : PoolWorld) :
    MaintenancePoint → PoolAction → MaintenancePoint → Prop where
  | start (slots : List String) (snapshot : IsSnapshot world.store slots) :
      MaintenanceStep pool world .idle .keep (.discarding (.checking slots))
  | discard (point next : DiscardPoint) (action : PoolAction)
      (step : DiscardStep pool world point action (some next)) :
      MaintenanceStep pool world (.discarding point) action (.discarding next)
  | discardFailed (point : DiscardPoint) (action : PoolAction)
      (step : DiscardStep pool world point action none) :
      MaintenanceStep pool world (.discarding point) action .idle
  | discarded : MaintenanceStep pool world (.discarding (.checking [])) .keep .counting
  | enough : MaintenanceStep pool world .counting .keep .idle
  | begin (slots : List String) (slot : String) (snapshot : IsSnapshot world.store slots)
      (short : slots.length < pool.targetSize ∧ slots.length < pool.maxSize)
      (fresh : ¬ world.issued slot) (vacant : world.store (.building slot) = none) :
      MaintenanceStep pool world .counting
        (.create (.building slot) { identity := some slot, content := [] })
        (.building .copying slot)
  | copy (slot : String) (tree : Tree)
      (provisioned : provisionTree pool.checks world.template slot (pool.terminalPath slot) =
        .ok tree) :
      MaintenanceStep pool world (.building .copying slot) (.rewrite (.building slot) tree)
        (.building .sanitising slot)
  | sanitise (slot : String) (item : Item String Tree) (tree : Tree)
      (found : world.store (.building slot) = some item)
      (sanitized : sanitizeSlot pool.checks item.content = .ok tree) :
      MaintenanceStep pool world (.building .sanitising slot) (.rewrite (.building slot) tree)
        (.building .sealing slot)
  | sealing (slot : String) (item : Item String Tree) (state : InstanceRecord)
      (found : world.store (.building slot) = some item)
      (sealed : sealedState pool.checks item.content = .ok state) :
      MaintenanceStep pool world (.building .sealing slot)
        (.rewrite (.building slot) (setNode item.content instanceJson (.instanceFile state)))
        (.building .recording slot)
  | record (slot : String) (item : Item String Tree) (state : InstanceRecord) (now : Int)
      (found : world.store (.building slot) = some item)
      (read : readInstance item.content = .ok state) :
      MaintenanceStep pool world (.building .recording slot)
        (.rewrite (.building slot)
          (setNode item.content poolJson (.poolFile (slotRecord slot now state))))
        (.building .verifying slot)
  | verify (slot : String) (item : Item String Tree) (state : InstanceRecord)
      (found : world.store (.building slot) = some item)
      (valid : validateSlot pool.checks world.template item.content = .ok state) :
      MaintenanceStep pool world (.building .verifying slot) .keep (.building .publishing slot)
  | publish (slot : String) (vacant : world.store (.ready slot) = none) :
      MaintenanceStep pool world (.building .publishing slot)
        (.move (.building slot) (.ready slot)) .counting
  | publishLate (slot : String) (vacant : world.store (.ready slot) = none) :
      MaintenanceStep pool world (.building .publishing slot)
        (.move (.building slot) (.ready slot)) (.scrapping slot)
  | failed (stage : BuildStage) (slot : String) :
      MaintenanceStep pool world (.building stage slot) .keep (.scrapping slot)
  | scrap (slot : String) (action : PoolAction) (done raised : Bool)
      (step : RemovalStep world.store (.building slot) action done raised) :
      MaintenanceStep pool world (.scrapping slot) action
        (if done ∨ raised then .idle else .scrapping slot)

/-- The places that the recovery clears. -/
def PoolPlace.incomplete : PoolPlace → Bool
  | .building _ => true
  | .claimed _ => true
  | _ => false

/-- One step of `recover_incomplete`, with the reservation that it removes; `none` is its end. -/
inductive RecoveryStep (pool : PoolConfig) (world : PoolWorld) :
    RecoveryPoint → PoolAction → Option String → Option RecoveryPoint → Prop where
  | list (places : List PoolPlace)
      (listed : ∀ place, place ∈ places ↔ place.incomplete ∧ world.store place ≠ none) :
      RecoveryStep pool world .listing .keep none (some (.clearing places))
  | clear (place : PoolPlace) (rest : List PoolPlace) (action : PoolAction) (done : Bool)
      (incomplete : place.incomplete)
      (step : RemovalStep world.store place action done false) :
      RecoveryStep pool world (.clearing (place :: rest)) action none
        (some (.clearing (if done then rest else place :: rest)))
  | cleared : RecoveryStep pool world (.clearing []) .keep none (some .unreserving)
  | unreserve (connection : String) (found : world.reserved connection = true) :
      RecoveryStep pool world .unreserving .keep (some connection) (some .unreserving)
  | unreserved (slots : List String) (none_left : ∀ connection, world.reserved connection = false)
      (snapshot : IsSnapshot world.store slots) :
      RecoveryStep pool world .unreserving .keep none (some (.discarding (.checking slots)))
  | discard (point next : DiscardPoint) (action : PoolAction)
      (step : DiscardStep pool world point action (some next)) :
      RecoveryStep pool world (.discarding point) action none (some (.discarding next))
  | finished : RecoveryStep pool world (.discarding (.checking [])) .keep none none

/-- What happens to an instance outside the pool: it runs and changes, it is removed, or it is
made by a direct copy. -/
inductive InstanceLife (store : PoolStore) (connection : String) : PoolAction → Prop where
  | changes (tree : Tree) : InstanceLife store connection (.rewrite (.instances connection) tree)
  | removed : InstanceLife store connection (.remove (.instances connection))
  | copied (tree : Tree) (vacant : store (.instances connection) = none) :
      InstanceLife store connection
        (.create (.instances connection) { identity := none, content := tree })

def PoolWorld.act (world : PoolWorld) (action : PoolAction) : PoolWorld :=
  { world with
    store := action.apply world.store
    issued := action.issue world.issued }

/-- One step of any thread on the pool, a crash of the process, a step of the recovery, or a
change from outside: of the template, of the files of a ready slot, or of an instance. -/
inductive PoolStep (pool : PoolConfig) (world : PoolWorld) : PoolWorld → Prop where
  | claimStarts (thread : Nat) (connection : String) (running : world.recovery = none)
      (idle : world.claims thread = none) :
      PoolStep pool world
        { world with claims := Function.update world.claims thread (some ⟨connection, .entry⟩) }
  | claims (thread : Nat) (claim : Claim) (action : PoolAction) (reservation : Option Bool)
      (next : Option ClaimPoint) (running : world.recovery = none)
      (at_claim : world.claims thread = some claim)
      (step : ClaimStep pool world claim.connection claim.point action reservation next) :
      PoolStep pool world
        { world.act action with
          claims := Function.update world.claims thread (next.map (Claim.mk claim.connection))
          reserved := (reservation.map (Function.update world.reserved claim.connection)).getD
            world.reserved }
  | maintains (thread : Nat) (action : PoolAction) (next : MaintenancePoint)
      (running : world.recovery = none)
      (step : MaintenanceStep pool world (world.maintainers thread) action next) :
      PoolStep pool world
        { world.act action with
          maintainers := Function.update world.maintainers thread next }
  | crash :
      PoolStep pool world
        { world with
          claims := fun _ => none
          maintainers := fun _ => .idle
          recovery := some .listing }
  | recovers (point : RecoveryPoint) (action : PoolAction) (freed : Option String)
      (next : Option RecoveryPoint) (at_point : world.recovery = some point)
      (step : RecoveryStep pool world point action freed next) :
      PoolStep pool world
        { world.act action with
          recovery := next
          reserved := (freed.map fun connection =>
            Function.update world.reserved connection false).getD world.reserved }
  | templateChanges (template : Tree) : PoolStep pool world { world with template := template }
  | tampered (slot : String) (tree : Tree) :
      PoolStep pool world (world.act (.rewrite (.ready slot) tree))
  | lives (connection : String) (action : PoolAction)
      (life : InstanceLife world.store connection action) : PoolStep pool world (world.act action)

/-- The worker before its first start with a pool: no slot anywhere, and any instances. -/
structure PoolWorld.Initial (world : PoolWorld) : Prop where
  slots : ∀ place item, world.store place = some item →
    item.identity = none ∧ ∃ connection, place = .instances connection
  idle : ∀ thread, world.claims thread = none ∧ world.maintainers thread = .idle

/-- The worlds that a run leads to. -/
inductive PoolRun (pool : PoolConfig) (start : PoolWorld) : PoolWorld → Prop where
  | refl : PoolRun pool start start
  | step (middle world : PoolWorld) (run : PoolRun pool start middle)
      (last : PoolStep pool middle world) : PoolRun pool start world

end TradeJournalWorker
