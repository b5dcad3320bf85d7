import Mathlib.Data.List.Sort
import TradeJournalWorker.EndpointRecords

namespace TradeJournalWorker

/-- `state/instance.json` with the keys that provisioning, the pool and their checks use. -/
structure InstanceRecord where
  connectionId : Option String := none
  status : Option String := none
  terminal : Option String := none
  terminalSha256 : Option String := none
  templateManifestSha256 : Option String := none
  templateCodeManifestSha256 : Option String := none
  poolSlotId : Option String := none
  poolClaimedAt : Option Int := none
  deriving DecidableEq, Repr

/-- `state/pool.json` with exactly its keys. -/
structure PoolRecord where
  schemaVersion : Int
  slotId : String
  status : String
  createdAt : Int
  terminalSha256 : Option String
  templateManifestSha256 : Option String
  codeManifestSha256 : Option String
  deriving DecidableEq, Repr

inductive Node where
  | directory
  | file (content : String)
  | instanceFile (record : InstanceRecord)
  | poolFile (record : PoolRecord)
  | reparsePoint
  deriving DecidableEq, Repr

/-- What is below a directory, under paths relative to it. -/
abbrev Tree := List (List String × Node)

def nodeAt (tree : Tree) (path : List String) : Option Node := tree.lookup path

/-- `path.iterdir()`. -/
def childrenOf (tree : Tree) (path : List String) : Tree :=
  tree.filter fun entry => entry.1 ≠ [] ∧ entry.1.dropLast = path

/-- The tree below a subdirectory. -/
def subtree (tree : Tree) (path : List String) : Tree :=
  tree.filterMap fun entry =>
    if path <+: entry.1 ∧ path ≠ entry.1 then some (entry.1.drop path.length, entry.2) else none

def removeNode (tree : Tree) (path : List String) : Tree :=
  tree.filter fun entry => entry.1 ≠ path

def setNode (tree : Tree) (path : List String) (node : Node) : Tree :=
  (path, node) :: removeNode tree path

def removeSubtree (tree : Tree) (path : List String) : Tree :=
  tree.filter fun entry => ¬ path <+: entry.1

def hasReparsePoint (tree : Tree) : Bool := tree.any fun entry => entry.2 = .reparsePoint

def posixPath (path : List String) : String := "/".intercalate path

def sortedTree (tree : Tree) : Tree := tree.insertionSort fun a b => posixPath a.1 ≤ posixPath b.1

def Node.content : Node → String
  | .file content => content
  | _ => ""

def Node.isFile : Node → Bool
  | .directory => false
  | .reparsePoint => false
  | _ => true

/-- What the checks of a slot depend on: the case folding, the hash and the configured digest. -/
structure SlotChecks where
  unicode : Unicode
  sha256 : String → String
  expectedTerminalSha256 : Option String

/-- `Path.suffix` of a file name. -/
def pathSuffix (name : String) : String :=
  let tail := (name.toList.reverse.takeWhile (· ≠ '.')).reverse
  if tail = [] ∨ name.toList.length ≤ tail.length + 1 then "" else String.ofList ('.' :: tail)

section Checks

variable (checks : SlotChecks)

/-- `_tree_manifest`. -/
def treeManifest (tree : Tree) : Except String String := do
  demand (¬ hasReparsePoint tree) "source terminal tree contains reparse points"
  let entries := (sortedTree tree).map fun (path, node) =>
    if node = .directory then "d:" ++ posixPath path
    else "f:" ++ posixPath path ++ ":" ++ checks.sha256 node.content
  return checks.sha256 ("\n".intercalate entries)

def isCode (path : List String) (node : Node) : Bool :=
  node.isFile ∧ checks.unicode.casefold (pathSuffix (path.getLast?.getD "")) ∈
    [".dll", ".exe", ".ex5"]

/-- `_code_manifest`. -/
def codeManifest (tree : Tree) : Except String String := do
  demand (¬ hasReparsePoint tree) "source terminal tree contains reparse points"
  let entries := ((sortedTree tree).filter fun entry => isCode checks entry.1 entry.2).map
    fun (path, node) => posixPath path ++ ":" ++ checks.sha256 node.content
  demand (entries ≠ []) "terminal template contains no executable content"
  return checks.sha256 ("\n".intercalate entries)

def instanceJson : List String := ["state", "instance.json"]

def poolJson : List String := ["state", "pool.json"]

/-- `read_json(root / "state" / "instance.json", {})`. -/
def readInstance (tree : Tree) : Except String InstanceRecord :=
  match nodeAt tree instanceJson with
  | none => .ok {}
  | some (.instanceFile record) => .ok record
  | some _ => .error "instance state cannot be read"

/-- `_validate_published_instance` with `verify_code`. -/
def validatePublished (tree : Tree) (state : InstanceRecord) : Except String Unit := do
  demand (nodeAt tree instanceJson ≠ none ∧ nodeAt tree instanceJson ≠ some .reparsePoint)
    "published instance contains a reparse point"
  match checks.expectedTerminalSha256 with
  | none => pure ()
  | some expected =>
    let expected := String.ofList ((stripText expected).toList.map Char.toLower)
    demand (isSha256 expected) "expected terminal digest invalid"
    demand (state.terminalSha256 = some expected) "published terminal digest mismatch"
  match state.terminalSha256 with
  | none => pure ()
  | some recorded =>
    demand ((nodeAt tree ["terminal", "terminal64.exe"]).any fun node =>
        node.isFile ∧ checks.sha256 node.content = recorded)
      "published terminal digest mismatch"
    let code ← codeManifest checks (subtree tree ["terminal"])
    demand (code.length = 64 ∧ state.templateCodeManifestSha256 = some code)
      "published terminal code manifest mismatch"

/-- `InstanceProvisioner.validate`. -/
def validateProvisioned (connection : String) (tree : Tree) : Except String Unit := do
  let state ← readInstance tree
  demand (state.connectionId = some connection ∧ state.status = some "provisioned")
    "existing instance is not a completed publication"
  validatePublished checks tree state

def privateDirectories : List (List String) :=
  [["terminal", "Bases"], ["terminal", "Logs"], ["terminal", "MQL5", "Files"],
    ["terminal", "MQL5", "Logs"], ["terminal", "Tester", "cache"], ["terminal", "Tester", "logs"]]

def privateConfigNames : List String :=
  ["accounts.dat", "accounts.ini", "community.ini", "signals.ini"]

def anonymousDirectories : List String := ["worker", "secrets", "logs", "data"]

def isPrivateConfig (entry : List String × Node) : Bool :=
  checks.unicode.casefold (entry.1.getLast?.getD "") ∈ privateConfigNames

/-- `_assert_sanitized`. -/
def assertSanitized (tree : Tree) : Except String Unit := do
  demand (¬ hasReparsePoint tree) "source terminal tree contains reparse points"
  demand (∀ path ∈ privateDirectories, nodeAt tree path = none)
    "pool slot contains private runtime data"
  demand (∀ entry ∈ childrenOf tree ["terminal", "Config"], ¬ isPrivateConfig checks entry)
    "pool slot contains private account data"
  demand (∀ name ∈ anonymousDirectories,
      nodeAt tree [name] = some .directory ∧ childrenOf tree [name] = [])
    "pool slot is not anonymous"

/-- `_sanitize_slot` on a tree without reparse points. -/
def sanitizeSlot (tree : Tree) : Except String Tree := do
  let emptied := privateDirectories.foldl removeSubtree tree
  let config := (childrenOf emptied ["terminal", "Config"]).filter (isPrivateConfig checks)
  let stripped := config.foldl (fun kept entry => removeSubtree kept entry.1) emptied
  demand (∀ name ∈ anonymousDirectories, nodeAt stripped [name] = some .directory)
    "pool slot layout is unsafe"
  return stripped.filter fun entry =>
    ¬ ∃ name ∈ anonymousDirectories, [name] <+: entry.1 ∧ entry.1 ≠ [name]

/-- `_pool_record`. -/
def readPoolRecord (tree : Tree) : Except String PoolRecord :=
  match nodeAt tree poolJson with
  | some (.poolFile record) => do
    demand (record.schemaVersion = 1 ∧ record.status = "READY" ∧ 0 < record.createdAt)
      "pool slot metadata is invalid"
    demand (isUuid4 record.slotId) "pool slot identity is invalid"
    return record
  | _ => .error "pool slot metadata is invalid"

/-- `_validate_slot`, with the tree of the current template. -/
def validateSlot (template : Tree) (tree : Tree) : Except String InstanceRecord := do
  let record ← readPoolRecord tree
  let state ← readInstance tree
  demand (state.connectionId = some record.slotId ∧ state.status = some "provisioned" ∧
      state.terminalSha256 = record.terminalSha256 ∧
      state.templateManifestSha256 = record.templateManifestSha256 ∧
      state.templateCodeManifestSha256 = record.codeManifestSha256)
    "pool slot binding is invalid"
  let manifest ← treeManifest checks (subtree tree ["terminal"])
  demand (record.templateManifestSha256 = some manifest) "pool slot manifest mismatch"
  let current ← codeManifest checks template
  demand (record.codeManifestSha256 = some current)
    "pool slot does not match the current MT5 template"
  validatePublished checks tree state
  assertSanitized checks tree
  return state

end Checks

/-- The state that `claim` writes into a slot before it publishes it. -/
def boundInstance (connection slot terminal : String) (now : Int) (state : InstanceRecord) :
    InstanceRecord :=
  { state with
    connectionId := some connection
    status := some "provisioned"
    terminal := some terminal
    poolSlotId := some slot
    poolClaimedAt := some now }

/-- The tree of a slot with the state of its instance and without the pool's own record. -/
def boundTree (tree : Tree) (state : InstanceRecord) : Tree :=
  removeNode (setNode tree instanceJson (.instanceFile state)) poolJson

/-- An instance as the pool may publish it: complete, bound to its connection and anonymous. -/
structure PublishedFromPool (checks : SlotChecks) (connection slot : String) (tree : Tree) :
    Prop where
  valid : validateProvisioned checks connection tree = .ok ()
  sanitized : assertSanitized checks tree = .ok ()
  slotId : ∃ record, readInstance tree = .ok record ∧ record.poolSlotId = some slot
  unmarked : nodeAt tree poolJson = none

section Binding

variable {checks : SlotChecks} {tree : Tree}

theorem nodeAt_removeNode (tree : Tree) (path other : List String) :
    nodeAt (removeNode tree path) other = if other = path then none else nodeAt tree other := by
  unfold nodeAt removeNode
  induction tree with
  | nil => simp
  | cons entry rest ih =>
    obtain ⟨found, node⟩ := entry
    rw [List.filter_cons]
    by_cases hfound : found = path
    · subst hfound
      rw [if_neg (by simp), ih, List.lookup_cons]
      by_cases hother : other = found
      · simp [hother]
      · have hbeq : (other == found) = false := by simpa using hother
        rw [hbeq, if_neg hother]
    · rw [if_pos (by simpa using hfound), List.lookup_cons, ih, List.lookup_cons]
      by_cases hother : other = found
      · subst hother
        simp [hfound]
      · have hbeq : (other == found) = false := by simpa using hother
        rw [hbeq]

theorem nodeAt_setNode (tree : Tree) (path other : List String) (node : Node) :
    nodeAt (setNode tree path node) other = if other = path then some node else nodeAt tree other := by
  have hremoved := nodeAt_removeNode tree path other
  unfold setNode
  unfold nodeAt at hremoved ⊢
  rw [List.lookup_cons, hremoved]
  by_cases hother : other = path
  · simp [hother]
  · have hbeq : (other == path) = false := by simpa using hother
    rw [hbeq, if_neg hother, if_neg hother]

theorem subtree_removeNode {path other : List String} (h : ¬ path <+: other) :
    subtree (removeNode tree other) path = subtree tree path := by
  unfold subtree removeNode
  rw [List.filterMap_filter]
  refine List.filterMap_congr fun entry _ => ?_
  by_cases hentry : entry.1 = other
  · simp [hentry, h]
  · simp [hentry]

theorem subtree_setNode {path other : List String} {node : Node} (h : ¬ path <+: other) :
    subtree (setNode tree other node) path = subtree tree path := by
  refine Eq.trans ?_ (subtree_removeNode h)
  unfold setNode subtree
  rw [List.filterMap_cons, if_neg fun hpath => h hpath.1]

theorem childrenOf_removeNode {path other : List String} (h : other.dropLast ≠ path) :
    childrenOf (removeNode tree other) path = childrenOf tree path := by
  unfold childrenOf removeNode
  rw [List.filter_filter]
  refine List.filter_congr fun entry _ => ?_
  by_cases hentry : entry.1 = other
  · simp [hentry, h]
  · simp [hentry]

theorem childrenOf_setNode {path other : List String} {node : Node} (h : other.dropLast ≠ path) :
    childrenOf (setNode tree other node) path = childrenOf tree path := by
  refine Eq.trans ?_ (childrenOf_removeNode h)
  unfold setNode childrenOf
  rw [List.filter_cons, if_neg fun hpath => h (of_decide_eq_true hpath).2]

theorem hasReparsePoint_removeNode {path : List String} (h : ¬ hasReparsePoint tree) :
    ¬ hasReparsePoint (removeNode tree path) := by
  unfold hasReparsePoint removeNode at *
  intro hany
  obtain ⟨entry, hentry, hreparse⟩ := List.any_eq_true.mp hany
  exact h (List.any_eq_true.mpr ⟨entry, (List.mem_filter.mp hentry).1, hreparse⟩)

theorem hasReparsePoint_setNode {path : List String} {node : Node} (hnode : node ≠ .reparsePoint)
    (h : ¬ hasReparsePoint tree) : ¬ hasReparsePoint (setNode tree path node) := by
  have hrest := @hasReparsePoint_removeNode tree path h
  unfold hasReparsePoint at hrest ⊢
  unfold setNode
  simpa [hnode] using hrest

theorem validateSlot_eq_ok {template : Tree} {state : InstanceRecord}
    (h : validateSlot checks template tree = .ok state) :
    readInstance tree = .ok state ∧ validatePublished checks tree state = .ok () ∧
      assertSanitized checks tree = .ok () := by
  unfold validateSlot at h
  obtain ⟨record, _, h⟩ := except_bind_eq_ok h
  obtain ⟨found, hfound, h⟩ := except_bind_eq_ok h
  obtain ⟨_, _, h⟩ := except_bind_eq_ok h
  obtain ⟨_, _, h⟩ := except_bind_eq_ok h
  obtain ⟨_, _, h⟩ := except_bind_eq_ok h
  obtain ⟨_, _, h⟩ := except_bind_eq_ok h
  obtain ⟨_, _, h⟩ := except_bind_eq_ok h
  obtain ⟨_, hpublished, h⟩ := except_bind_eq_ok h
  obtain ⟨_, hsanitized, h⟩ := except_bind_eq_ok h
  have hsame := Except.ok.inj h
  subst hsame
  exact ⟨hfound, hpublished, hsanitized⟩

/-- The publication checks read the terminal and the two digests of the state. -/
theorem validatePublished_congr {other : Tree} {state changed : InstanceRecord}
    (hexecutable : nodeAt other ["terminal", "terminal64.exe"] =
      nodeAt tree ["terminal", "terminal64.exe"])
    (hterminal : subtree other ["terminal"] = subtree tree ["terminal"])
    (hjson : nodeAt other instanceJson ≠ none ∧ nodeAt other instanceJson ≠ some .reparsePoint)
    (hdigest : changed.terminalSha256 = state.terminalSha256)
    (hcode : changed.templateCodeManifestSha256 = state.templateCodeManifestSha256)
    (h : validatePublished checks tree state = .ok ()) :
    validatePublished checks other changed = .ok () := by
  unfold validatePublished at h ⊢
  rw [hexecutable, hterminal, hdigest, hcode, demand_eq_ok.mpr hjson]
  obtain ⟨_, _, h⟩ := except_bind_eq_ok h
  exact h

theorem assertSanitized_eq_ok :
    assertSanitized checks tree = .ok () ↔ ¬ hasReparsePoint tree ∧
      (∀ path ∈ privateDirectories, nodeAt tree path = none) ∧
      (∀ entry ∈ childrenOf tree ["terminal", "Config"], ¬ isPrivateConfig checks entry) ∧
      ∀ name ∈ anonymousDirectories,
        nodeAt tree [name] = some .directory ∧ childrenOf tree [name] = [] := by
  constructor
  · intro h
    unfold assertSanitized at h
    obtain ⟨_, hreparse, h⟩ := except_bind_eq_ok h
    obtain ⟨_, hprivate, h⟩ := except_bind_eq_ok h
    obtain ⟨_, hconfig, h⟩ := except_bind_eq_ok h
    exact ⟨demand_eq_ok.mp hreparse, demand_eq_ok.mp hprivate, demand_eq_ok.mp hconfig,
      demand_eq_ok.mp h⟩
  · intro h
    obtain ⟨hreparse, hprivate, hconfig, hanonymous⟩ := h
    unfold assertSanitized
    rw [demand_eq_ok.mpr hreparse, demand_eq_ok.mpr hprivate, demand_eq_ok.mpr hconfig,
      demand_eq_ok.mpr hanonymous]
    rfl

theorem nodeAt_boundTree {state : InstanceRecord} {path : List String} (hinstance : path ≠ instanceJson)
    (hpool : path ≠ poolJson) : nodeAt (boundTree tree state) path = nodeAt tree path := by
  unfold boundTree
  rw [nodeAt_removeNode, if_neg hpool, nodeAt_setNode, if_neg hinstance]

theorem readInstance_boundTree (state : InstanceRecord) :
    readInstance (boundTree tree state) = .ok state := by
  have hnode : nodeAt (boundTree tree state) instanceJson = some (.instanceFile state) := by
    unfold boundTree
    rw [nodeAt_removeNode, if_neg (by decide), nodeAt_setNode, if_pos rfl]
  unfold readInstance
  rw [hnode]

/-- A slot that passes its checks is an instance that may be published, once it is bound. -/
theorem publishedFromPool_boundTree {template : Tree} {state : InstanceRecord}
    {connection slot terminal : String} {now : Int}
    (h : validateSlot checks template tree = .ok state) :
    PublishedFromPool checks connection slot
      (boundTree tree (boundInstance connection slot terminal now state)) := by
  obtain ⟨hread, hpublished, hsanitized⟩ := validateSlot_eq_ok h
  obtain ⟨hreparse, hprivate, hconfig, hanonymous⟩ := assertSanitized_eq_ok.mp hsanitized
  have hchildren : ∀ path, path ≠ ["state"] → ∀ written,
      childrenOf (boundTree tree written) path = childrenOf tree path := by
    intro path hpath written
    unfold boundTree
    rw [childrenOf_removeNode (Ne.symm hpath), childrenOf_setNode (Ne.symm hpath)]
  have hterminal : ∀ written, subtree (boundTree tree written) ["terminal"] =
      subtree tree ["terminal"] := by
    intro written
    unfold boundTree
    rw [subtree_removeNode (by decide), subtree_setNode (by decide)]
  have hread' := @readInstance_boundTree tree (boundInstance connection slot terminal now state)
  refine ⟨?_, assertSanitized_eq_ok.mpr ⟨?_, ?_, ?_, ?_⟩, ⟨_, hread', rfl⟩, ?_⟩
  · have hjson : nodeAt (boundTree tree (boundInstance connection slot terminal now state))
        instanceJson ≠ none ∧
        nodeAt (boundTree tree (boundInstance connection slot terminal now state))
          instanceJson ≠ some .reparsePoint := by
      unfold boundTree
      rw [nodeAt_removeNode, if_neg (by decide), nodeAt_setNode, if_pos rfl]
      exact ⟨Option.some_ne_none _, fun heq => by cases heq⟩
    have hchecked : validatePublished checks
        (boundTree tree (boundInstance connection slot terminal now state))
        (boundInstance connection slot terminal now state) = .ok () :=
      validatePublished_congr (nodeAt_boundTree (by decide) (by decide)) (hterminal _) hjson rfl rfl
        hpublished
    have howner : demand ((boundInstance connection slot terminal now state).connectionId =
        some connection ∧
        (boundInstance connection slot terminal now state).status = some "provisioned")
          "existing instance is not a completed publication" = .ok () :=
      demand_eq_ok.mpr ⟨rfl, rfl⟩
    unfold validateProvisioned
    rw [hread']
    exact Eq.trans (congrArg (fun checked : Except String Unit => checked >>= fun _ =>
      validatePublished checks (boundTree tree (boundInstance connection slot terminal now state))
        (boundInstance connection slot terminal now state)) howner) hchecked
  · exact hasReparsePoint_removeNode (hasReparsePoint_setNode (fun heq => by cases heq) hreparse)
  · intro path hpath
    rw [nodeAt_boundTree]
    · exact hprivate path hpath
    · rintro rfl
      exact absurd hpath (by decide)
    · rintro rfl
      exact absurd hpath (by decide)
  · rw [hchildren _ (by decide)]
    exact hconfig
  · intro name hname
    have hother : name ≠ "state" := by
      rintro rfl
      exact absurd hname (by decide)
    rw [hchildren _ (by simpa using hother), nodeAt_boundTree (by simp [instanceJson])
      (by simp [poolJson])]
    exact hanonymous name hname
  · unfold boundTree
    rw [nodeAt_removeNode, if_pos rfl]

end Binding

end TradeJournalWorker
