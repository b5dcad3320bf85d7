import TradeJournalWorker.ReleaseSealing

namespace TradeJournalWorker.Release

open FaultProgram JsonText JsonValue

/-- Which of the file operations raise: those up to the rename in their order, and the sync of the
output root at the end. -/
structure FaultPlan where
  steps : List (Option ReleaseFailure) := []
  sync : Option ReleaseFailure := none

/-- The output root: the published directories by their names, and the temporary one. -/
structure ReleaseWorld where
  published : OrderedDict (List Char) FileTree
  stage : Option FileTree := none

abbrev ReleaseProgram (α : Type) := Program FaultPlan ReleaseWorld ReleaseFailure α

/-- One file operation. -/
def step : ReleaseProgram Unit :=
  Program.perform fun plan =>
    match plan.steps with
    | [] => (.returned (), plan)
    | none :: rest => (.returned (), { plan with steps := rest })
    | some failure :: rest => (.raised failure, { plan with steps := rest })

def attempt {α : Type} (result : Checked α) : ReleaseProgram α :=
  match result with
  | .ok value => pure value
  | .error failure => Program.raise failure

def changeStage (change : FileTree → FileTree) : ReleaseProgram Unit :=
  Program.modifyWorld fun world => { world with stage := world.stage.map change }

/-- The body of the inner loop of `build_release`: parent directory, copy, sync, digest. -/
def copyFile (files : ReleaseFiles) (relative : SafePath) (bytes : List UInt8) :
    ReleaseProgram ReleaseFiles := do
  let next ← attempt (addFile files relative bytes)
  step
  step
  changeStage fun tree => tree.put relative.path relative.valid (.file bytes)
  step
  step
  pure next

/-- A round of the loop over the entries below a directory. -/
def copyEntry (files : ReleaseFiles) (item : TreePath × TreeEntry) : ReleaseProgram ReleaseFiles :=
  if isBytecode item.1 then pure files
  else do
    step
    let yielded ← attempt (yieldedFile item)
    match yielded with
    | none => pure files
    | some (relative, bytes) => copyFile files relative bytes

def copyEntries : List (TreePath × TreeEntry) → ReleaseFiles → ReleaseProgram ReleaseFiles
  | [], files => pure files
  | item :: rest, files => do
    let next ← copyEntry files item
    copyEntries rest next

/-- The files that an entry of the contents list reaches. -/
def copyAllowed (source : SourceTree) (files : ReleaseFiles) (allowed : List Char) :
    ReleaseProgram ReleaseFiles := do
  let relative ← attempt (safeRelative allowed)
  step
  let entry ← attempt (sourceEntry source relative)
  match entry with
  | .file bytes => copyFile files relative bytes
  | _ => do
    step
    copyEntries (below source.tree relative.path) files

def copyContents (source : SourceTree) : List (List Char) → ReleaseFiles →
    ReleaseProgram ReleaseFiles
  | [], files => pure files
  | allowed :: rest, files => do
    let next ← copyAllowed source files allowed
    copyContents source rest next

/-- Something has the manifest's name already. -/
def occupied (tree : FileTree) : Prop :=
  ∃ path ∈ tree.entries.keys, path.head? = some releaseManifestName

instance (tree : FileTree) : Decidable (occupied tree) :=
  inferInstanceAs (Decidable (∃ path ∈ tree.entries.keys, _))

def stageTree : ReleaseProgram FileTree := do
  let world ← Program.getWorld
  pure (world.stage.getD FileTree.empty)

def writeManifest (setup : ReleaseSetup) (revision : List Char) (files : ReleaseFiles) :
    ReleaseProgram Unit := do
  step
  let tree ← stageTree
  attempt (if occupied tree then .error .osError else .ok ())
  changeStage fun tree =>
    tree.put manifestPath.path manifestPath.valid (.file (manifestBytes setup revision files))
  step

def verifyStage (setup : ReleaseSetup) : ReleaseProgram Unit := do
  step
  let tree ← stageTree
  attempt ((verifyRelease setup tree).map fun _ => ())

/-- `os.replace(stage, destination)`. -/
def moveStage (name : List Char) : ReleaseProgram Unit := do
  step
  Program.modifyWorld fun world =>
    { published := world.published.set name (world.stage.getD FileTree.empty) }

def fsyncDirectory : ReleaseProgram Unit :=
  Program.perform fun plan =>
    match plan.sync with
    | none => (.returned (), plan)
    | some failure => (.raised failure, plan)

/-- What stands under `try` in `build_release`, up to the rename. -/
def prepareStage (setup : ReleaseSetup) (source : SourceTree) (revision : List Char)
    (contents : List (List Char)) : ReleaseProgram Unit := do
  let files ← copyContents source contents []
  attempt (if files = [] then refuse "release has no files" else .ok ())
  writeManifest setup revision files
  verifyStage setup

def publishStage (setup : ReleaseSetup) (source : SourceTree) (revision : List Char)
    (contents : List (List Char)) (name : List Char) : ReleaseProgram Unit := do
  prepareStage setup source revision contents
  moveStage name
  fsyncDirectory

def releaseName (revision : List Char) : List Char := "agent-".toList ++ revision.take 12

def removeStage : ReleaseProgram Unit :=
  Program.modifyWorld fun world => { world with stage := none }

attribute [local instance] lawfulText

/-- The tests before anything is made. -/
def checkRequest (setup : ReleaseSetup) (source : SourceTree) (revision : List Char) :
    ReleaseProgram Unit := do
  attempt (if isLowerHex 40 revision then .ok () else refuse "release revision is invalid")
  step
  attempt (if source.usableRoot then .ok () else refuse "release source root is invalid")
  step
  attempt (if setup.outputUsable then .ok () else refuse "release output root is invalid")
  step
  let world ← Program.getWorld
  attempt (if releaseName revision ∈ world.published.keys then
    refuse "release revision is already published" else .ok ())

def buildRelease (setup : ReleaseSetup) (source : SourceTree) (revision : List Char)
    (contents : List (List Char)) : ReleaseProgram (List Char) := do
  checkRequest setup source revision
  step
  Program.modifyWorld fun world => { world with stage := some FileTree.empty }
  Program.tryCatch (publishStage setup source revision contents (releaseName revision))
    fun failure => do
      removeStage
      Program.raise failure
  pure (releaseName revision)

section Faults

variable {α β : Type}

/-- What the program returned under faults it returns without them; it is never cut off, and it
leaves the published directories and the final sync alone. -/
structure Benign (p : ReleaseProgram α) : Prop where
  calm : ∀ plan world value plan' world', p plan world = (.returned value, plan', world') →
    ∀ sync, p ⟨[], sync⟩ world = (.returned value, ⟨[], sync⟩, world')
  uncut : ∀ plan world, (p plan world).1 ≠ .crashed
  sync : ∀ plan world, (p plan world).2.1.sync = plan.sync
  published : ∀ plan world, (p plan world).2.2.published = world.published

theorem exists_of_returned {p : ReleaseProgram α} {f : α → ReleaseProgram β}
    {plan plan' : FaultPlan} {world world' : ReleaseWorld} {value : β}
    (h : (p >>= f) plan world = (.returned value, plan', world')) :
    ∃ a plan₁ world₁, p plan world = (.returned a, plan₁, world₁) ∧
      f a plan₁ world₁ = (.returned value, plan', world') := by
  rw [Program.run_bind] at h
  rcases hrun : p plan world with ⟨exit, plan₁, world₁⟩
  rw [hrun] at h
  cases exit with
  | returned a => exact ⟨a, plan₁, world₁, rfl, h⟩
  | raised error => cases h
  | crashed => cases h

theorem exists_of_raised {p : ReleaseProgram α} {f : α → ReleaseProgram β}
    {plan plan' : FaultPlan} {world world' : ReleaseWorld} {failure : ReleaseFailure}
    (h : (p >>= f) plan world = (.raised failure, plan', world')) :
    p plan world = (.raised failure, plan', world') ∨
      ∃ a plan₁ world₁, p plan world = (.returned a, plan₁, world₁) ∧
        f a plan₁ world₁ = (.raised failure, plan', world') := by
  rw [Program.run_bind] at h
  rcases hrun : p plan world with ⟨exit, plan₁, world₁⟩
  rw [hrun] at h
  cases exit with
  | returned a => exact Or.inr ⟨a, plan₁, world₁, rfl, h⟩
  | raised error =>
    cases h
    exact Or.inl rfl
  | crashed => cases h

theorem benign_pure (value : α) : Benign (pure value : ReleaseProgram α) where
  calm := by
    intro plan world found plan' world' h sync
    cases h
    rfl
  uncut _ _ h := by cases h
  sync _ _ := rfl
  published _ _ := rfl

theorem benign_raise (failure : ReleaseFailure) :
    Benign (Program.raise failure : ReleaseProgram α) where
  calm := by
    intro plan world found plan' world' h
    cases h
  uncut _ _ h := by cases h
  sync _ _ := rfl
  published _ _ := rfl

theorem benign_attempt (result : Checked α) : Benign (attempt result) := by
  cases result with
  | ok value => exact benign_pure value
  | error failure => exact benign_raise failure

/-- An operation raises or does nothing that is seen here. -/
theorem step_cases (plan : FaultPlan) (world : ReleaseWorld) :
    ∃ rest, step plan world = (.returned (), ⟨rest, plan.sync⟩, world) ∨
      ∃ failure, step plan world = (.raised failure, ⟨rest, plan.sync⟩, world) := by
  obtain ⟨steps, sync⟩ := plan
  cases steps with
  | nil => exact ⟨[], Or.inl rfl⟩
  | cons answer rest =>
    cases answer with
    | none => exact ⟨rest, Or.inl rfl⟩
    | some failure => exact ⟨rest, Or.inr ⟨failure, rfl⟩⟩

theorem benign_step : Benign step where
  calm := by
    intro plan world found plan' world' h sync
    obtain ⟨rest, hrun | ⟨failure, hrun⟩⟩ := step_cases plan world
    · rw [hrun] at h
      cases h
      rfl
    · rw [hrun] at h
      cases h
  uncut plan world h := by
    obtain ⟨rest, hrun | ⟨failure, hrun⟩⟩ := step_cases plan world
    · rw [hrun] at h
      cases h
    · rw [hrun] at h
      cases h
  sync plan world := by
    obtain ⟨rest, hrun | ⟨failure, hrun⟩⟩ := step_cases plan world
    · rw [hrun]
    · rw [hrun]
  published plan world := by
    obtain ⟨rest, hrun | ⟨failure, hrun⟩⟩ := step_cases plan world
    · rw [hrun]
    · rw [hrun]

theorem benign_changeStage (change : FileTree → FileTree) : Benign (changeStage change) where
  calm := by
    intro plan world found plan' world' h sync
    cases h
    rfl
  uncut _ _ h := by cases h
  sync _ _ := rfl
  published _ _ := rfl

theorem benign_bind {p : ReleaseProgram α} {f : α → ReleaseProgram β} (hp : Benign p)
    (hf : ∀ value, Benign (f value)) : Benign (p >>= f) where
  calm := by
    intro plan world value plan' world' h sync
    obtain ⟨a, plan₁, world₁, hfirst, hrest⟩ := exists_of_returned h
    rw [Program.run_bind_returned (hp.calm _ _ _ _ _ hfirst sync)]
    exact (hf a).calm _ _ _ _ _ hrest sync
  uncut plan world h := by
    have hfirst := hp.uncut plan world
    rw [Program.run_bind] at h
    rcases hrun : p plan world with ⟨exit, plan₁, world₁⟩
    rw [hrun] at h hfirst
    cases exit with
    | returned a => exact (hf a).uncut plan₁ world₁ h
    | raised error => cases h
    | crashed => exact hfirst rfl
  sync plan world := by
    have hfirst := hp.sync plan world
    rw [Program.run_bind]
    rcases hrun : p plan world with ⟨exit, plan₁, world₁⟩
    rw [hrun] at hfirst
    cases exit with
    | returned a => exact ((hf a).sync plan₁ world₁).trans hfirst
    | raised error => exact hfirst
    | crashed => exact hfirst
  published plan world := by
    have hfirst := hp.published plan world
    rw [Program.run_bind]
    rcases hrun : p plan world with ⟨exit, plan₁, world₁⟩
    rw [hrun] at hfirst
    cases exit with
    | returned a => exact ((hf a).published plan₁ world₁).trans hfirst
    | raised error => exact hfirst
    | crashed => exact hfirst

theorem benign_stageTree : Benign stageTree where
  calm := by
    intro plan world found plan' world' h sync
    cases h
    rfl
  uncut _ _ h := by cases h
  sync _ _ := rfl
  published _ _ := rfl

theorem benign_copyFile (files : ReleaseFiles) (relative : SafePath) (bytes : List UInt8) :
    Benign (copyFile files relative bytes) := by
  apply benign_bind (benign_attempt _)
  intro next
  apply benign_bind benign_step
  intro _
  apply benign_bind benign_step
  intro _
  apply benign_bind (benign_changeStage _)
  intro _
  apply benign_bind benign_step
  intro _
  apply benign_bind benign_step
  intro _
  exact benign_pure next

theorem benign_copyEntry (files : ReleaseFiles) (item : TreePath × TreeEntry) :
    Benign (copyEntry files item) := by
  unfold copyEntry
  split
  next => exact benign_pure files
  next =>
    apply benign_bind benign_step
    intro _
    apply benign_bind (benign_attempt _)
    intro yielded
    cases yielded with
    | none => exact benign_pure files
    | some found => exact benign_copyFile files found.1 found.2

theorem benign_copyEntries (items : List (TreePath × TreeEntry)) (files : ReleaseFiles) :
    Benign (copyEntries items files) := by
  induction items generalizing files with
  | nil => exact benign_pure files
  | cons item rest ih => exact benign_bind (benign_copyEntry files item) ih

theorem benign_copyAllowed (source : SourceTree) (files : ReleaseFiles) (allowed : List Char) :
    Benign (copyAllowed source files allowed) := by
  apply benign_bind (benign_attempt _)
  intro relative
  apply benign_bind benign_step
  intro _
  apply benign_bind (benign_attempt _)
  intro entry
  have hentries := benign_bind benign_step fun _ =>
    benign_copyEntries (below source.tree relative.path) files
  cases entry with
  | file bytes => exact benign_copyFile files relative bytes
  | directory => exact hentries
  | special => exact hentries
  | reparsePoint => exact hentries

theorem benign_copyContents (source : SourceTree) (contents : List (List Char))
    (files : ReleaseFiles) : Benign (copyContents source contents files) := by
  induction contents generalizing files with
  | nil => exact benign_pure files
  | cons allowed rest ih => exact benign_bind (benign_copyAllowed source files allowed) ih

theorem benign_prepareStage (setup : ReleaseSetup) (source : SourceTree) (revision : List Char)
    (contents : List (List Char)) : Benign (prepareStage setup source revision contents) := by
  apply benign_bind (benign_copyContents source contents [])
  intro files
  apply benign_bind (benign_attempt _)
  intro _
  have hmanifest : Benign (writeManifest setup revision files) := by
    apply benign_bind benign_step
    intro _
    apply benign_bind benign_stageTree
    intro tree
    apply benign_bind (benign_attempt _)
    intro _
    exact benign_bind (benign_changeStage _) fun _ => benign_step
  apply benign_bind hmanifest
  intro _
  apply benign_bind benign_step
  intro _
  exact benign_bind benign_stageTree fun tree => benign_attempt _

end Faults

/-- The files that are gathered without a fault. -/
def gatherEntry (files : ReleaseFiles) (item : TreePath × TreeEntry) : Checked ReleaseFiles :=
  if isBytecode item.1 then .ok files
  else do
    let yielded ← yieldedFile item
    match yielded with
    | none => .ok files
    | some (relative, bytes) => addFile files relative bytes

def gatherAllowed (source : SourceTree) (files : ReleaseFiles) (allowed : List Char) :
    Checked ReleaseFiles := do
  let relative ← safeRelative allowed
  let entry ← sourceEntry source relative
  match entry with
  | .file bytes => addFile files relative bytes
  | _ => (below source.tree relative.path).foldlM gatherEntry files

def gather (source : SourceTree) (contents : List (List Char)) : Checked ReleaseFiles :=
  contents.foldlM (gatherAllowed source) []

section Calm

variable {published : OrderedDict (List Char) FileTree} {sync : Option ReleaseFailure}

/-- A run without faults ends as the computation does, with the files in the stage. -/
def EndsAs (published : OrderedDict (List Char) FileTree) (sync : Option ReleaseFailure)
    (run : Exit ReleaseFailure ReleaseFiles × FaultPlan × ReleaseWorld) :
    Checked ReleaseFiles → Prop
  | .ok next => run = (.returned next, ⟨[], sync⟩, ⟨published, some (stageOf next)⟩)
  | .error failure => ∃ world', run = (.raised failure, ⟨[], sync⟩, world')

def Follows (p : ReleaseProgram ReleaseFiles) (files : ReleaseFiles)
    (result : Checked ReleaseFiles) : Prop :=
  ∀ published sync, EndsAs published sync (p ⟨[], sync⟩ ⟨published, some (stageOf files)⟩) result

theorem follows_pure (files : ReleaseFiles) : Follows (pure files) files (.ok files) :=
  fun _ _ => rfl

theorem follows_step {p : ReleaseProgram ReleaseFiles} {files : ReleaseFiles}
    {result : Checked ReleaseFiles} (h : Follows p files result) :
    Follows (step >>= fun _ => p) files result := h

theorem follows_attempt {α : Type} {x : Checked α} {f : α → ReleaseProgram ReleaseFiles}
    {g : α → Checked ReleaseFiles} {files : ReleaseFiles}
    (h : ∀ value, x = .ok value → Follows (f value) files (g value)) :
    Follows (attempt x >>= f) files (x >>= g) := by
  cases x with
  | ok value => exact h value rfl
  | error failure => exact fun published sync => ⟨_, rfl⟩

theorem follows_bind {p : ReleaseProgram ReleaseFiles}
    {f : ReleaseFiles → ReleaseProgram ReleaseFiles} {x : Checked ReleaseFiles}
    {g : ReleaseFiles → Checked ReleaseFiles} {files : ReleaseFiles} (hp : Follows p files x)
    (hf : ∀ next, x = .ok next → Follows (f next) next (g next)) :
    Follows (p >>= f) files (x >>= g) := by
  intro published sync
  have hfirst := hp published sync
  cases x with
  | ok next =>
    have hrun : (p >>= f) ⟨[], sync⟩ ⟨published, some (stageOf files)⟩ =
        f next ⟨[], sync⟩ ⟨published, some (stageOf next)⟩ := Program.run_bind_returned hfirst
    rw [hrun]
    exact hf next rfl published sync
  | error failure =>
    obtain ⟨world', hworld⟩ := hfirst
    refine ⟨world', ?_⟩
    rw [Program.run_bind, hworld]

theorem follows_copyFile (files : ReleaseFiles) (relative : SafePath) (bytes : List UInt8) :
    Follows (copyFile files relative bytes) files (addFile files relative bytes) := by
  intro published sync
  unfold copyFile addFile
  by_cases hoverlap : relative.text ∈ files.map fun file => file.1.text
  · rw [if_pos hoverlap]
    exact ⟨_, rfl⟩
  · rw [if_neg hoverlap]
    show _ = (_, _, ReleaseWorld.mk published (some (stageOf (files ++ [(relative, bytes)]))))
    rw [stageOf_append]
    rfl

theorem follows_copyEntry (files : ReleaseFiles) (item : TreePath × TreeEntry) :
    Follows (copyEntry files item) files (gatherEntry files item) := by
  unfold copyEntry gatherEntry
  split
  next => exact follows_pure files
  next =>
    apply follows_step
    apply follows_attempt
    intro yielded _
    cases yielded with
    | none => exact follows_pure files
    | some found => exact follows_copyFile files found.1 found.2

theorem follows_copyEntries (items : List (TreePath × TreeEntry)) (files : ReleaseFiles) :
    Follows (copyEntries items files) files (items.foldlM gatherEntry files) := by
  induction items generalizing files with
  | nil => exact follows_pure files
  | cons item rest ih =>
    rw [List.foldlM_cons]
    exact follows_bind (follows_copyEntry files item) fun next _ => ih next

theorem follows_copyAllowed (source : SourceTree) (files : ReleaseFiles) (allowed : List Char) :
    Follows (copyAllowed source files allowed) files (gatherAllowed source files allowed) := by
  apply follows_attempt
  intro relative _
  apply follows_step
  apply follows_attempt
  intro entry _
  have hentries := follows_step (follows_copyEntries (below source.tree relative.path) files)
  cases entry with
  | file bytes => exact follows_copyFile files relative bytes
  | directory => exact hentries
  | special => exact hentries
  | reparsePoint => exact hentries

theorem follows_copyContents (source : SourceTree) (contents : List (List Char))
    (files : ReleaseFiles) :
    Follows (copyContents source contents files) files
      (contents.foldlM (gatherAllowed source) files) := by
  induction contents generalizing files with
  | nil => exact follows_pure files
  | cons allowed rest ih =>
    rw [List.foldlM_cons]
    exact follows_bind (follows_copyAllowed source files allowed) fun next _ => ih next

end Calm

section Gathered

variable {source : SourceTree} {contents : List (List Char)} {files : ReleaseFiles}

theorem addFile_eq_ok {relative : SafePath} {bytes : List UInt8} {next : ReleaseFiles} :
    addFile files relative bytes = .ok next ↔
      relative.text ∉ (files.map fun file => file.1.text) ∧ next = files ++ [(relative, bytes)] := by
  unfold addFile
  split
  next hoverlap => simp [refuse, hoverlap]
  next hnew => simp [hnew, eq_comm]

theorem DistinctPaths.add {next : ReleaseFiles} {relative : SafePath} {bytes : List UInt8}
    (h : DistinctPaths files) (hadd : addFile files relative bytes = .ok next) :
    DistinctPaths next := by
  obtain ⟨hnew, rfl⟩ := addFile_eq_ok.mp hadd
  unfold DistinctPaths at h ⊢
  rw [List.map_append, List.nodup_append]
  refine ⟨h, by simp, ?_⟩
  intro text htext other hother heq
  have hsame : other = relative.text := by simpa using hother
  exact hnew (hsame ▸ heq ▸ htext)

/-- The file that an entry gives: none for a bytecode cache or a directory. -/
def Yields (item : TreePath × TreeEntry) (file : SafePath × List UInt8) : Prop :=
  isBytecode item.1 = false ∧ yieldedFile item = .ok (some file)

theorem gatherEntry_eq_ok {item : TreePath × TreeEntry} {next : ReleaseFiles}
    (h : gatherEntry files item = .ok next) :
    (DistinctPaths files → DistinctPaths next) ∧
      ∀ file, file ∈ next ↔ file ∈ files ∨ Yields item file := by
  unfold gatherEntry at h
  unfold Yields
  split at h
  next hbytecode =>
    cases h
    exact ⟨id, by simp [hbytecode]⟩
  next hbytecode =>
    obtain ⟨yielded, hyielded, h⟩ := except_bind_eq_ok h
    cases yielded with
    | none =>
      cases h
      exact ⟨id, by simp [hyielded]⟩
    | some found =>
      refine ⟨fun hdistinct => hdistinct.add h, ?_⟩
      obtain ⟨-, rfl⟩ := addFile_eq_ok.mp h
      intro file
      simp [hyielded, hbytecode, eq_comm]

/-- A file of the contents list gives itself, a directory what is below it. -/
def ReachedAt (source : SourceTree) (relative : SafePath) (file : SafePath × List UInt8) :
    TreeEntry → Prop
  | .file bytes => file = (relative, bytes)
  | _ => ∃ item ∈ below source.tree relative.path, Yields item file

/-- The files that an entry of the contents list reaches. -/
def ReachedFrom (source : SourceTree) (allowed : List Char) (file : SafePath × List UInt8) : Prop :=
  ∃ relative entry, safeRelative allowed = .ok relative ∧ sourceEntry source relative = .ok entry ∧
    ReachedAt source relative file entry

theorem gatherEntries_eq_ok {items : List (TreePath × TreeEntry)} {next : ReleaseFiles}
    (h : items.foldlM gatherEntry files = .ok next) :
    (DistinctPaths files → DistinctPaths next) ∧
      ∀ file, file ∈ next ↔ file ∈ files ∨ ∃ item ∈ items, Yields item file := by
  apply foldlM_ok_induction (fun done next => (DistinctPaths files → DistinctPaths next) ∧
    ∀ file, file ∈ next ↔ file ∈ files ∨ ∃ item ∈ done, Yields item file) ?_ ?_ h
  · intro done item acc next hacc hstep
    obtain ⟨hdistinct, hmem⟩ := gatherEntry_eq_ok hstep
    refine ⟨fun h => hdistinct (hacc.1 h), ?_⟩
    intro file
    rw [hmem, hacc.2, or_assoc]
    simp [or_and_right, exists_or]
  · exact ⟨id, by simp⟩

theorem gatherAllowed_eq_ok {allowed : List Char} {next : ReleaseFiles}
    (h : gatherAllowed source files allowed = .ok next) :
    (DistinctPaths files → DistinctPaths next) ∧
      ∀ file, file ∈ next ↔ file ∈ files ∨ ReachedFrom source allowed file := by
  obtain ⟨relative, hrelative, h⟩ := except_bind_eq_ok h
  obtain ⟨entry, hentry, h⟩ := except_bind_eq_ok h
  have hreached : ∀ file, ReachedFrom source allowed file ↔
      ReachedAt source relative file entry := by
    intro file
    unfold ReachedFrom
    constructor
    · intro hfile
      obtain ⟨other, found, hother, hfound, hfile⟩ := hfile
      rw [hrelative] at hother
      cases hother
      rw [hentry] at hfound
      cases hfound
      exact hfile
    · intro hfile
      exact ⟨relative, entry, hrelative, hentry, hfile⟩
  simp only [hreached]
  cases entry with
  | file bytes =>
    refine ⟨fun hdistinct => hdistinct.add h, ?_⟩
    obtain ⟨-, rfl⟩ := addFile_eq_ok.mp h
    intro file
    simp [ReachedAt]
  | directory => exact gatherEntries_eq_ok h
  | special => exact gatherEntries_eq_ok h
  | reparsePoint => exact gatherEntries_eq_ok h

theorem gather_eq_ok (h : gather source contents = .ok files) :
    DistinctPaths files ∧
      ∀ file, file ∈ files ↔ ∃ allowed ∈ contents, ReachedFrom source allowed file := by
  apply foldlM_ok_induction (fun done files => DistinctPaths files ∧
    ∀ file, file ∈ files ↔ ∃ allowed ∈ done, ReachedFrom source allowed file) ?_ ?_ h
  · intro done allowed acc next hacc hstep
    obtain ⟨hdistinct, hmem⟩ := gatherAllowed_eq_ok hstep
    refine ⟨hdistinct hacc.1, ?_⟩
    intro file
    rw [hmem, hacc.2]
    simp [or_and_right, exists_or]
  · exact ⟨List.nodup_nil, by simp⟩

end Gathered

end TradeJournalWorker.Release
