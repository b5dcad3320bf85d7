import TradeJournalWorker.ReleaseBuild

namespace TradeJournalWorker.Release

open FaultProgram

/-- A regular file that an entry of the contents list names, or that is below a directory it names
and is no bytecode cache. -/
def Reached (source : SourceTree) (contents : List (List Char)) (path : TreePath)
    (bytes : List UInt8) : Prop :=
  source.tree.file? path = some bytes ∧
    ∃ allowed ∈ contents, ∃ relative, safeRelative allowed = .ok relative ∧
      (relative.path = path ∨ source.tree.get? relative.path = some .directory ∧
        relative.path <+: path ∧ relative.path ≠ path ∧ isBytecode path = false)

section Reaching

variable {source : SourceTree} {contents : List (List Char)} {files : ReleaseFiles}

theorem sourceEntry_eq_ok {relative : SafePath} {entry : TreeEntry} :
    sourceEntry source relative = .ok entry ↔
      source.tree.get? relative.path = some entry ∧ (entry = .directory ∨ ∃ bytes, entry = .file bytes) := by
  unfold sourceEntry
  cases hget : source.tree.get? relative.path with
  | none => simp [refuse]
  | some found =>
    cases found with
    | file bytes =>
      constructor
      · intro h
        cases h
        exact ⟨rfl, Or.inr ⟨bytes, rfl⟩⟩
      · intro h
        cases h.1
        rfl
    | directory =>
      constructor
      · intro h
        cases h
        exact ⟨rfl, Or.inl rfl⟩
      · intro h
        cases h.1
        rfl
    | special =>
      constructor
      · intro h
        cases h
      · intro h
        obtain ⟨heq, rfl | ⟨bytes, rfl⟩⟩ := h
        · cases heq
        · cases heq
    | reparsePoint =>
      constructor
      · intro h
        cases h
      · intro h
        obtain ⟨heq, rfl | ⟨bytes, rfl⟩⟩ := h
        · cases heq
        · cases heq

theorem mem_below {tree : FileTree} {path other : TreePath} {entry : TreeEntry} :
    (other, entry) ∈ below tree path ↔
      tree.get? other = some entry ∧ path <+: other ∧ path ≠ other := by
  unfold below
  rw [List.mem_insertionSort, List.mem_filter, decide_eq_true_eq, mem_entries_iff_get?]

/-- What an entry yields is the file that stands there. -/
theorem yieldedFile_eq_some {path : TreePath} {entry : TreeEntry} {file : SafePath × List UInt8}
    (hvalid : ValidPath path) (h : yieldedFile (path, entry) = .ok (some file)) :
    entry = .file file.2 ∧ file.1.path = path := by
  unfold yieldedFile at h
  cases entry with
  | reparsePoint => cases h
  | directory => cases h
  | special => cases h
  | file bytes =>
    cases hsafe : safeRelative (asPosix path) with
    | error failure =>
      simp only [hsafe] at h
      cases h
    | ok relative =>
      simp only [hsafe] at h
      cases h
      exact ⟨rfl, (safeRelative_asPosix hvalid hsafe).2⟩

theorem reached_of_reachedFrom {allowed : List Char} {file : SafePath × List UInt8}
    (hallowed : allowed ∈ contents) (h : ReachedFrom source allowed file) :
    Reached source contents file.1.path file.2 := by
  obtain ⟨relative, entry, hrelative, hentry, hfile⟩ := h
  obtain ⟨hget, rfl | ⟨bytes, rfl⟩⟩ := sourceEntry_eq_ok.mp hentry
  · obtain ⟨⟨path, entry⟩, hitem, hbytecode, hyields⟩ := hfile
    obtain ⟨hfound, hbelow, hne⟩ := mem_below.mp hitem
    obtain ⟨rfl, rfl⟩ := yieldedFile_eq_some (valid_of_get? hfound) hyields
    exact ⟨FileTree.file?_eq_some.mpr hfound, allowed, hallowed, relative, hrelative,
      Or.inr ⟨hget, hbelow, hne, hbytecode⟩⟩
  · have heq : file = (relative, bytes) := hfile
    subst heq
    exact ⟨FileTree.file?_eq_some.mpr hget, allowed, hallowed, relative, hrelative, Or.inl rfl⟩

/-- The round over a file below a directory that is no bytecode cache has found its path safe. -/
theorem yields_of_gathered {relative : SafePath} {acc next : ReleaseFiles} {path : TreePath}
    {bytes : List UInt8} (hgather : (below source.tree relative.path).foldlM gatherEntry acc = .ok next)
    (hfile : source.tree.get? path = some (.file bytes)) (hbelow : relative.path <+: path)
    (hne : relative.path ≠ path) (hbytecode : isBytecode path = false) :
    ∃ file, Yields (path, .file bytes) file ∧ file.1.path = path ∧ file.2 = bytes := by
  have hitem : (path, .file bytes) ∈ below source.tree relative.path :=
    mem_below.mpr ⟨hfile, hbelow, hne⟩
  obtain ⟨before, after, hround⟩ := foldlM_ok_forall hgather _ hitem
  unfold gatherEntry at hround
  rw [hbytecode, if_neg (by decide)] at hround
  obtain ⟨yielded, hyielded, -⟩ := except_bind_eq_ok hround
  cases hsafe : safeRelative (asPosix path) with
  | error failure =>
    simp only [yieldedFile, hsafe] at hyielded
    cases hyielded
  | ok found =>
    have hyields : yieldedFile (path, .file bytes) = .ok (some (found, bytes)) := by
      simp only [yieldedFile, hsafe]
      rfl
    exact ⟨(found, bytes), ⟨hbytecode, hyields⟩,
      (safeRelative_asPosix (valid_of_get? hfile) hsafe).2, rfl⟩

/-- The gathered files are those that the contents list reaches. -/
theorem gathered_iff (h : gather source contents = .ok files) {path : TreePath}
    {bytes : List UInt8} :
    (∃ file ∈ files, file.1.path = path ∧ file.2 = bytes) ↔ Reached source contents path bytes := by
  obtain ⟨-, hmem⟩ := gather_eq_ok h
  constructor
  · intro hfound
    obtain ⟨file, hfile, rfl, rfl⟩ := hfound
    obtain ⟨allowed, hallowed, hreached⟩ := (hmem file).mp hfile
    exact reached_of_reachedFrom hallowed hreached
  · intro hreached
    obtain ⟨hfile, allowed, hallowed, relative, hrelative, hplace⟩ := hreached
    have hget := FileTree.file?_eq_some.mp hfile
    rcases hplace with rfl | ⟨hdirectory, hbelow, hne, hbytecode⟩
    · refine ⟨(relative, bytes), (hmem _).mpr ⟨allowed, hallowed, relative, .file bytes, hrelative,
        sourceEntry_eq_ok.mpr ⟨hget, Or.inr ⟨bytes, rfl⟩⟩, rfl⟩, rfl, rfl⟩
    · have hentry : sourceEntry source relative = .ok .directory :=
        sourceEntry_eq_ok.mpr ⟨hdirectory, Or.inl rfl⟩
      obtain ⟨acc, next, hround⟩ := foldlM_ok_forall h allowed hallowed
      obtain ⟨other, hother, hround⟩ := except_bind_eq_ok hround
      rw [hrelative] at hother
      cases hother
      obtain ⟨entry, hfound, hround⟩ := except_bind_eq_ok hround
      rw [hentry] at hfound
      cases hfound
      obtain ⟨file, hyields, hpath, hbytes⟩ := yields_of_gathered hround hget hbelow hne hbytecode
      exact ⟨file, (hmem _).mpr ⟨allowed, hallowed, relative, .directory, hrelative, hentry,
        ⟨_, mem_below.mpr ⟨hget, hbelow, hne⟩, hyields⟩⟩, hpath, hbytes⟩

end Reaching

section Preparing

variable {setup : ReleaseSetup} {source : SourceTree} {revision : List Char}
  {contents : List (List Char)} {published : OrderedDict (List Char) FileTree}
  {sync : Option ReleaseFailure} {files : ReleaseFiles}

/-- What the contents list has to be for a release: it can be gathered, it reaches a file, and
nothing it reaches takes the manifest's name. -/
def Gatherable (source : SourceTree) (contents : List (List Char)) (files : ReleaseFiles) : Prop :=
  gather source contents = .ok files ∧ files ≠ [] ∧ ¬ occupied (stageOf files)

theorem Gatherable.distinct (h : Gatherable source contents files) : DistinctPaths files :=
  (gather_eq_ok h.1).1

theorem Gatherable.manifest_free (h : Gatherable source contents files) :
    ∀ file ∈ files, file.1.path ≠ [releaseManifestName] := by
  intro file hfile hpath
  have hget : (stageOf files).get? file.1.path = some (.file file.2) :=
    (get?_stageOf h.distinct).mpr ⟨file, hfile, rfl, rfl⟩
  apply h.2.2
  refine ⟨file.1.path, ?_, ?_⟩
  · rw [← OrderedDict.isSome_get?_iff]
    exact Option.isSome_iff_exists.mpr ⟨_, hget⟩
  · rw [hpath]
    rfl

/-- No fault before the final sync. -/
def calmPlan (sync : Option ReleaseFailure) : FaultPlan := ⟨[], sync⟩

def staged (published : OrderedDict (List Char) FileTree) (tree : FileTree) : ReleaseWorld :=
  ⟨published, some tree⟩

theorem writeManifest_calm (tree : FileTree) :
    writeManifest setup revision files (calmPlan sync) (staged published tree) =
      if occupied tree then (.raised .osError, calmPlan sync, staged published tree)
      else (.returned (), calmPlan sync, staged published
        (tree.put manifestPath.path manifestPath.valid
          (.file (manifestBytes setup revision files)))) := by
  by_cases hoccupied : occupied tree
  · rw [if_pos hoccupied]
    have hattempt : (attempt (if occupied tree then .error .osError else .ok ()) :
        ReleaseProgram Unit) = Program.raise .osError := by
      rw [if_pos hoccupied]
      rfl
    unfold writeManifest
    show ((attempt (if occupied tree then .error .osError else .ok ()) : ReleaseProgram Unit) >>= _)
      (calmPlan sync) (staged published tree) = _
    rw [hattempt]
    rfl
  · rw [if_neg hoccupied]
    have hattempt : (attempt (if occupied tree then .error .osError else .ok ()) :
        ReleaseProgram Unit) = pure () := by
      rw [if_neg hoccupied]
      rfl
    unfold writeManifest
    show ((attempt (if occupied tree then .error .osError else .ok ()) : ReleaseProgram Unit) >>= _)
      (calmPlan sync) (staged published tree) = _
    rw [hattempt]
    rfl

theorem copyContents_calm (h : gather source contents = .ok files) :
    copyContents source contents [] (calmPlan sync) (staged published FileTree.empty) =
      (.returned files, calmPlan sync, staged published (stageOf files)) := by
  have hfollows := follows_copyContents source contents [] published sync
  unfold gather at h
  rw [h] at hfollows
  exact hfollows

theorem gather_of_copied {plan' : FaultPlan} {world' : ReleaseWorld}
    (h : copyContents source contents [] (calmPlan sync) (staged published FileTree.empty) =
      (.returned files, plan', world')) : gather source contents = .ok files := by
  have hfollows := follows_copyContents source contents [] published sync
  cases hgather : gather source contents with
  | ok found =>
    have hcalm := @copyContents_calm source contents published sync found hgather
    rw [hcalm] at h
    cases h
    rfl
  | error failure =>
    unfold gather at hgather
    rw [hgather] at hfollows
    obtain ⟨world'', hraised⟩ := hfollows
    have hboth := h.symm.trans hraised
    cases hboth

/-- Without faults the stage of what can be gathered passes the check. -/
theorem prepareStage_calm (hrevision : isLowerHex 40 revision = true)
    (h : Gatherable source contents files) :
    prepareStage setup source revision contents (calmPlan sync) (staged published FileTree.empty) =
      (.returned (), calmPlan sync, staged published (releaseTree setup revision files)) := by
  have hverified : verifyRelease setup (releaseTree setup revision files) = .ok _ :=
    verifyRelease_releaseTree hrevision h.2.1 h.distinct h.manifest_free
  unfold prepareStage
  rw [Program.run_bind_returned (copyContents_calm h.1), if_neg h.2.1]
  show (writeManifest setup revision files >>= fun _ => verifyStage setup) _ _ = _
  have hmanifest := @writeManifest_calm setup revision published sync files (stageOf files)
  rw [if_neg h.2.2] at hmanifest
  rw [Program.run_bind_returned hmanifest]
  show (attempt ((verifyRelease setup (releaseTree setup revision files)).map fun _ => ()) :
    ReleaseProgram Unit) _ _ = _
  rw [hverified]
  rfl

/-- A stage that was prepared, under whatever faults, is the one of what can be gathered. -/
theorem prepareStage_returned {plan plan' : FaultPlan} {world' : ReleaseWorld}
    (h : prepareStage setup source revision contents plan (staged published FileTree.empty) =
      (.returned (), plan', world')) :
    ∃ files members, Gatherable source contents files ∧
      world' = staged published (releaseTree setup revision files) ∧
      verifyRelease setup (releaseTree setup revision files) = .ok members := by
  have hcalm := (benign_prepareStage setup source revision contents).calm _ _ _ _ _ h none
  unfold prepareStage at hcalm
  obtain ⟨files, plan₁, world₁, hcopied, hrest⟩ := exists_of_returned hcalm
  have hgather := gather_of_copied hcopied
  have hagain := @copyContents_calm source contents published none files hgather
  have hsame := hcopied.symm.trans hagain
  cases hsame
  obtain ⟨_, plan₂, world₂, hnonempty, hrest⟩ := exists_of_returned hrest
  by_cases hfiles : files = []
  · rw [if_pos hfiles] at hnonempty
    cases hnonempty
  · rw [if_neg hfiles] at hnonempty
    cases hnonempty
    obtain ⟨_, plan₃, world₃, hmanifest, hrest⟩ := exists_of_returned hrest
    have hwritten := @writeManifest_calm setup revision published none files (stageOf files)
    have hsame := hmanifest.symm.trans hwritten
    by_cases hoccupied : occupied (stageOf files)
    · rw [if_pos hoccupied] at hsame
      cases hsame
    · rw [if_neg hoccupied] at hsame
      cases hsame
      have hverified : (attempt ((verifyRelease setup (releaseTree setup revision files)).map
          fun _ => ()) : ReleaseProgram Unit) (calmPlan none)
          (staged published (releaseTree setup revision files)) = (.returned (), _, world') := hrest
      cases hcheck : verifyRelease setup (releaseTree setup revision files) with
      | error failure =>
        rw [hcheck] at hverified
        cases hverified
      | ok members =>
        rw [hcheck] at hverified
        cases hverified
        exact ⟨files, members, ⟨hgather, hfiles, hoccupied⟩, rfl, hcheck⟩

end Preparing

section Publishing

variable {setup : ReleaseSetup} {source : SourceTree} {revision name : List Char}
  {contents : List (List Char)} {published : OrderedDict (List Char) FileTree}
  {sync : Option ReleaseFailure} {files : ReleaseFiles}

/-- The stage is published whole, or the published directories are as they were. -/
theorem publishStage_cases {plan : FaultPlan} (hsync : plan.sync = none) :
    (∃ failure plan' world', publishStage setup source revision contents name plan
        (staged published FileTree.empty) = (.raised failure, plan', world') ∧
      world'.published = published) ∨
    ∃ files members plan', Gatherable source contents files ∧
      publishStage setup source revision contents name plan (staged published FileTree.empty) =
        (.returned (), plan', ⟨published.set name (releaseTree setup revision files), none⟩) ∧
      verifyRelease setup (releaseTree setup revision files) = .ok members := by
  have hbenign := benign_prepareStage setup source revision contents
  have hpublished := hbenign.published plan (staged published FileTree.empty)
  have hkept := hbenign.sync plan (staged published FileTree.empty)
  have huncut := hbenign.uncut plan (staged published FileTree.empty)
  unfold publishStage
  rcases hrun : prepareStage setup source revision contents plan
    (staged published FileTree.empty) with ⟨exit, plan₁, world₁⟩
  rw [hrun] at hpublished hkept huncut
  cases exit with
  | crashed => exact absurd rfl huncut
  | raised failure =>
    refine Or.inl ⟨failure, plan₁, world₁, ?_, hpublished⟩
    rw [Program.run_bind, hrun]
  | returned value =>
    obtain ⟨files, members, hgatherable, rfl, hverified⟩ := prepareStage_returned hrun
    have hnone : plan₁.sync = none := hkept.trans hsync
    rw [Program.run_bind_returned hrun]
    obtain ⟨rest, hstep | ⟨failure, hstep⟩⟩ :=
      step_cases plan₁ (staged published (releaseTree setup revision files))
    · refine Or.inr ⟨files, members, ⟨rest, plan₁.sync⟩, hgatherable, ?_, hverified⟩
      have hmove : moveStage name plan₁ (staged published (releaseTree setup revision files)) =
          (.returned (), ⟨rest, plan₁.sync⟩,
            ⟨published.set name (releaseTree setup revision files), none⟩) := by
        unfold moveStage
        rw [Program.run_bind_returned hstep]
        rfl
      rw [Program.run_bind_returned hmove, hnone]
      rfl
    · refine Or.inl ⟨failure, ⟨rest, plan₁.sync⟩,
        staged published (releaseTree setup revision files), ?_, rfl⟩
      have hmove : moveStage name plan₁ (staged published (releaseTree setup revision files)) =
          (.raised failure, ⟨rest, plan₁.sync⟩,
            staged published (releaseTree setup revision files)) := by
        unfold moveStage
        rw [Program.run_bind, hstep]
      rw [Program.run_bind, hmove]

theorem publishStage_calm (hrevision : isLowerHex 40 revision = true)
    (h : Gatherable source contents files) :
    publishStage setup source revision contents name (calmPlan sync)
      (staged published FileTree.empty) =
        fsyncDirectory (calmPlan sync)
          ⟨published.set name (releaseTree setup revision files), none⟩ := by
  unfold publishStage
  rw [Program.run_bind_returned (prepareStage_calm hrevision h)]
  rfl

end Publishing

section Requests

variable {setup : ReleaseSetup} {source : SourceTree} {revision : List Char}

/-- What is asked before anything is made. -/
structure Requestable (setup : ReleaseSetup) (source : SourceTree) (revision : List Char)
    (world : ReleaseWorld) : Prop where
  revision_hex : isLowerHex 40 revision = true
  source_usable : source.usableRoot = true
  output_usable : setup.outputUsable = true
  unpublished : releaseName revision ∉ world.published.keys

theorem checkRequest_keeps (plan : FaultPlan) (world : ReleaseWorld) :
    (checkRequest setup source revision plan world).2.1.sync = plan.sync ∧
      (checkRequest setup source revision plan world).2.2 = world := by
  have hattempt : ∀ result : Checked Unit, Preserves (fun (plan' : FaultPlan) world' =>
      plan'.sync = plan.sync ∧ world' = world) (attempt result) := by
    intro result
    cases result with
    | ok value => exact preserves_pure _
    | error failure => exact preserves_raise _
  have hstep : Preserves (fun (plan' : FaultPlan) world' =>
      plan'.sync = plan.sync ∧ world' = world) step := by
    intro plan' world' hinv
    obtain ⟨rest, hrun | ⟨failure, hrun⟩⟩ := step_cases plan' world'
    · rw [hrun]
      exact hinv
    · rw [hrun]
      exact hinv
  have hall : Preserves (fun (plan' : FaultPlan) world' => plan'.sync = plan.sync ∧ world' = world)
      (checkRequest setup source revision) := by
    apply preserves_bind (hattempt _)
    intro _
    apply preserves_bind hstep
    intro _
    apply preserves_bind (hattempt _)
    intro _
    apply preserves_bind hstep
    intro _
    apply preserves_bind (hattempt _)
    intro _
    apply preserves_bind hstep
    intro _
    apply preserves_bind preserves_getWorld
    intro _
    exact hattempt _
  exact hall plan world ⟨rfl, rfl⟩

theorem benign_checkRequest (setup : ReleaseSetup) (source : SourceTree) (revision : List Char) :
    Benign (checkRequest setup source revision) := by
  have hworld : Benign (Program.getWorld : ReleaseProgram ReleaseWorld) := by
    refine ⟨?_, ?_, fun _ _ => rfl, fun _ _ => rfl⟩
    · intro plan world found plan' world' h sync
      cases h
      rfl
    · intro plan world h
      cases h
  apply benign_bind (benign_attempt _)
  intro _
  apply benign_bind benign_step
  intro _
  apply benign_bind (benign_attempt _)
  intro _
  apply benign_bind benign_step
  intro _
  apply benign_bind (benign_attempt _)
  intro _
  apply benign_bind benign_step
  intro _
  apply benign_bind hworld
  intro _
  exact benign_attempt _

theorem checkRequest_returned {plan plan' : FaultPlan} {world world' : ReleaseWorld}
    (h : checkRequest setup source revision plan world = (.returned (), plan', world')) :
    Requestable setup source revision world := by
  have hcalm := (benign_checkRequest setup source revision).calm _ _ _ _ _ h none
  unfold checkRequest at hcalm
  by_cases hrevision : isLowerHex 40 revision = true
  · by_cases hsource : source.usableRoot = true
    · by_cases houtput : setup.outputUsable = true
      · by_cases hpublished : releaseName revision ∈ world.published.keys
        · rw [if_pos hrevision, if_pos hsource, if_pos houtput] at hcalm
          have hlast : (attempt (if releaseName revision ∈ world.published.keys then
              refuse "release revision is already published" else .ok ()) : ReleaseProgram Unit)
              (calmPlan none) world = (.returned (), calmPlan none, world') := hcalm
          rw [if_pos hpublished] at hlast
          cases hlast
        · exact ⟨hrevision, hsource, houtput, hpublished⟩
      · rw [if_pos hrevision, if_pos hsource, if_neg houtput] at hcalm
        cases hcalm
    · rw [if_pos hrevision, if_neg hsource] at hcalm
      cases hcalm
  · rw [if_neg hrevision] at hcalm
    cases hcalm

theorem checkRequest_calm {sync : Option ReleaseFailure} {world : ReleaseWorld}
    (h : Requestable setup source revision world) :
    checkRequest setup source revision (calmPlan sync) world =
      (.returned (), calmPlan sync, world) := by
  unfold checkRequest
  rw [if_pos h.revision_hex, if_pos h.source_usable, if_pos h.output_usable]
  show (attempt (if releaseName revision ∈ world.published.keys then _ else .ok ()) :
    ReleaseProgram Unit) (calmPlan sync) world = _
  rw [if_neg h.unpublished]
  rfl

end Requests

section Building

variable {setup : ReleaseSetup} {source : SourceTree} {revision : List Char}
  {contents : List (List Char)} {world : ReleaseWorld} {files : ReleaseFiles}

/-- As long as nobody replaces the manifest, no file of the tree can be added, removed, renamed
or changed unnoticed. -/
def Sealed (setup : ReleaseSetup) (tree : FileTree) : Prop :=
  ∀ tree', (∀ bytes, tree'.file? [releaseManifestName] = some bytes →
      tree.file? [releaseManifestName] = some bytes) →
    NoCollision setup tree tree' → (∃ path, tree'.file? path ≠ tree.file? path) →
    ∃ failure, verifyRelease setup tree' = .error failure

/-- A release of these sources: it verifies, it has the files that the contents list reaches and
the manifest, and it is sealed. -/
structure Complete (setup : ReleaseSetup) (source : SourceTree) (contents : List (List Char))
    (tree : FileTree) : Prop where
  verified : ∃ members, verifyRelease setup tree = .ok members
  files : ∀ path bytes, path ≠ [releaseManifestName] →
    (tree.file? path = some bytes ↔ Reached source contents path bytes)
  manifest_kept : ∃ bytes, tree.file? [releaseManifestName] = some bytes
  manifest_apart : ∀ bytes, ¬ Reached source contents [releaseManifestName] bytes
  isSealed : Sealed setup tree

/-- A call without faults that publishes. -/
def Publishes (setup : ReleaseSetup) (source : SourceTree) (revision : List Char)
    (contents : List (List Char)) (world : ReleaseWorld) : Prop :=
  ∃ world', buildRelease setup source revision contents {} world =
    (.returned (releaseName revision), {}, world')

/-- How a call may end. -/
def Outcome (setup : ReleaseSetup) (source : SourceTree) (revision : List Char)
    (contents : List (List Char)) (world : ReleaseWorld) :
    Exit ReleaseFailure (List Char) → ReleaseWorld → Prop
  | .returned name, world' => name = releaseName revision ∧ name ∉ world.published.keys ∧
      ∃ tree, world' = ⟨world.published.set name tree, none⟩ ∧ Complete setup source contents tree
  | .raised _, world' => world' = world ∧
      (Requestable setup source revision world → (∃ files, Gatherable source contents files) →
        Publishes setup source revision contents world')
  | .crashed, _ => False

theorem file?_of_readManifest {tree : FileTree} {document : JsonValue}
    (h : readManifest tree = .ok document) :
    ∃ bytes, tree.get? [releaseManifestName] = some (.file bytes) := by
  unfold readManifest at h
  split at h
  next => cases h
  next => cases h
  next bytes hget => exact ⟨bytes, hget⟩
  next => cases h

theorem sealed_of_verified {tree : FileTree} {members : List (String × JsonValue)}
    (h : verifyRelease setup tree = .ok members) : Sealed setup tree := by
  intro tree' hmanifest hcollision hchanged
  cases hverified : verifyRelease setup tree' with
  | error failure => exact ⟨failure, rfl⟩
  | ok members' =>
    obtain ⟨document, items, hread, -, -⟩ := verifyRelease_eq_ok.mp hverified
    obtain ⟨bytes, hget'⟩ := file?_of_readManifest hread
    have hget := FileTree.file?_eq_some.mp (hmanifest bytes (FileTree.file?_eq_some.mpr hget'))
    obtain ⟨path, hne⟩ := hchanged
    exact absurd (files_of_sealed h hverified (hget'.trans hget.symm) hcollision path) hne

theorem complete_of_gatherable {members : List (String × JsonValue)}
    (h : Gatherable source contents files)
    (hverified : verifyRelease setup (releaseTree setup revision files) = .ok members) :
    Complete setup source contents (releaseTree setup revision files) where
  verified := ⟨members, hverified⟩
  files := by
    intro path bytes hpath
    rw [releaseTree_file? h.distinct h.manifest_free, ← gathered_iff h.1]
    constructor
    · intro hfile
      rcases hfile with hfile | ⟨hmanifest, -⟩
      · exact hfile
      · exact absurd hmanifest hpath
    · exact Or.inl
  manifest_kept := ⟨manifestBytes setup revision files,
    (releaseTree_file? h.distinct h.manifest_free).mpr (Or.inr ⟨rfl, rfl⟩)⟩
  manifest_apart := by
    intro bytes hreached
    obtain ⟨file, hfile, hpath, -⟩ := (gathered_iff h.1).mpr hreached
    exact h.manifest_free file hfile hpath
  isSealed := sealed_of_verified hverified

/-- Without faults what can be gathered is published up to the final sync. -/
theorem buildRelease_calm {sync : Option ReleaseFailure}
    (hrequest : Requestable setup source revision world) (h : Gatherable source contents files) :
    buildRelease setup source revision contents (calmPlan sync) world =
      (Program.tryCatch fsyncDirectory (fun failure => do
          removeStage
          Program.raise failure) >>= fun _ => pure (releaseName revision)) (calmPlan sync)
        ⟨world.published.set (releaseName revision) (releaseTree setup revision files), none⟩ := by
  have hpublish := @publishStage_calm setup source revision (releaseName revision) contents
    world.published sync files hrequest.revision_hex h
  unfold buildRelease
  rw [Program.run_bind_returned (checkRequest_calm hrequest)]
  show ((Program.tryCatch (publishStage setup source revision contents (releaseName revision)) _ :
    ReleaseProgram Unit) >>= _) (calmPlan sync) (staged world.published FileTree.empty) = _
  rw [Program.run_bind, Program.run_bind]
  unfold Program.tryCatch
  rw [hpublish]

/-- A name that is taken is refused, whatever stands under it. -/
theorem buildRelease_taken {sync : Option ReleaseFailure} (hrevision : isLowerHex 40 revision = true)
    (hsource : source.usableRoot = true) (houtput : setup.outputUsable = true)
    (htaken : releaseName revision ∈ world.published.keys) :
    buildRelease setup source revision contents (calmPlan sync) world =
      (.raised (.manifestError "release revision is already published"), calmPlan sync, world) := by
  have hcheck : checkRequest setup source revision (calmPlan sync) world =
      (.raised (.manifestError "release revision is already published"), calmPlan sync, world) := by
    unfold checkRequest
    rw [if_pos hrevision, if_pos hsource, if_pos houtput]
    show (attempt (if releaseName revision ∈ world.published.keys then _ else .ok ()) :
      ReleaseProgram Unit) (calmPlan sync) world = _
    rw [if_pos htaken]
    rfl
  unfold buildRelease
  rw [Program.run_bind, hcheck]

theorem publishes_of_gatherable (hrequest : Requestable setup source revision world)
    (h : Gatherable source contents files) :
    Publishes setup source revision contents world := by
  refine ⟨⟨world.published.set (releaseName revision) (releaseTree setup revision files), none⟩, ?_⟩
  exact @buildRelease_calm setup source revision contents world files none hrequest h

theorem outcome_of_raised {failure : ReleaseFailure} :
    Outcome setup source revision contents world (.raised failure) world :=
  ⟨rfl, fun hrequest hgatherable => publishes_of_gatherable hrequest hgatherable.choose_spec⟩

/-- What follows the tests of the request. -/
theorem build_of_requestable {plan : FaultPlan} (hstage : world.stage = none)
    (hsync : plan.sync = none) (hrequest : Requestable setup source revision world) :
    ∃ exit plan' world', (do
        step
        Program.modifyWorld fun world => { world with stage := some FileTree.empty }
        Program.tryCatch (publishStage setup source revision contents (releaseName revision))
          fun failure => do
            removeStage
            Program.raise failure
        pure (releaseName revision) : ReleaseProgram (List Char)) plan world =
          (exit, plan', world') ∧
      Outcome setup source revision contents world exit world' := by
  obtain ⟨published, stage⟩ := world
  simp only at hstage
  subst hstage
  obtain ⟨rest, hstep | ⟨failure, hstep⟩⟩ := step_cases plan ⟨published, none⟩
  · rw [Program.run_bind_returned hstep]
    show ∃ exit plan' world', (Program.tryCatch _ _ >>= _ : ReleaseProgram (List Char))
      ⟨rest, plan.sync⟩ (staged published FileTree.empty) = (exit, plan', world') ∧ _
    rcases @publishStage_cases setup source revision (releaseName revision) contents published
      ⟨rest, plan.sync⟩ hsync with ⟨failure, plan₁, world₁, hrun, hpublished⟩ |
        ⟨files, members, plan₁, hgatherable, hrun, hverified⟩
    · refine ⟨.raised failure, plan₁, ⟨published, none⟩, ?_, outcome_of_raised⟩
      rw [Program.run_bind]
      unfold Program.tryCatch
      rw [hrun, ← hpublished]
      rfl
    · refine ⟨.returned (releaseName revision), plan₁,
        ⟨published.set (releaseName revision) (releaseTree setup revision files), none⟩, ?_,
        rfl, hrequest.unpublished, _, rfl, complete_of_gatherable hgatherable hverified⟩
      rw [Program.run_bind]
      unfold Program.tryCatch
      rw [hrun]
      rfl
  · refine ⟨.raised failure, ⟨rest, plan.sync⟩, ⟨published, none⟩, ?_, outcome_of_raised⟩
    rw [Program.run_bind, hstep]

/-- Whatever operations raise before the final sync, a call publishes a complete release or leaves
everything as it was. -/
theorem release_published (setup : ReleaseSetup) (source : SourceTree) (revision : List Char)
    (contents : List (List Char)) (plan : FaultPlan) (world : ReleaseWorld)
    (hstage : world.stage = none) (hsync : plan.sync = none) :
    ∃ exit plan' world', buildRelease setup source revision contents plan world =
        (exit, plan', world') ∧ Outcome setup source revision contents world exit world' := by
  obtain ⟨hkept, hsame⟩ := @checkRequest_keeps setup source revision plan world
  have huncut := (benign_checkRequest setup source revision).uncut plan world
  unfold buildRelease
  rw [Program.run_bind]
  rcases hrun : checkRequest setup source revision plan world with ⟨exit, plan₁, world₁⟩
  rw [hrun] at hkept hsame huncut
  simp only at hkept hsame
  subst hsame
  cases exit with
  | crashed => exact absurd rfl huncut
  | raised failure => exact ⟨_, _, _, rfl, outcome_of_raised⟩
  | returned value =>
    exact build_of_requestable hstage (hkept.trans hsync) (checkRequest_returned hrun)

end Building

/-- A digest that is the real one on the empty file. -/
def sampleSetup : ReleaseSetup where
  sha256 bytes :=
    if bytes = [] then
      "e3b0c44298fc1c149afbf4c8996fb92427ae41e4649b934ca495991b7852b855".toList
    else List.replicate 64 '0'
  sha256_hex bytes := by
    split
    next => decide +kernel
    next => decide +kernel
  outputUsable := true

def samplePath : SafePath := ⟨"requirements.txt".toList, by decide, by decide +kernel⟩

def sampleSource : SourceTree :=
  ⟨true, FileTree.empty.put samplePath.path samplePath.valid (.file [])⟩

def sampleContents : List (List Char) := ["requirements.txt".toList]

def sampleRevision : List Char := List.replicate 40 'a'

theorem sample_gatherable : Gatherable sampleSource sampleContents [(samplePath, [])] := by
  refine ⟨?_, by decide, by decide +kernel⟩
  rfl

theorem sample_requestable (published : OrderedDict (List Char) FileTree)
    (h : releaseName sampleRevision ∉ published.keys) :
    Requestable sampleSetup sampleSource sampleRevision ⟨published, none⟩ :=
  ⟨by decide +kernel, rfl, rfl, h⟩

def emptyWorld : ReleaseWorld := ⟨∅, none⟩

/-- The sync of the manifest file raises. -/
def manifestFault : FaultPlan := ⟨List.replicate 10 none ++ [some .osError], none⟩

theorem release_published_raising : ∃ exit plan' world',
    buildRelease sampleSetup sampleSource sampleRevision sampleContents manifestFault emptyWorld =
        (exit, plan', world') ∧
      Outcome sampleSetup sampleSource sampleRevision sampleContents emptyWorld exit world' :=
  release_published sampleSetup sampleSource sampleRevision sampleContents manifestFault emptyWorld
    rfl rfl

theorem manifestBytes_inj {setup : ReleaseSetup} {revision revision' : List Char}
    {files files' : ReleaseFiles}
    (h : manifestBytes setup revision files = manifestBytes setup revision' files') :
    revision = revision' := by
  have hread := @loads_manifest setup files revision
  rw [h, @loads_manifest setup files' revision'] at hread
  have hmembers := JsonValue.obj.inj (Option.some.inj hread)
  have hvalue := congrArg (fun members => JsonValue.get members "source_revision") hmembers
  simp only [get_sortedMembers nodup_manifestMembers] at hvalue
  have htext : String.ofList revision' = String.ofList revision := JsonValue.str.inj hvalue
  exact (String.ofList_injective htext).symm

/-- The manifest itself can be replaced, and a release whose final sync failed stays. -/
theorem manifest_replaced_and_sync_kept :
    (∃ tree tree', buildRelease sampleSetup sampleSource sampleRevision sampleContents {} emptyWorld =
        (.returned (releaseName sampleRevision), {},
          ⟨(∅ : OrderedDict (List Char) FileTree).set (releaseName sampleRevision) tree, none⟩) ∧
      tree'.file? [releaseManifestName] ≠ tree.file? [releaseManifestName] ∧
      (∀ path, path ≠ [releaseManifestName] → tree'.file? path = tree.file? path) ∧
      ∃ members, verifyRelease sampleSetup tree' = .ok members) ∧
    ∃ world', buildRelease sampleSetup sampleSource sampleRevision sampleContents
        ⟨[], some .osError⟩ emptyWorld = (.raised .osError, ⟨[], some .osError⟩, world') ∧
      releaseName sampleRevision ∈ world'.published.keys ∧
      (buildRelease sampleSetup sampleSource sampleRevision sampleContents {} world').1 =
        .raised (.manifestError "release revision is already published") := by
  have hgatherable := sample_gatherable
  have hrequest := sample_requestable ∅ (by simp)
  have hdistinct := hgatherable.distinct
  have hmanifest := hgatherable.manifest_free
  constructor
  · refine ⟨releaseTree sampleSetup sampleRevision [(samplePath, [])],
      releaseTree sampleSetup (List.replicate 40 'b') [(samplePath, [])],
      @buildRelease_calm _ _ _ _ _ _ none hrequest hgatherable, ?_, ?_,
      ⟨_, verifyRelease_releaseTree (by decide +kernel) hgatherable.2.1 hdistinct hmanifest⟩⟩
    · intro hsame
      have hother := (@releaseTree_file? sampleSetup _ (List.replicate 40 'b') hdistinct
        hmanifest _ _).mpr (Or.inr ⟨rfl, rfl⟩)
      rw [hsame] at hother
      rcases (releaseTree_file? hdistinct hmanifest).mp hother with
        ⟨file, hfile, hpath, -⟩ | ⟨-, hbytes⟩
      · exact hmanifest file hfile hpath
      · exact absurd (manifestBytes_inj hbytes) (by decide)
    · intro path hpath
      unfold FileTree.file? releaseTree
      rw [FileTree.get?_put, FileTree.get?_put, manifestPath_path, if_neg hpath, if_neg hpath]
  · have htaken : releaseName sampleRevision ∈ ((∅ : OrderedDict (List Char) FileTree).set
        (releaseName sampleRevision)
        (releaseTree sampleSetup sampleRevision [(samplePath, [])])).keys := by
      rw [← OrderedDict.isSome_get?_iff, OrderedDict.get?_set_self]
      rfl
    have hagain := @buildRelease_taken sampleSetup sampleSource sampleRevision sampleContents
      ⟨_, none⟩ none hrequest.revision_hex rfl rfl htaken
    exact ⟨_, buildRelease_calm hrequest hgatherable, htaken, congrArg Prod.fst hagain⟩

end TradeJournalWorker.Release
