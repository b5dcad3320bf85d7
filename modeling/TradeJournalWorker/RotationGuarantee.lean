import TradeJournalWorker.RotationCompletion

namespace TradeJournalWorker

open FaultProgram

section Rotation

variable {checks : SlotChecks} {torn cid source expected : String} {start disk : ExpertDisk}

theorem rotated_bridge : (rotated source disk).files .bridge = some source := by
  unfold rotated moveFile
  rw [putFile_of_ne (by decide), putFile_self, putFile_self]

theorem rotated_upgrade : (rotated source disk).files .upgrade = none := by
  unfold rotated moveFile
  rw [putFile_self]

theorem rotated_rollback : (rotated source disk).files .rollback = disk.files .bridge := by
  unfold rotated moveFile
  rw [putFile_of_ne (by decide), putFile_of_ne (by decide), putFile_of_ne (by decide), putFile_self]

/-- The assets of an instance of which a rotation was called can be digested at any time. -/
theorem SameInstance.assets (h : SameInstance cid start disk) (hdigests : HexDigests checks)
    {digest : String} (hstart : runtimeAssetsManifest checks start = .ok digest) :
    ∃ other, runtimeAssetsManifest checks disk = .ok other := by
  obtain ⟨hdirectories, hfiles⟩ := runtimeAssetsManifest_eq_ok hstart
  have hdirectories' : ∀ path ∈ assetDirectories, nodeAt disk.others path = some .directory := by
    rw [h.others]
    exact hdirectories
  have hfiles' : ∀ file ∈ managedRuntimeAssets, (disk.files file).isSome := by
    intro file hfile
    cases file with
    | bridge => exact h.bridge
    | discovery =>
      rw [h.discovery]
      exact hfiles .discovery hfile
    | loader =>
      rw [h.loader]
      exact hfiles .loader hfile
    | upgrade => exact absurd hfile (by decide)
    | rollback => exact absurd hfile (by decide)
    | staging => exact absurd hfile (by decide)
  obtain ⟨other, hother, _⟩ := runtimeAssetsManifest_of_present hdigests hdirectories' hfiles'
  exact ⟨other, hother⟩

/-- The instance with the new expert in place, its copies still beside it. -/
theorem SameInstance.rotated (h : SameInstance cid start disk) :
    SameInstance cid start (rotated source disk) := by
  have hkept : SameInstance cid start (putFile .rollback (disk.files .bridge) disk) := h.put rfl _
  have hcopies : SameInstance cid start
      (putFile .upgrade (some source) (putFile .rollback (disk.files .bridge) disk)) :=
    hkept.put rfl _
  exact hcopies.move rfl (by rw [putFile_self]; rfl)

/-- The record that a rotation seals matches the files on disk. -/
theorem sealed_valid (hdigests : HexDigests checks) {previous : RuntimeRecord} {code assets : String}
    (hid : previous.connectionId = some cid) (hstatus : previous.status = some "provisioned")
    (hassets : runtimeAssetsManifest checks disk = .ok assets) :
    validateRuntimeAssets checks cid (putRecord (resealed previous code assets) disk) =
      .ok assets := by
  refine (validateRuntimeAssets_eq_ok hdigests).mpr ⟨⟨resealed previous code assets, ?_, rfl⟩, ?_⟩
  · exact validateUncoded_eq_ok.mpr ⟨rfl, hid, hstatus⟩
  · exact hassets

theorem fileSha256_of_some {file : ManagedFile} {content : String}
    (h : disk.files file = some content) : fileSha256 checks file disk = .ok (checks.sha256 content) := by
  unfold fileSha256
  rw [orRaise_eq_ok.mpr h]
  rfl

/-- The `try` block up to the code manifest. -/
theorem replaceExpert_reaches {previousSha256 bridge : String} {previous : RuntimeRecord}
    (hbridge : disk.files .bridge = some bridge) (hprevious : checks.sha256 bridge = previousSha256)
    (hupgrade : disk.files .upgrade = none) (hrollback : disk.files .rollback = none)
    (hsource : checks.sha256 source = expected) :
    replaceExpert checks torn cid source expected previousSha256 previous [] disk =
      (do
        let code ← reading fun disk => codeManifest checks disk.terminal
        let assets ← reading (runtimeAssetsManifest checks)
        writing (putRecord (resealed previous code assets))
        reading (validateRuntimeAssets checks cid) : RotationProgram String) []
        (rotated source disk) := by
  have hkept : (putFile .rollback (some bridge) disk).files .rollback = some bridge := putFile_self _
  have hupgrade' : (putFile .rollback (some bridge) disk).files .upgrade = none := by
    rw [putFile_of_ne (by decide)]
    exact hupgrade
  have hstaged : (putFile .upgrade (some source) (putFile .rollback (some bridge) disk)).files
      .upgrade = some source := putFile_self _
  have hbridge' : (putFile .upgrade (some source) (putFile .rollback (some bridge) disk)).files
      .bridge = some bridge := by
    rw [putFile_of_ne (by decide), putFile_of_ne (by decide)]
    exact hbridge
  have hrotated : moveFile .upgrade .bridge
      (putFile .upgrade (some source) (putFile .rollback (some bridge) disk)) =
      rotated source disk := by
    unfold rotated
    rw [hbridge]
  unfold replaceExpert
  rw [Program.run_bind_returned (succeeds_durableCopyContents hrollback
    ((putFile_of_ne (by decide)).trans hbridge))]
  rw [Program.run_bind_returned (succeeds_reading (fileSha256_of_some hkept))]
  rw [Program.run_bind_returned (succeeds_insist (decide_eq_true hprevious))]
  rw [Program.run_bind_returned (succeeds_durableCopyContents hupgrade' rfl)]
  rw [Program.run_bind_returned (succeeds_reading (fileSha256_of_some hstaged))]
  rw [Program.run_bind_returned (succeeds_insist (decide_eq_true hsource))]
  rw [Program.run_bind_returned (succeeds_makeWritable (by rw [hbridge']; rfl))]
  rw [Program.run_bind_returned (succeeds_durableReplace (by rw [hstaged]; rfl)), hrotated]
  rw [Program.run_bind_returned (succeeds_reading (fileSha256_of_some rotated_bridge))]
  rw [Program.run_bind_returned (succeeds_insist (decide_eq_true hsource))]

theorem replaceExpert_succeeds (hdigests : HexDigests checks) {previousSha256 bridge : String}
    {previous : RuntimeRecord} (h : SameInstance cid start disk)
    (hassets : ∃ digest, runtimeAssetsManifest checks start = .ok digest)
    (hbridge : disk.files .bridge = some bridge) (hprevious : checks.sha256 bridge = previousSha256)
    (hupgrade : disk.files .upgrade = none) (hrollback : disk.files .rollback = none)
    (hsource : checks.sha256 source = expected) (hid : previous.connectionId = some cid)
    (hstatus : previous.status = some "provisioned") (hsealable : Resealable checks source disk) :
    ∃ assets after, Succeeds (replaceExpert checks torn cid source expected previousSha256 previous)
      disk assets after ∧ after.files = (rotated source disk).files ∧
      validateRuntimeAssets checks cid after = .ok assets := by
  obtain ⟨digest, hdigest⟩ := hassets
  obtain ⟨code, hcode⟩ := hsealable
  obtain ⟨assets, hmanifest⟩ := h.rotated.assets hdigests hdigest
  have hvalid := @sealed_valid checks cid (rotated source disk) hdigests previous code assets hid
    hstatus hmanifest
  refine ⟨assets, putRecord (resealed previous code assets) (rotated source disk), ?_, rfl, hvalid⟩
  refine (replaceExpert_reaches hbridge hprevious hupgrade hrollback hsource).trans ?_
  refine succeeds_bind (succeeds_reading hcode) ?_
  refine succeeds_bind (succeeds_reading hmanifest) ?_
  exact succeeds_bind (succeeds_writing _ _) (succeeds_reading hvalid)

theorem replaceExpert_refuses {previousSha256 bridge : String} {previous : RuntimeRecord}
    (hbridge : disk.files .bridge = some bridge) (hprevious : checks.sha256 bridge = previousSha256)
    (hupgrade : disk.files .upgrade = none) (hrollback : disk.files .rollback = none)
    (hsource : checks.sha256 source = expected) (hsealable : ¬ Resealable checks source disk) :
    Refuses (replaceExpert checks torn cid source expected previousSha256 previous) disk := by
  intro value hreturned
  rw [replaceExpert_reaches hbridge hprevious hupgrade hrollback hsource] at hreturned
  have hrefuses : Refuses (reading fun disk => codeManifest checks disk.terminal)
      (rotated source disk) := refuses_reading fun code hcode => hsealable ⟨code, hcode⟩
  exact refuses_first hrefuses value hreturned

/-- `rotate_managed_expert` up to its `try` block. -/
theorem rotateManagedExpert_reaches {digest bridge : String} {record : RuntimeRecord}
    (hpinned : validateRuntimeAssets checks cid disk = .ok digest)
    (hrecord : validateUncoded cid disk = .ok record) (hexpected : isSha256 expected)
    (hsource : checks.sha256 source = expected) (hbridge : disk.files .bridge = some bridge)
    (hstale : checks.sha256 bridge ≠ expected) :
    rotateManagedExpert checks torn cid (some source) expected [] disk =
      (do
        let previous ← reading fun disk => orRaise disk.record "published instance state invalid"
        reading fun disk => demand (¬ rotationPending disk)
          "managed expert rotation already pending"
        let previousSha256 ← reading (fileSha256 checks .bridge)
        let sealed ← Program.tryCatch
          (replaceExpert checks torn cid source expected previousSha256 previous)
          fun error => do
            let outcome ← restoreExpert checks cid previousSha256 previous error
            discardCopies outcome.2
            Program.raise outcome.1
        discardCopies false
        writing id
        return sealed : RotationProgram String) [] disk := by
  have hchecked : checkExpertSource checks (some source) expected = .ok source := by
    unfold checkExpertSource
    show (demand _ _ >>= fun _ => pure source) = _
    rw [demand_eq_ok.mpr ⟨hexpected, hsource⟩]
    rfl
  unfold rotateManagedExpert
  rw [Program.run_bind_returned (succeeds_reading hrecord)]
  rw [Program.run_bind_returned (succeeds_reading hpinned), normalised_of_isSha256 hexpected]
  rw [Program.run_bind_returned (succeeds_reading hchecked)]
  rw [Program.run_bind_returned (succeeds_reading (fileSha256_of_some hbridge)), if_neg hstale]

theorem runtimeAssetsManifest_put {file : ManagedFile} (hfile : file.beside)
    (content : Option String) :
    runtimeAssetsManifest checks (putFile file content disk) = runtimeAssetsManifest checks disk := by
  have hkept : ∀ other ∈ managedRuntimeAssets,
      (putFile file content disk).files other = disk.files other := by
    intro other hother
    refine putFile_of_ne fun heq => ?_
    subst heq
    cases other <;> simp [managedRuntimeAssets, ManagedFile.beside] at hother hfile
  have hentries := List.map_congr_left (l := managedRuntimeAssets)
    (f := fun other => posixPath other.path ++ ":" ++
      checks.sha256 (((putFile file content disk).files other).getD ""))
    (g := fun other => posixPath other.path ++ ":" ++ checks.sha256 ((disk.files other).getD ""))
    fun other hother => by rw [hkept other hother]
  have hpresent : (∀ other ∈ managedRuntimeAssets, ((putFile file content disk).files other).isSome) =
      ∀ other ∈ managedRuntimeAssets, (disk.files other).isSome := by
    refine propext (forall₂_congr fun other hother => ?_)
    rw [hkept other hother]
  unfold runtimeAssetsManifest
  simp only [hentries, hpresent]
  rfl

theorem validateRuntimeAssets_put {file : ManagedFile} (hfile : file.beside)
    (content : Option String) :
    validateRuntimeAssets checks cid (putFile file content disk) =
      validateRuntimeAssets checks cid disk := by
  unfold validateRuntimeAssets
  rw [runtimeAssetsManifest_put hfile]
  rfl

theorem not_rotationPending_iff :
    ¬ rotationPending disk ↔ disk.files .upgrade = none ∧ disk.files .rollback = none := by
  unfold rotationPending
  cases disk.files .upgrade <;> cases disk.files .rollback <;> simp

theorem pinned_record (hdigests : HexDigests checks) {digest : String}
    (hpinned : validateRuntimeAssets checks cid disk = .ok digest) :
    ∃ record, validateUncoded cid disk = .ok record := by
  obtain ⟨⟨record, hrecord, _⟩, _⟩ := (validateRuntimeAssets_eq_ok hdigests).mp hpinned
  exact ⟨record, hrecord⟩

theorem rotateManagedExpert_succeeds (hdigests : HexDigests checks) {digest bridge : String}
    (h : SameInstance cid start disk)
    (hassets : ∃ digest, runtimeAssetsManifest checks start = .ok digest)
    (hpinned : validateRuntimeAssets checks cid disk = .ok digest)
    (hsource : checks.sha256 source = expected) (hbridge : disk.files .bridge = some bridge)
    (hstale : checks.sha256 bridge ≠ expected) (hupgrade : disk.files .upgrade = none)
    (hrollback : disk.files .rollback = none) (hsealable : Resealable checks source disk) :
    ∃ sealed after, Succeeds (rotateManagedExpert checks torn cid (some source) expected) disk
      sealed after ∧ after.files .bridge = some source ∧ after.files .upgrade = none ∧
      after.files .rollback = none ∧ validateRuntimeAssets checks cid after = .ok sealed := by
  obtain ⟨record, hrecord⟩ := pinned_record hdigests hpinned
  obtain ⟨hread, hid, hstatus⟩ := validateUncoded_eq_ok.mp hrecord
  obtain ⟨sealed, middle, hreplaced, hfiles, hvalid⟩ := @replaceExpert_succeeds checks torn cid
    source expected start disk hdigests (checks.sha256 bridge) bridge record h hassets hbridge rfl
    hupgrade hrollback hsource hid hstatus hsealable
  refine ⟨sealed, putFile .rollback none (putFile .upgrade none middle), ?_, ?_, ?_, ?_, ?_⟩
  · refine (rotateManagedExpert_reaches hpinned hrecord (hsource ▸ hdigests source) hsource hbridge
      hstale).trans ?_
    refine succeeds_bind (succeeds_reading (orRaise_eq_ok.mpr hread)) ?_
    refine succeeds_bind (succeeds_reading (demand_eq_ok.mpr
      (not_rotationPending_iff.mpr ⟨hupgrade, hrollback⟩))) ?_
    refine succeeds_bind (succeeds_reading (fileSha256_of_some hbridge)) ?_
    refine succeeds_bind (succeeds_tryCatch hreplaced) ?_
    refine succeeds_bind (succeeds_bind succeeds_unlinkFile succeeds_unlinkFile) ?_
    exact succeeds_bind (succeeds_writing id _) rfl
  · rw [putFile_of_ne (by decide), putFile_of_ne (by decide), hfiles]
    exact rotated_bridge
  · rw [putFile_of_ne (by decide), putFile_self]
  · exact putFile_self none
  · rw [validateRuntimeAssets_put rfl, validateRuntimeAssets_put rfl]
    exact hvalid

/-- A rotation does not return while copies of an earlier one are there, nor when the code manifest
cannot be computed. -/
theorem rotateManagedExpert_refuses (hdigests : HexDigests checks) {digest bridge : String}
    (hpinned : validateRuntimeAssets checks cid disk = .ok digest)
    (hsource : checks.sha256 source = expected) (hbridge : disk.files .bridge = some bridge)
    (hstale : checks.sha256 bridge ≠ expected)
    (hblocked : rotationPending disk ∨ ¬ Resealable checks source disk) :
    Refuses (rotateManagedExpert checks torn cid (some source) expected) disk := by
  obtain ⟨record, hrecord⟩ := pinned_record hdigests hpinned
  obtain ⟨hread, _, _⟩ := validateUncoded_eq_ok.mp hrecord
  intro value hreturned
  rw [rotateManagedExpert_reaches hpinned hrecord (hsource ▸ hdigests source) hsource hbridge
    hstale] at hreturned
  revert hreturned
  refine refuses_bind (succeeds_reading (orRaise_eq_ok.mpr hread)) ?_ value
  by_cases hpending : rotationPending disk
  · refine refuses_first (refuses_reading fun _ hread => ?_)
    exact demand_eq_ok.mp hread hpending
  · have hsealable := hblocked.resolve_left hpending
    have hcopies := not_rotationPending_iff.mp hpending
    refine refuses_bind (succeeds_reading (demand_eq_ok.mpr hpending)) ?_
    refine refuses_bind (succeeds_reading (fileSha256_of_some hbridge)) ?_
    refine refuses_first (refuses_tryCatch ?_ fun error => ?_)
    · exact replaceExpert_refuses hbridge rfl hcopies.1 hcopies.2 hsource hsealable
    · exact neverReturns_bind fun outcome => neverReturns_bind fun _ =>
        neverReturns_raise outcome.1

end Rotation

section Recovery

variable {setup : RotationSetup} {torn source expected : String} {start disk : ExpertDisk}
  {running : Bool}

/-- Where a rotation is to end: the target expert, its seal, and no copy beside it. -/
structure RotationDone (setup : RotationSetup) (disk : ExpertDisk) : Prop where
  expert : (disk.files .bridge).map setup.checks.sha256 = setup.expertSha256
  sealed : ∃ digest, validateRuntimeAssets setup.checks setup.connectionId disk = .ok digest
  unstaged : disk.files .upgrade = none
  unkept : disk.files .rollback = none

/-- The next `_ensure_current_managed_expert` completes, if nothing fails under it. -/
def Recovers (setup : RotationSetup) (torn : String) (running : Bool) (disk : ExpertDisk) : Prop :=
  ∃ after, Succeeds (ensureCurrentManagedExpert setup torn running) disk () after ∧
    RotationDone setup after

/-- A disk from which it does. -/
structure Resumable (setup : RotationSetup) (source : String) (disk : ExpertDisk) : Prop where
  unstaged : disk.files .upgrade = none
  unkept : disk.files .rollback = none
  pinned : ∃ digest, validateRuntimeAssets setup.checks setup.connectionId disk = .ok digest
  sealable : (disk.files .bridge).map setup.checks.sha256 = setup.expertSha256 ∨
    Resealable setup.checks source disk

theorem reading_raises {α : Type} {read : ExpertDisk → Except String α}
    (h : ∀ value, read disk ≠ .ok value) :
    ∃ error, reading read [] disk = (.raised error, [], disk) := by
  cases hread : read disk with
  | ok value => exact absurd hread (h value)
  | error error =>
    refine ⟨error, ?_⟩
    unfold reading
    rw [Program.run_bind_returned (succeeds_writing id disk),
      Program.run_bind_returned (Program.run_getWorld _ _), id, hread]
    rfl

/-- A pin that does not match is not sealed again. -/
theorem sealRuntimeAssets_refuses (hdigests : HexDigests setup.checks)
    (h : SameInstance setup.connectionId start disk)
    (hunpinned : ∀ digest, validateRuntimeAssets setup.checks setup.connectionId disk ≠ .ok digest) :
    Refuses (sealRuntimeAssets setup.checks setup.connectionId) disk := by
  obtain ⟨record, hread, hid, hstatus, hpin⟩ := h.record
  have hrecord := validateUncoded_eq_ok.mpr ⟨hread, hid, hstatus⟩
  obtain ⟨recorded, hrecorded⟩ := Option.ne_none_iff_exists'.mp hpin
  refine refuses_bind (succeeds_reading hrecord) ?_
  cases hmanifest : runtimeAssetsManifest setup.checks disk with
  | error error =>
    refine refuses_first (refuses_reading fun digest hdigest => ?_)
    rw [hmanifest] at hdigest
    cases hdigest
  | ok digest =>
    have hother : recorded ≠ digest := by
      intro hsame
      subst hsame
      exact hunpinned recorded ((validateRuntimeAssets_eq_ok hdigests).mpr
        ⟨⟨record, hrecord, hrecorded⟩, hmanifest⟩)
    refine refuses_bind (succeeds_reading hmanifest) ?_
    rw [hrecorded]
    exact refuses_first (refuses_insist (decide_eq_false hother))

theorem ensureRuntimeAssets_refuses (hdigests : HexDigests setup.checks)
    (h : SameInstance setup.connectionId start disk)
    (hunpinned : ∀ digest, validateRuntimeAssets setup.checks setup.connectionId disk ≠ .ok digest) :
    Refuses (ensureRuntimeAssets setup running) disk := by
  obtain ⟨error, hraised⟩ := reading_raises hunpinned
  have hbody : (do
      let _ ← reading (validateRuntimeAssets setup.checks setup.connectionId)
      return () : RotationProgram Unit) [] disk = (.raised error, [], disk) := by
    rw [Program.run_bind, hraised]
  intro value hreturned
  unfold ensureRuntimeAssets Program.tryCatch at hreturned
  rw [hbody] at hreturned
  revert hreturned
  by_cases hmigrates : error = pinMissing ∧ running = true
  · refine refuses_bind (succeeds_insist (decide_eq_true hmigrates)) ?_ value
    refine refuses_tryCatch (refuses_first (sealRuntimeAssets_refuses hdigests h hunpinned)) ?_
    exact fun _ => neverReturns_raise _
  · exact refuses_first (refuses_insist (decide_eq_false hmigrates)) value

theorem ensureRuntimeAssets_succeeds {digest : String}
    (hpinned : validateRuntimeAssets setup.checks setup.connectionId disk = .ok digest) :
    Succeeds (ensureRuntimeAssets setup running) disk () disk :=
  succeeds_tryCatch (succeeds_bind (succeeds_reading hpinned) rfl)

theorem expertNeedsRotation_succeeds {bridge : String} (hexpected : setup.expertSha256 = some expected)
    (hbridge : disk.files .bridge = some bridge) :
    Succeeds (expertNeedsRotation setup) disk (decide (setup.checks.sha256 bridge ≠ expected))
      disk := by
  unfold expertNeedsRotation
  rw [hexpected]
  exact succeeds_bind (succeeds_tryCatch (succeeds_reading (fileSha256_of_some hbridge))) rfl

theorem succeeds_onlyWhen {condition : Bool} {p : RotationProgram Unit} {after : ExpertDisk}
    (hp : condition = true → Succeeds p disk () after)
    (hnot : condition = false → after = disk) : Succeeds (onlyWhen condition p) disk () after := by
  cases condition with
  | true => exact hp rfl
  | false =>
    rw [hnot rfl]
    rfl

/-- What a start of the terminal leaves: no installation file, and the history mode. -/
def started (mode : HistoryMode) (disk : ExpertDisk) : ExpertDisk :=
  { putFile .staging none disk with historyMode := some mode }

theorem startStopped_succeeds {digest bridge : String} (hdigests : HexDigests setup.checks)
    (hpinned : validateRuntimeAssets setup.checks setup.connectionId disk = .ok digest)
    (hsource : setup.expertBinary = some source) (hbridge : disk.files .bridge = some bridge)
    (hsame : setup.checks.sha256 bridge = setup.checks.sha256 source) :
    Succeeds (startStopped setup torn) disk () (started setup.historyMode disk) := by
  obtain ⟨record, hrecord⟩ := pinned_record hdigests hpinned
  have hdiscovery : ((putFile .staging none disk).files .discovery).isSome := by
    obtain ⟨_, hmanifest⟩ := (validateRuntimeAssets_eq_ok hdigests).mp hpinned
    rw [putFile_of_ne (by decide)]
    exact (runtimeAssetsManifest_eq_ok hmanifest).2 .discovery (by decide)
  have hbridge' : (putFile .staging none disk).files .bridge = some bridge := by
    rw [putFile_of_ne (by decide)]
    exact hbridge
  have hinstalled : Succeeds (installExpert setup torn) disk () (started setup.historyMode disk) := by
    refine succeeds_bind (succeeds_reading (orRaise_eq_ok.mpr hsource)) ?_
    refine succeeds_bind (@succeeds_tryFinally Unit disk (putFile .staging none disk)
      (putFile .staging none disk) _ _ () (succeeds_tryCatch ?_) (succeeds_tryCatch ?_)) ?_
    · refine succeeds_bind succeeds_unlinkFile ?_
      have hcurrent : ((putFile .staging none disk).files .bridge).map setup.checks.sha256 =
          some (setup.checks.sha256 source) := by
        rw [hbridge', ← hsame]
        rfl
      refine @succeeds_bind ExpertDisk Unit (putFile .staging none disk)
        (putFile .staging none disk) _ _ _ (putFile .staging none disk) _ rfl ?_
      rw [if_pos hcurrent]
      exact succeeds_makeWritable (by rw [hbridge']; rfl)
    · have hunlinked := @succeeds_unlinkFile (putFile .staging none disk) .staging
      rw [putFile_putFile] at hunlinked
      exact hunlinked
    · exact succeeds_bind (succeeds_reading (demand_eq_ok.mpr hdiscovery)) (succeeds_writing _ _)
  refine succeeds_bind (succeeds_tryCatch (succeeds_reading hrecord)) ?_
  exact succeeds_bind hinstalled (succeeds_writing id _)

theorem Succeeds.unique {α : Type} {p : RotationProgram α} {value other : α}
    {after final : ExpertDisk} (h : Succeeds p disk value after) (h' : Succeeds p disk other final) :
    after = final := by
  unfold Succeeds at h h'
  rw [h] at h'
  injection h' with _ hrest
  injection hrest

theorem Succeeds.not_refuses {α : Type} {p : RotationProgram α} {value : α} {after : ExpertDisk}
    (h : Succeeds p disk value after) : ¬ Refuses p disk :=
  fun hrefuses => hrefuses value (congrArg Prod.fst h)

theorem RotationCalled.same (hcalled : RotationCalled setup source expected start)
    (hdigests : HexDigests setup.checks) : SameInstance setup.connectionId start start := by
  obtain ⟨digest, hpinned⟩ := hcalled.pinned
  obtain ⟨⟨record, hrecord, hpin⟩, _⟩ := (validateRuntimeAssets_eq_ok hdigests).mp hpinned
  obtain ⟨hread, hid, hstatus⟩ := validateUncoded_eq_ok.mp hrecord
  refine ⟨rfl, rfl, rfl, hcalled.expert, ⟨record, hread, hid, hstatus, ?_⟩⟩
  rw [hpin]
  exact Option.some_ne_none digest

theorem RotationCalled.digest (hcalled : RotationCalled setup source expected start) :
    setup.checks.sha256 source = expected := by
  have hpins := hcalled.pins
  unfold verifyBinaryPins at hpins
  obtain ⟨_, _, hexpert⟩ := except_bind_eq_ok hpins
  have hpinned := demand_eq_ok.mp hexpert
  rw [hcalled.source, hcalled.expected] at hpinned
  simpa using hpinned

theorem SameInstance.pins (h : SameInstance setup.connectionId start disk)
    (hpins : verifyBinaryPins setup start = .ok ()) : verifyBinaryPins setup disk = .ok () := by
  unfold verifyBinaryPins at hpins ⊢
  rw [h.others]
  exact hpins

/-- `_ensure_current_managed_expert` up to the restart. -/
theorem ensureCurrentManagedExpert_reaches {digest bridge : String}
    (hpins : verifyBinaryPins setup disk = .ok ())
    (hpinned : validateRuntimeAssets setup.checks setup.connectionId disk = .ok digest)
    (hexpected : setup.expertSha256 = some expected) (hbridge : disk.files .bridge = some bridge) :
    ensureCurrentManagedExpert setup torn running [] disk =
      (do
        onlyWhen (decide (setup.checks.sha256 bridge ≠ expected) ||
            disk.historyMode ≠ some setup.historyMode)
          (restartManaged setup torn running (decide (setup.checks.sha256 bridge ≠ expected)))
        onlyWhen (decide (setup.checks.sha256 bridge ≠ expected) ||
            disk.historyMode ≠ some setup.historyMode || ! running)
          (startStopped setup torn) : RotationProgram Unit) [] disk := by
  unfold ensureCurrentManagedExpert
  rw [Program.run_bind_returned (succeeds_reading hpins)]
  rw [Program.run_bind_returned (ensureRuntimeAssets_succeeds hpinned)]
  rw [Program.run_bind_returned (expertNeedsRotation_succeeds hexpected hbridge)]
  rfl

theorem onlyWhen_stopTerminal : Succeeds (onlyWhen running stopTerminal) disk () disk := by
  cases running <;> rfl

/-- With the target expert in place only the terminal is started. -/
theorem ensure_current {digest bridge : String} (hdigests : HexDigests setup.checks)
    (hpins : verifyBinaryPins setup disk = .ok ())
    (hpinned : validateRuntimeAssets setup.checks setup.connectionId disk = .ok digest)
    (hsource : setup.expertBinary = some source) (hdigest : setup.checks.sha256 source = expected)
    (hexpected : setup.expertSha256 = some expected) (hbridge : disk.files .bridge = some bridge)
    (hcurrent : setup.checks.sha256 bridge = expected) :
    Succeeds (ensureCurrentManagedExpert setup torn running) disk ()
      (if disk.historyMode ≠ some setup.historyMode ∨ running = false then
        started setup.historyMode disk else disk) := by
  refine (ensureCurrentManagedExpert_reaches hpins hpinned hexpected hbridge).trans ?_
  have hrotation : decide (setup.checks.sha256 bridge ≠ expected) = false :=
    decide_eq_false fun hne => hne hcurrent
  rw [hrotation]
  have hrestart : ∀ condition, Succeeds
      (onlyWhen condition (restartManaged setup torn running false)) disk () disk := by
    intro condition
    refine succeeds_onlyWhen (fun _ => ?_) fun _ => rfl
    exact succeeds_tryCatch (succeeds_bind onlyWhen_stopTerminal rfl)
  refine succeeds_bind (hrestart _) (succeeds_onlyWhen (fun hstart => ?_) fun hnot => ?_)
  · have hstarts : disk.historyMode ≠ some setup.historyMode ∨ running = false := by
      simpa using hstart
    rw [if_pos hstarts]
    exact startStopped_succeeds hdigests hpinned hsource hbridge (hcurrent.trans hdigest.symm)
  · have hstays : ¬ (disk.historyMode ≠ some setup.historyMode ∨ running = false) := by
      simpa using hnot
    rw [if_neg hstays]

theorem rotationDone_started {after : ExpertDisk} {mode : HistoryMode}
    (h : after = disk ∨ after = started mode disk) :
    RotationDone setup after ↔ RotationDone setup disk := by
  obtain rfl | rfl := h
  · exact Iff.rfl
  · have hfile : ∀ file : ManagedFile, file ≠ .staging →
        (started mode disk).files file = disk.files file := fun file hne => putFile_of_ne hne
    have hvalid : validateRuntimeAssets setup.checks setup.connectionId (started mode disk) =
        validateRuntimeAssets setup.checks setup.connectionId disk :=
      @validateRuntimeAssets_put setup.checks setup.connectionId disk .staging rfl none
    constructor
    · intro hdone
      refine ⟨?_, ?_, ?_, ?_⟩
      · rw [← hfile .bridge (by decide)]
        exact hdone.expert
      · rw [← hvalid]
        exact hdone.sealed
      · rw [← hfile .upgrade (by decide)]
        exact hdone.unstaged
      · rw [← hfile .rollback (by decide)]
        exact hdone.unkept
    · intro hdone
      refine ⟨?_, ?_, ?_, ?_⟩
      · rw [hfile .bridge (by decide)]
        exact hdone.expert
      · rw [hvalid]
        exact hdone.sealed
      · rw [hfile .upgrade (by decide)]
        exact hdone.unstaged
      · rw [hfile .rollback (by decide)]
        exact hdone.unkept

/-- With another expert in place the rotation decides. -/
theorem ensure_stale {digest bridge : String} (hdigests : HexDigests setup.checks)
    (h : SameInstance setup.connectionId start disk)
    (hcalled : RotationCalled setup source expected start)
    (hpinned : validateRuntimeAssets setup.checks setup.connectionId disk = .ok digest)
    (hbridge : disk.files .bridge = some bridge)
    (hstale : setup.checks.sha256 bridge ≠ expected) :
    Recovers setup torn running disk ↔ ¬ rotationPending disk ∧
      Resealable setup.checks source disk := by
  have hpins := h.pins hcalled.pins
  have hreaches := @ensureCurrentManagedExpert_reaches setup torn expected disk running digest
    bridge hpins hpinned hcalled.expected hbridge
  have hrotation : decide (setup.checks.sha256 bridge ≠ expected) = true := decide_eq_true hstale
  rw [hrotation] at hreaches
  have hrotate : rotateManagedExpert setup.checks torn setup.connectionId setup.expertBinary
      (setup.expertSha256.getD "") =
      rotateManagedExpert setup.checks torn setup.connectionId (some source) expected := by
    rw [hcalled.source, hcalled.expected]
    rfl
  constructor
  · intro hrecovers
    obtain ⟨after, hensured, _⟩ := hrecovers
    by_contra hblocked
    have hpending : rotationPending disk ∨ ¬ Resealable setup.checks source disk := by
      by_cases hpending : rotationPending disk
      · exact Or.inl hpending
      · exact Or.inr fun hsealable => hblocked ⟨hpending, hsealable⟩
    have hrefuses : Refuses (restartManaged setup torn running true) disk := by
      refine refuses_tryCatch (refuses_bind onlyWhen_stopTerminal ?_) fun _ => neverReturns_raise _
      refine refuses_first ?_
      rw [hrotate]
      exact rotateManagedExpert_refuses hdigests hpinned hcalled.digest hbridge hstale hpending
    have hreturned := (congrArg Prod.fst hreaches).symm.trans (congrArg Prod.fst hensured)
    exact refuses_first hrefuses () hreturned
  · intro hready
    obtain ⟨hpending, hsealable⟩ := hready
    obtain ⟨_, hstart⟩ := hcalled.pinned
    obtain ⟨_, hassets⟩ := (validateRuntimeAssets_eq_ok hdigests).mp hstart
    have hcopies := not_rotationPending_iff.mp hpending
    obtain ⟨sealed, after, hrotated, hexpert, hupgrade, hrollback, hvalid⟩ :=
      @rotateManagedExpert_succeeds setup.checks torn setup.connectionId source expected start disk
        hdigests digest bridge h ⟨_, hassets⟩ hpinned hcalled.digest hbridge hstale hcopies.1
        hcopies.2 hsealable
    have hrestarted : Succeeds (restartManaged setup torn running true) disk () after := by
      refine succeeds_tryCatch (succeeds_bind onlyWhen_stopTerminal ?_)
      show Succeeds (rotateManagedExpert setup.checks torn setup.connectionId setup.expertBinary
        (setup.expertSha256.getD "") >>= fun _ => pure ()) disk () after
      rw [hrotate]
      exact succeeds_bind hrotated rfl
    have hstarted : Succeeds (startStopped setup torn) after () (started setup.historyMode after) :=
      startStopped_succeeds hdigests hvalid hcalled.source hexpert rfl
    refine ⟨started setup.historyMode after, hreaches.trans (succeeds_bind hrestarted hstarted), ?_⟩
    refine (rotationDone_started (Or.inr rfl)).mpr ⟨?_, ⟨sealed, hvalid⟩, hupgrade, hrollback⟩
    rw [hexpert, hcalled.expected, ← hcalled.digest]
    rfl

theorem recovers_iff (hdigests : HexDigests setup.checks)
    (hcalled : RotationCalled setup source expected start)
    (h : SameInstance setup.connectionId start disk) :
    Recovers setup torn running disk ↔ Resumable setup source disk := by
  by_cases hpinned : ∃ digest, validateRuntimeAssets setup.checks setup.connectionId disk = .ok digest
  · obtain ⟨digest, hpinned⟩ := hpinned
    obtain ⟨bridge, hbridge⟩ := Option.isSome_iff_exists.mp h.bridge
    have hexpert : (disk.files .bridge).map setup.checks.sha256 = setup.expertSha256 ↔
        setup.checks.sha256 bridge = expected := by
      rw [hbridge, hcalled.expected]
      exact Option.some_inj
    by_cases hcurrent : setup.checks.sha256 bridge = expected
    · have hensured := @ensure_current setup torn source expected disk running digest bridge hdigests
        (h.pins hcalled.pins) hpinned hcalled.source hcalled.digest hcalled.expected hbridge hcurrent
      have hafter : ∀ {after}, Succeeds (ensureCurrentManagedExpert setup torn running) disk ()
          after → (RotationDone setup after ↔ RotationDone setup disk) := by
        intro after hsucceeds
        have hsame := hsucceeds.unique hensured
        subst hsame
        refine @rotationDone_started setup disk _ setup.historyMode ?_
        split
        next => exact Or.inr rfl
        next => exact Or.inl rfl
      constructor
      · intro hrecovers
        obtain ⟨after, hsucceeds, hdone⟩ := hrecovers
        have hdisk := (hafter hsucceeds).mp hdone
        exact ⟨hdisk.unstaged, hdisk.unkept, hdisk.sealed, Or.inl hdisk.expert⟩
      · intro hresumable
        refine ⟨_, hensured, (hafter hensured).mpr ?_⟩
        exact ⟨hexpert.mpr hcurrent, hresumable.pinned, hresumable.unstaged, hresumable.unkept⟩
    · rw [ensure_stale hdigests h hcalled hpinned hbridge hcurrent, not_rotationPending_iff]
      constructor
      · intro hready
        exact ⟨hready.1.1, hready.1.2, ⟨digest, hpinned⟩, Or.inr hready.2⟩
      · intro hresumable
        have hsealable := hresumable.sealable.resolve_left fun heq => hcurrent (hexpert.mp heq)
        exact ⟨⟨hresumable.unstaged, hresumable.unkept⟩, hsealable⟩
  · have hunpinned : ∀ digest,
        validateRuntimeAssets setup.checks setup.connectionId disk ≠ .ok digest :=
      fun digest hdigest => hpinned ⟨digest, hdigest⟩
    constructor
    · intro hrecovers
      obtain ⟨after, hensured, _⟩ := hrecovers
      have hrefuses : Refuses (ensureCurrentManagedExpert setup torn running) disk := by
        unfold ensureCurrentManagedExpert
        refine refuses_bind (succeeds_reading (h.pins hcalled.pins)) ?_
        exact refuses_first (ensureRuntimeAssets_refuses hdigests h hunpinned)
      exact absurd hrefuses hensured.not_refuses
    · intro hresumable
      exact absurd hresumable.pinned hpinned

/-- After a rotation that was cut off anywhere, the next attempt completes exactly if the crash
left no copy and a pin that matches. -/
theorem rotation_recovers_iff (hdigests : HexDigests setup.checks)
    (hcalled : RotationCalled setup source expected start) (answers : List (WriteAnswer String)) :
    Recovers setup torn running (rotateManagedExpert setup.checks torn setup.connectionId
      setup.expertBinary expected answers start).2.2 ↔
      Resumable setup source (rotateManagedExpert setup.checks torn setup.connectionId
        setup.expertBinary expected answers start).2.2 :=
  recovers_iff hdigests hcalled
    (rotateManagedExpert_same answers start (hcalled.same hdigests))

end Recovery

/-- The digests of the files and manifests below. -/
def releaseSha256 (text : String) : String :=
  if text = "bridge-v1" then "83a3608e5baeb253b1670222090007d078fc84ef96fc6ce51e49de40986a332c"
  else if text = "bridge-v2" then
    "00ae1ab9468ed7760ef17edda5c2f0f7023b974c79079f2a1f80b857dc083e8f"
  else if text = "discovery" then
    "fa44132b238e67958fb17d33a71d325221805079909c3a7f5bed1a03666cf834"
  else if text = "loader" then "d47712cceb4c780603026e6325221c1bcff90679ebc076baa51c71ebe796717c"
  else if text = "MZ" then "9b8db510ef42b8ed54a3712636fda55a4f8cfcd5493e20b74ab00cd4f3979f2d"
  else if text.endsWith "9f2d" then
    "54498b59aa8aaf3c71440432749fcf1ca6a5e9eceae415d7a54e142878bdcbec"
  else if text.startsWith "MQL5/Experts/TradeJournal/TradeJournalBridge.ex5:8" then
    "5b8e6e65c903e23bd87045aee7c00a49397e532938b2807299b9d770c0bf5997"
  else "83d714d89d92bc8865ca8d0615c3231231628c25cd32f4c1aa78ea01f52babf1"

theorem releaseSha256_hex (text : String) : isSha256 (releaseSha256 text) := by
  unfold releaseSha256
  split_ifs <;> decide +kernel

def bridgeClient : String := "22222222-2222-4222-8222-222222222222"

def releaseSetup : RotationSetup where
  checks := { unicode := asciiUnicode, sha256 := releaseSha256, expectedTerminalSha256 := none }
  connectionId := bridgeClient
  terminalSha256 := some (releaseSha256 "MZ")
  expertBinary := some "bridge-v2"
  expertSha256 := some (releaseSha256 "bridge-v2")
  historyMode := .newOnly

/-- An instance that was sealed with the first release. -/
def firstRelease : ExpertDisk where
  files file := match file with
    | .bridge => some "bridge-v1"
    | .discovery => some "discovery"
    | .loader => some "loader"
    | _ => none
  others := (["terminal64.exe"], .file "MZ") ::
    assetDirectories.map fun path => (path, .directory)
  historyMode := some .newOnly
  record := some {
    connectionId := some bridgeClient
    status := some "provisioned"
    runtimeAssetsManifestSha256 :=
      some "5b8e6e65c903e23bd87045aee7c00a49397e532938b2807299b9d770c0bf5997"
    runtimeAssetsManifestVersion := some 1 }

theorem releaseSetup_called :
    RotationCalled releaseSetup "bridge-v2" (releaseSha256 "bridge-v2") firstRelease where
  pins := by decide +kernel
  source := rfl
  expected := rfl
  pinned := ⟨"5b8e6e65c903e23bd87045aee7c00a49397e532938b2807299b9d770c0bf5997",
    by decide +kernel⟩
  expert := rfl

/-- The disk after a rotation of that instance that is cut off after so many operations. -/
def cutOff (operations : Nat) : ExpertDisk :=
  (rotateManagedExpert releaseSetup.checks "bridge" releaseSetup.connectionId
    releaseSetup.expertBinary (releaseSha256 "bridge-v2")
    (List.replicate operations .done ++ [.crash]) firstRelease).2.2

theorem rotation_recovers_late : Recovers releaseSetup "bridge" false (cutOff 28) := by
  have hdigests : HexDigests releaseSetup.checks := releaseSha256_hex
  have hleft : (cutOff 28).files .upgrade = none ∧ (cutOff 28).files .rollback = none ∧
      ((cutOff 28).files .bridge).map releaseSetup.checks.sha256 = releaseSetup.expertSha256 ∧
      validateRuntimeAssets releaseSetup.checks releaseSetup.connectionId (cutOff 28) =
        .ok "83d714d89d92bc8865ca8d0615c3231231628c25cd32f4c1aa78ea01f52babf1" := by
    decide +kernel
  obtain ⟨hupgrade, hrollback, hexpert, hpinned⟩ := hleft
  exact (rotation_recovers_iff hdigests releaseSetup_called _).mpr
    ⟨hupgrade, hrollback, ⟨_, hpinned⟩, Or.inl hexpert⟩

/-- Cut off in the copy for the rollback, the rotation blocks every later one. -/
theorem rotation_blocked : (rotateManagedExpert releaseSetup.checks "bridge"
      releaseSetup.connectionId releaseSetup.expertBinary (releaseSha256 "bridge-v2")
      (List.replicate 9 .done ++ [.crash]) firstRelease).1 = .crashed ∧
    ∀ running, ¬ Recovers releaseSetup "bridge" running (cutOff 9) := by
  refine ⟨by decide +kernel, fun running hrecovers => ?_⟩
  obtain ⟨after, hensured, _⟩ := hrecovers
  have hblocked : ∀ running, (ensureCurrentManagedExpert releaseSetup "bridge" running []
      (cutOff 9)).1 = .raised "managed expert rotation failed" := by
    decide +kernel
  have hreturned := congrArg Prod.fst hensured
  rw [hblocked running] at hreturned
  cases hreturned

end TradeJournalWorker
