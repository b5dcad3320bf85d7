import TradeJournalWorker.RotationGuarantee

namespace TradeJournalWorker

open FaultProgram

/-- `rotate_managed_expert` up to the end of its `try` block. -/
def rotationSteps (checks : SlotChecks) (torn connectionId : String) (expertBinary : Option String)
    (expectedSha256 : String) : RotationProgram String := do
  let _ ← reading (validateUncoded connectionId)
  let _ ← reading (validateRuntimeAssets checks connectionId)
  let expected := String.ofList ((stripText expectedSha256).toList.map Char.toLower)
  let source ← reading fun _ => checkExpertSource checks expertBinary expected
  let current ← reading (fileSha256 checks .bridge)
  if current = expected then reading (validateRuntimeAssets checks connectionId)
  else do
    let previous ← reading fun disk => orRaise disk.record "published instance state invalid"
    reading fun disk => demand (¬ rotationPending disk) "managed expert rotation already pending"
    let previousSha256 ← reading (fileSha256 checks .bridge)
    replaceExpert checks torn connectionId source expected previousSha256 previous

/-- The same instance up to its expert, the two copies beside it and its record. -/
structure SameBeside (start disk : ExpertDisk) : Prop where
  others : disk.others = start.others
  historyMode : disk.historyMode = start.historyMode
  discovery : disk.files .discovery = start.files .discovery
  loader : disk.files .loader = start.files .loader
  staging : disk.files .staging = start.files .staging

/-- The expert and the record are still the old ones. -/
structure NotYetReplaced (start disk : ExpertDisk) : Prop extends SameBeside start disk where
  bridge : disk.files .bridge = start.files .bridge
  record : disk.record = start.record

/-- The new expert is in place and the old one beside it. -/
structure Replaced (source : String) (start disk : ExpertDisk) : Prop
    extends SameBeside start disk where
  bridge : disk.files .bridge = some source
  upgrade : disk.files .upgrade = none
  rollback : disk.files .rollback = start.files .bridge

/-- What the `except` block can put back. -/
def Undoable (source : String) (start disk : ExpertDisk) : Prop :=
  NotYetReplaced start disk ∨ Replaced source start disk

section Disks

variable {source : String} {start disk : ExpertDisk}

theorem SameBeside.put (h : SameBeside start disk) {file : ManagedFile}
    (hfile : file = .bridge ∨ file = .upgrade ∨ file = .rollback) (content : Option String) :
    SameBeside start (putFile file content disk) := by
  have hkept : ∀ other : ManagedFile, other ≠ file →
      (putFile file content disk).files other = disk.files other := fun other hother =>
    putFile_of_ne hother
  have hdiscovery : ManagedFile.discovery ≠ file := by
    rcases hfile with rfl | rfl | rfl <;> decide
  have hloader : ManagedFile.loader ≠ file := by
    rcases hfile with rfl | rfl | rfl <;> decide
  have hstaging : ManagedFile.staging ≠ file := by
    rcases hfile with rfl | rfl | rfl <;> decide
  exact ⟨h.others, h.historyMode, (hkept _ hdiscovery).trans h.discovery,
    (hkept _ hloader).trans h.loader, (hkept _ hstaging).trans h.staging⟩

theorem NotYetReplaced.self (disk : ExpertDisk) : NotYetReplaced disk disk :=
  ⟨⟨rfl, rfl, rfl, rfl, rfl⟩, rfl, rfl⟩

theorem NotYetReplaced.put (h : NotYetReplaced start disk) {file : ManagedFile}
    (hfile : file = .upgrade ∨ file = .rollback) (content : Option String) :
    NotYetReplaced start (putFile file content disk) := by
  have hbridge : ManagedFile.bridge ≠ file := by
    rcases hfile with rfl | rfl <;> decide
  exact ⟨h.toSameBeside.put (Or.inr hfile) content, (putFile_of_ne hbridge).trans h.bridge, h.record⟩

theorem replaced_rotated (start : ExpertDisk) (source : String) :
    Replaced source start (rotated source start) := by
  have hkept : SameBeside start (putFile .rollback (start.files .bridge) start) :=
    (NotYetReplaced.self start).toSameBeside.put (by simp) _
  have hmoved : SameBeside start (rotated source start) :=
    ((hkept.put (Or.inr (Or.inl rfl)) (some source)).put (Or.inl rfl) _).put
      (Or.inr (Or.inl rfl)) none
  exact ⟨hmoved, rotated_bridge, rotated_upgrade, rotated_rollback⟩

theorem Replaced.putRecord (h : Replaced source start disk) (record : RuntimeRecord) :
    Replaced source start (putRecord record disk) :=
  ⟨⟨h.others, h.historyMode, h.discovery, h.loader, h.staging⟩, h.bridge, h.upgrade, h.rollback⟩

/-- A disk with the same files, expert and record, and no copies, is the old one. -/
theorem eq_start (h : SameBeside start disk) (hbridge : disk.files .bridge = start.files .bridge)
    (hrecord : disk.record = start.record) (hupgrade : disk.files .upgrade = start.files .upgrade)
    (hrollback : disk.files .rollback = start.files .rollback) : disk = start := by
  have hfiles : disk.files = start.files := by
    funext file
    cases file with
    | bridge => exact hbridge
    | discovery => exact h.discovery
    | loader => exact h.loader
    | upgrade => exact hupgrade
    | rollback => exact hrollback
    | staging => exact h.staging
  have hothers := h.others
  have hmode := h.historyMode
  cases disk
  cases start
  simp_all

theorem putFile_undo {file : ManagedFile} (disk : ExpertDisk) :
    putFile file (disk.files file) disk = disk := by
  unfold putFile
  rw [Function.update_eq_self]

end Disks

section Steps

variable {α β : Type} {held : ExpertDisk → Prop} {d : ExpertDisk}
  {post : β → List (WriteAnswer String) → ExpertDisk → Prop}

/-- Nothing happens to the disk while it is read. -/
theorem at_reading {read : ExpertDisk → Except String α} {rest : α → RotationProgram β}
    (hheld : held d)
    (h : ∀ value, read d = .ok value →
      Triple (fun _ disk => disk = d) (rest value) (raising post fun _ => held)) :
    Triple (fun _ disk => disk = d) (reading read >>= rest) (raising post fun _ => held) := by
  have hread : Triple (fun _ disk => disk = d) (reading read)
      (raising (fun value _ disk => disk = d ∧ read d = .ok value) fun _ => held) := by
    refine (@reading_kept α (fun disk => disk = d) read).weaken (fun _ _ h => h) ?_
    intro exit env disk hexit
    cases exit with
    | returned value =>
      obtain ⟨rfl, hvalue⟩ := hexit
      exact ⟨rfl, hvalue⟩
    | raised error =>
      have hsame : disk = d := hexit
      rw [hsame]
      exact hheld
    | crashed => trivial
  refine triple_raising hread fun value env disk hdisk => ?_
  exact h value hdisk.2 env disk hdisk.1

theorem at_insist {condition : Bool} {error : String} {rest : Unit → RotationProgram β}
    (hheld : held d)
    (h : condition = true →
      Triple (fun _ disk => disk = d) (rest ()) (raising post fun _ => held)) :
    Triple (fun _ disk => disk = d) (insist condition error >>= rest)
      (raising post fun _ => held) := by
  unfold insist
  split
  next hcondition => exact h hcondition
  next =>
    intro env disk hdisk
    have hsame : disk = d := hdisk
    rw [hsame]
    exact hheld

theorem triple_writing {change : ExpertDisk → ExpertDisk} (hheld : held d)
    (hlate : held (change d)) :
    Triple (fun _ disk => disk = d) (writing change)
      (raising (fun _ _ disk => disk = change d) fun _ => held) := by
  refine triple_write fun env disk hdisk => ?_
  have hsame : disk = d := hdisk
  rw [hsame]
  cases (nextAnswer WriteAnswer.done env).1 with
  | done => rfl
  | failed error => exact hheld
  | failedLate error => exact hlate
  | crash => trivial

theorem at_writing {change : ExpertDisk → ExpertDisk} {rest : Unit → RotationProgram β}
    (hheld : held d) (hlate : held (change d))
    (h : Triple (fun _ disk => disk = change d) (rest ()) (raising post fun _ => held)) :
    Triple (fun _ disk => disk = d) (writing change >>= rest) (raising post fun _ => held) :=
  triple_raising (triple_writing hheld hlate) fun _ => h

theorem at_durableReplace {source target : ManagedFile} {rest : Unit → RotationProgram β}
    (hheld : held d) (hlate : held (moveFile source target d))
    (h : Triple (fun _ disk => disk = moveFile source target d) (rest ())
      (raising post fun _ => held)) :
    Triple (fun _ disk => disk = d) (durableReplace source target >>= rest)
      (raising post fun _ => held) := by
  have hmove : Triple (fun _ disk => disk = d) (durableReplace source target)
      (raising (fun _ _ disk => disk = moveFile source target d) fun _ => held) :=
    at_reading hheld fun _ _ => triple_writing hheld hlate
  exact triple_raising hmove fun _ => h

/-- A copy that raises leaves nothing but its own file, whole, torn or gone. -/
theorem at_durableCopyContents {torn : String} {content : ExpertDisk → Option String}
    {file : ManagedFile} {rest : Unit → RotationProgram β}
    (hheld : ∀ written, held (putFile file written d))
    (h : ∀ copied, content (putFile file (some torn) d) = some copied →
      Triple (fun _ disk => disk = putFile file (some copied) d) (rest ())
        (raising post fun _ => held)) :
    Triple (fun _ disk => disk = d) (durableCopyContents torn content file >>= rest)
      (raising post fun _ => held) := by
  have hself : held d := by
    have hundone := hheld (d.files file)
    rw [putFile_undo] at hundone
    exact hundone
  have hcopy : Triple (fun _ disk => disk = d) (durableCopyContents torn content file)
      (raising (fun _ _ disk => ∃ copied, content (putFile file (some torn) d) = some copied ∧
        disk = putFile file (some copied) d) fun _ => held) := by
    unfold durableCopyContents
    refine at_reading hself fun _ _ => ?_
    refine at_writing hself (hheld _) ?_
    have hbody : Triple (fun _ disk => disk = putFile file (some torn) d)
        (do
          let copied ← reading fun disk => orRaise (content disk) "file not found"
          writing (putFile file (some copied))
          makeWritable file)
        (raising (fun _ _ disk => ∃ copied, content (putFile file (some torn) d) = some copied ∧
          disk = putFile file (some copied) d) fun _ disk =>
            ∃ written, disk = putFile file written d) := by
      refine at_reading ⟨_, rfl⟩ fun copied hcopied => ?_
      have hfound := orRaise_eq_ok.mp hcopied
      refine at_writing ⟨_, rfl⟩ ⟨some copied, putFile_putFile _ _⟩ ?_
      rw [putFile_putFile]
      refine (@reading_kept Unit (fun disk => disk = putFile file (some copied) d) _).weaken
        (fun _ _ h => h) ?_
      intro exit env disk hexit
      cases exit with
      | returned value => exact ⟨copied, hfound, hexit.1⟩
      | raised error => exact ⟨some copied, hexit⟩
      | crashed => trivial
    refine triple_handled hbody fun error => ?_
    have hinv : Preserves (fun _ disk => ∃ written, disk = putFile file written d)
        (unlinkFile file) := by
      refine preserves_bind preserves_getWorld fun seen => ?_
      refine preserves_onlyWhen (writing_kept (fun _ h => h) ?_)
      rintro disk ⟨written, rfl⟩
      exact ⟨none, putFile_putFile _ _⟩
    refine triple_bind hinv (fun _ => triple_raise error ?_) ?_ fun _ _ _ => trivial
    · rintro env disk ⟨written, rfl⟩
      exact hheld written
    · rintro failure env disk ⟨written, rfl⟩
      exact hheld written
  refine triple_raising hcopy fun _ => ?_
  rintro env disk ⟨copied, hcopied, hdisk⟩
  exact h copied hcopied env disk hdisk

end Steps

section Replacing

variable {checks : SlotChecks} {torn cid source expected previousSha256 : String}
  {previous : RuntimeRecord} {start disk : ExpertDisk}

/-- The new expert is in place and its manifests are in the record, over both copies. -/
structure Resealed (checks : SlotChecks) (cid source : String) (previous : RuntimeRecord)
    (start : ExpertDisk) (sealed : String) (disk : ExpertDisk) : Prop
    extends Replaced source start disk where
  record : ∃ code, codeManifest checks (rotated source start).terminal = .ok code ∧
    disk.record = some (resealed previous code sealed)
  valid : validateRuntimeAssets checks cid disk = .ok sealed

theorem validateRuntimeAssets_pin {digest : String}
    (h : validateRuntimeAssets checks cid disk = .ok digest) :
    ∃ record, disk.record = some record ∧ record.runtimeAssetsManifestSha256 = some digest := by
  unfold validateRuntimeAssets at h
  obtain ⟨record, hrecord, h⟩ := except_bind_eq_ok h
  obtain ⟨recorded, hrecorded, h⟩ := except_bind_eq_ok h
  obtain ⟨checked, hlength, h⟩ := except_bind_eq_ok h
  obtain ⟨actual, hactual, h⟩ := except_bind_eq_ok h
  obtain ⟨matched, hequal, h⟩ := except_bind_eq_ok h
  cases h
  have hpin := orRaise_eq_ok.mp hrecorded
  rw [← demand_eq_ok.mp hequal] at hpin
  exact ⟨record, (validateUncoded_eq_ok.mp hrecord).1, hpin⟩

/-- An exception in the `try` block leaves what can be undone. -/
theorem replaceExpert_undoable :
    Triple (fun _ disk => disk = start)
      (replaceExpert checks torn cid source expected previousSha256 previous)
      (raising (fun sealed _ => Resealed checks cid source previous start sealed)
        fun _ => Undoable source start) := by
  have hself := NotYetReplaced.self start
  unfold replaceExpert
  refine at_durableCopyContents (fun written => Or.inl (hself.put (by simp) written)) ?_
  intro kept hkept
  rw [putFile_of_ne (by decide)] at hkept
  have hcopied : NotYetReplaced start (putFile .rollback (some kept) start) :=
    hself.put (by simp) _
  refine at_reading (Or.inl hcopied) fun keptSha256 _ => ?_
  refine at_insist (Or.inl hcopied) fun _ => ?_
  refine at_durableCopyContents (fun written => Or.inl (hcopied.put (by simp) written)) ?_
  intro staged hstaged
  cases hstaged
  have hboth : NotYetReplaced start
      (putFile .upgrade (some source) (putFile .rollback (some kept) start)) :=
    hcopied.put (by simp) _
  have hrotated : moveFile .upgrade .bridge
      (putFile .upgrade (some source) (putFile .rollback (some kept) start)) =
      rotated source start := by
    unfold rotated
    rw [hkept]
  have hreplaced := replaced_rotated start source
  refine at_reading (Or.inl hboth) fun _ _ => ?_
  refine at_insist (Or.inl hboth) fun _ => ?_
  refine at_reading (Or.inl hboth) fun _ _ => ?_
  refine at_durableReplace (Or.inl hboth) (by rw [hrotated]; exact Or.inr hreplaced) ?_
  rw [hrotated]
  refine at_reading (Or.inr hreplaced) fun _ _ => ?_
  refine at_insist (Or.inr hreplaced) fun _ => ?_
  refine at_reading (Or.inr hreplaced) fun code hcode => ?_
  refine at_reading (Or.inr hreplaced) fun assets _ => ?_
  have hsealed := hreplaced.putRecord (resealed previous code assets)
  refine at_writing (Or.inr hreplaced) (Or.inr hsealed) ?_
  refine (@reading_kept String (fun disk =>
    disk = putRecord (resealed previous code assets) (rotated source start)) _).weaken
    (fun _ _ h => h) ?_
  intro exit env disk hexit
  cases exit with
  | returned sealed =>
    obtain ⟨rfl, hvalid⟩ := hexit
    obtain ⟨record, hrecord, hpin⟩ := validateRuntimeAssets_pin hvalid
    cases hrecord
    cases hpin
    exact ⟨hsealed, ⟨code, hcode, rfl⟩, hvalid⟩
  | raised error =>
    have hsame : disk = putRecord (resealed previous code assets) (rotated source start) := hexit
    rw [hsame]
    exact Or.inr hsealed
  | crashed => trivial

end Replacing

section Recovering

variable {checks : SlotChecks} {cid source previousSha256 bridge : String}
  {previous : RuntimeRecord} {start disk : ExpertDisk}

theorem discardCopies_succeeds : Succeeds (discardCopies false) disk ()
    (putFile .rollback none (putFile .upgrade none disk)) :=
  succeeds_bind succeeds_unlinkFile succeeds_unlinkFile

/-- Without its copies the disk of a rotation that replaced nothing is the old one. -/
theorem NotYetReplaced.discarded (h : NotYetReplaced start disk)
    (hupgrade : start.files .upgrade = none) (hrollback : start.files .rollback = none) :
    putFile .rollback none (putFile .upgrade none disk) = start := by
  have hput : NotYetReplaced start (putFile .rollback none (putFile .upgrade none disk)) :=
    (h.put (by simp) none).put (by simp) none
  refine eq_start hput.toSameBeside hput.bridge hput.record ?_ ?_
  · rw [putFile_of_ne (by decide), putFile_self, hupgrade]
  · rw [putFile_self, hrollback]

theorem restoreExpert_untouched (h : NotYetReplaced start disk) (error : String)
    (hbridge : start.files .bridge = some bridge) (hprevious : checks.sha256 bridge = previousSha256) :
    Succeeds (restoreExpert checks cid previousSha256 previous error) disk (error, false) disk := by
  have hcurrent : fileSha256 checks .bridge disk = .ok previousSha256 := by
    rw [fileSha256_of_some (h.bridge.trans hbridge), hprevious]
  unfold restoreExpert
  refine succeeds_bind (succeeds_tryCatch (succeeds_bind (succeeds_reading hcurrent) rfl)) ?_
  rw [if_pos rfl]
  rfl

/-- The old expert is moved back and its record written again. -/
theorem restoreExpert_replaced (h : Replaced source start disk) (error : String)
    (hbridge : start.files .bridge = some bridge) (hprevious : checks.sha256 bridge = previousSha256)
    (hnew : checks.sha256 source ≠ previousSha256) (hrecord : start.record = some previous)
    (hupgrade : start.files .upgrade = none) (hrollback : start.files .rollback = none)
    (hvalid : ∃ digest, validateRuntimeAssets checks cid start = .ok digest) :
    Succeeds (restoreExpert checks cid previousSha256 previous error) disk (error, false) start := by
  have hkept : disk.files .rollback = some bridge := h.rollback.trans hbridge
  have hmoved : SameBeside start (moveFile .rollback .bridge disk) :=
    (h.toSameBeside.put (Or.inl rfl) _).put (Or.inr (Or.inr rfl)) none
  have hback : (moveFile .rollback .bridge disk).files .bridge = some bridge := by
    unfold moveFile
    rw [putFile_of_ne (by decide), putFile_self, hkept]
  have hrestored : putRecord previous (moveFile .rollback .bridge disk) = start := by
    refine eq_start ⟨hmoved.others, hmoved.historyMode, hmoved.discovery, hmoved.loader,
      hmoved.staging⟩ (hback.trans hbridge.symm) hrecord.symm ?_ ?_
    · show (moveFile .rollback .bridge disk).files .upgrade = _
      unfold moveFile
      rw [putFile_of_ne (by decide), putFile_of_ne (by decide), h.upgrade, hupgrade]
    · show (moveFile .rollback .bridge disk).files .rollback = _
      unfold moveFile
      rw [putFile_self, hrollback]
  obtain ⟨digest, hdigest⟩ := hvalid
  have hdiffers : (some (checks.sha256 source) = some previousSha256) = False := by
    simp [hnew]
  unfold restoreExpert
  refine succeeds_bind (succeeds_tryCatch
    (succeeds_bind (succeeds_reading (fileSha256_of_some h.bridge)) rfl)) ?_
  rw [if_neg (by rw [hdiffers]; exact not_false)]
  refine succeeds_tryCatch ?_
  refine succeeds_bind (succeeds_reading (fileSha256_of_some hkept)) ?_
  refine succeeds_bind (succeeds_insist (decide_eq_true hprevious)) ?_
  refine succeeds_bind (succeeds_makeWritable (by rw [hkept]; rfl)) ?_
  refine succeeds_bind (succeeds_makeWritable (by rw [h.bridge]; rfl)) ?_
  refine succeeds_bind (succeeds_durableReplace (by rw [hkept]; rfl)) ?_
  refine succeeds_bind (succeeds_reading (fileSha256_of_some hback)) ?_
  refine succeeds_bind (succeeds_insist (decide_eq_true hprevious)) ?_
  refine succeeds_bind (succeeds_writing _ _) ?_
  rw [hrestored]
  exact succeeds_bind (succeeds_reading hdigest) rfl

/-- The handler brings the old disk back when nothing fails under it. -/
theorem handler_restores (h : Undoable source start disk) (error : String)
    (hbridge : start.files .bridge = some bridge) (hprevious : checks.sha256 bridge = previousSha256)
    (hnew : checks.sha256 source ≠ previousSha256) (hrecord : start.record = some previous)
    (hupgrade : start.files .upgrade = none) (hrollback : start.files .rollback = none)
    (hvalid : ∃ digest, validateRuntimeAssets checks cid start = .ok digest) :
    (do
      let outcome ← restoreExpert checks cid previousSha256 previous error
      discardCopies outcome.2
      Program.raise outcome.1 : RotationProgram String) [] disk = (.raised error, [], start) := by
  rcases h with huntouched | hreplaced
  · rw [Program.run_bind_returned (restoreExpert_untouched huntouched error hbridge hprevious),
      Program.run_bind_returned discardCopies_succeeds,
      huntouched.discarded hupgrade hrollback]
    rfl
  · rw [Program.run_bind_returned (restoreExpert_replaced hreplaced error hbridge hprevious hnew
      hrecord hupgrade hrollback hvalid), Program.run_bind_returned discardCopies_succeeds,
      putFile_none hupgrade, putFile_none hrollback]
    rfl

end Recovering

section Cleanup

variable {checks : SlotChecks} {cid source sealed : String} {previous : RuntimeRecord}
  {start : ExpertDisk}

/-- Where the new expert is in place and sealed, whatever became of the copies. -/
structure SealedExpert (checks : SlotChecks) (cid source : String) (previous : RuntimeRecord)
    (start : ExpertDisk) (sealed : String) (disk : ExpertDisk) : Prop where
  bridge : disk.files .bridge = some source
  record : ∃ code, codeManifest checks (rotated source start).terminal = .ok code ∧
    disk.record = some (resealed previous code sealed)
  valid : validateRuntimeAssets checks cid disk = .ok sealed

theorem SealedExpert.put {disk : ExpertDisk} (h : SealedExpert checks cid source previous start
    sealed disk) {file : ManagedFile} (hfile : file.beside) (content : Option String) :
    SealedExpert checks cid source previous start sealed (putFile file content disk) := by
  have hbridge : ManagedFile.bridge ≠ file := by
    rintro rfl
    cases hfile
  refine ⟨(putFile_of_ne hbridge).trans h.bridge, h.record, ?_⟩
  rw [validateRuntimeAssets_put hfile]
  exact h.valid

/-- After a return the file is gone; no other file is touched. -/
theorem unlinkFile_gone {inv : ExpertDisk → Prop} {file : ManagedFile}
    (hput : ∀ disk, inv disk → inv (putFile file none disk)) :
    Triple (fun _ => inv) (unlinkFile file)
      (returning (fun _ _ disk => inv disk ∧ disk.files file = none) fun _ => inv) := by
  refine triple_read fun seen => ?_
  unfold onlyWhen
  split
  next =>
    refine triple_write fun env disk hdisk => ?_
    obtain ⟨hinv, rfl⟩ := hdisk
    cases (nextAnswer WriteAnswer.done env).1 with
    | done => exact ⟨hput _ hinv, putFile_self none⟩
    | failed error => exact hinv
    | failedLate error => exact hput _ hinv
    | crash => exact hinv
  next habsent =>
    refine triple_pure () fun env disk hdisk => ?_
    obtain ⟨hinv, rfl⟩ := hdisk
    refine ⟨hinv, ?_⟩
    simpa using habsent

/-- What follows the `try` block leaves the new expert sealed; a return has no copy left. -/
theorem cleanup_keeps :
    Triple (fun _ => SealedExpert checks cid source previous start sealed)
      (discardCopies false >>= fun _ => writing id >>= fun _ => pure sealed)
      (returning (fun value _ disk => SealedExpert checks cid source previous start sealed disk ∧
          value = sealed ∧ disk.files .upgrade = none ∧ disk.files .rollback = none)
        fun _ => SealedExpert checks cid source previous start sealed) := by
  have hdiscard : Triple (fun _ => SealedExpert checks cid source previous start sealed)
      (discardCopies false)
      (returning (fun _ _ disk => SealedExpert checks cid source previous start sealed disk ∧
          disk.files .upgrade = none ∧ disk.files .rollback = none)
        fun _ => SealedExpert checks cid source previous start sealed) := by
    refine triple_returning (unlinkFile_gone fun _ h => h.put rfl none) fun _ => ?_
    have hsecond := @unlinkFile_gone (fun disk => SealedExpert checks cid source previous start
      sealed disk ∧ disk.files .upgrade = none) .rollback fun disk h =>
        ⟨h.1.put rfl none, (putFile_of_ne (by decide)).trans h.2⟩
    refine hsecond.weaken (fun _ _ h => h) ?_
    refine returning_mono ?_ ?_
    · rintro value env disk ⟨⟨hsealed, hupgrade⟩, hrollback⟩
      exact ⟨hsealed, hupgrade, hrollback⟩
    · exact fun env disk h => h.1
  refine triple_returning hdiscard fun _ => ?_
  have hsync : Triple (fun _ disk => SealedExpert checks cid source previous start sealed disk ∧
      disk.files .upgrade = none ∧ disk.files .rollback = none) (writing id)
      (returning (fun _ _ disk => SealedExpert checks cid source previous start sealed disk ∧
        disk.files .upgrade = none ∧ disk.files .rollback = none)
        fun _ => SealedExpert checks cid source previous start sealed) := by
    refine triple_write fun env disk h => ?_
    cases (nextAnswer WriteAnswer.done env).1 with
    | done => exact h
    | failed error => exact h.1
    | failedLate error => exact h.1
    | crash => exact h.1
  refine triple_returning hsync fun _ => triple_pure sealed ?_
  exact fun env disk h => ⟨h.1, rfl, h.2⟩

end Cleanup

section Runs

variable {checks : SlotChecks} {torn cid : String} {expertBinary : Option String}
  {expectedSha256 : String} {disk : ExpertDisk}

/-- How a call ends whose `try` block returned: nothing was to be done, or the new expert is in
place and sealed. -/
inductive Finished (checks : SlotChecks) (cid : String) (expertBinary : Option String)
    (start : ExpertDisk) (sealed : String) (exit : Exit String String) (after : ExpertDisk) : Prop
  | current (unchanged : after = start) (returned : exit = .returned sealed)
      (same : (start.files .bridge).map checks.sha256 = expertBinary.map checks.sha256)
      (valid : validateRuntimeAssets checks cid start = .ok sealed)
  | rotated {source : String} {previous : RuntimeRecord} (binary : expertBinary = some source)
      (record : start.record = some previous)
      (sealedExpert : SealedExpert checks cid source previous start sealed after)
      (cleaned : ∀ value, exit = .returned value →
        value = sealed ∧ after.files .upgrade = none ∧ after.files .rollback = none)

/-- What a call does about the disk, told by the end of the steps up to its `try` block. -/
structure AtomicRun (checks : SlotChecks) (cid : String) (expertBinary : Option String)
    (steps call : RotationProgram String) (disk : ExpertDisk) : Prop where
  undone : ∀ answers error middle, steps answers disk = (.raised error, [], middle) →
    call answers disk = (.raised error, [], disk)
  finished : ∀ answers sealed rest middle, steps answers disk = (.returned sealed, rest, middle) →
    Finished checks cid expertBinary disk sealed (call answers disk).1 (call answers disk).2.2

theorem atomicRun_reading {α : Type} {read : ExpertDisk → Except String α}
    {steps call : α → RotationProgram String}
    (h : ∀ value, read disk = .ok value →
      AtomicRun checks cid expertBinary (steps value) (call value) disk) :
    AtomicRun checks cid expertBinary (reading read >>= steps) (reading read >>= call) disk := by
  have hrun : ∀ answers,
      (∃ value rest, read disk = .ok value ∧ reading read answers disk = (.returned value, rest, disk)) ∨
      (∃ error rest, reading read answers disk = (.raised error, rest, disk)) ∨
      ∃ rest, reading read answers disk = (.crashed, rest, disk) := by
    intro answers
    have hkept := @reading_kept α (fun after => after = disk) read answers disk rfl
    rcases hexit : reading read answers disk with ⟨exit, rest, after⟩
    rw [hexit] at hkept
    cases exit with
    | returned value =>
      obtain ⟨rfl, hvalue⟩ := hkept
      exact Or.inl ⟨value, rest, hvalue, rfl⟩
    | raised error =>
      obtain rfl : after = disk := hkept
      exact Or.inr (Or.inl ⟨error, rest, rfl⟩)
    | crashed =>
      obtain rfl : after = disk := hkept
      exact Or.inr (Or.inr ⟨rest, rfl⟩)
  constructor
  · intro answers error middle hsteps
    rw [Program.run_bind] at hsteps ⊢
    rcases hrun answers with ⟨value, rest, hvalue, hread⟩ | ⟨failure, rest, hread⟩ | ⟨rest, hread⟩
    · rw [hread] at hsteps ⊢
      exact (h value hvalue).undone rest error middle hsteps
    · rw [hread] at hsteps ⊢
      cases hsteps
      rfl
    · rw [hread] at hsteps
      cases hsteps
  · intro answers sealed rest' middle hsteps
    rw [Program.run_bind] at hsteps ⊢
    rcases hrun answers with ⟨value, rest, hvalue, hread⟩ | ⟨failure, rest, hread⟩ | ⟨rest, hread⟩
    · rw [hread] at hsteps ⊢
      exact (h value hvalue).finished rest sealed rest' middle hsteps
    · rw [hread] at hsteps
      cases hsteps
    · rw [hread] at hsteps
      cases hsteps

/-- A call that finds the expert up to date. -/
theorem atomicRun_current
    (hsame : (disk.files .bridge).map checks.sha256 = expertBinary.map checks.sha256) :
    AtomicRun checks cid expertBinary (reading (validateRuntimeAssets checks cid))
      (reading (validateRuntimeAssets checks cid)) disk := by
  have hkept : ∀ answers, returning
      (fun value _ after => after = disk ∧ validateRuntimeAssets checks cid disk = .ok value)
      (fun _ after => after = disk)
      (reading (validateRuntimeAssets checks cid) answers disk).1
      (reading (validateRuntimeAssets checks cid) answers disk).2.1
      (reading (validateRuntimeAssets checks cid) answers disk).2.2 := by
    intro answers
    have hread := @reading_kept String (fun after => after = disk)
      (validateRuntimeAssets checks cid) answers disk rfl
    rcases hexit : reading (validateRuntimeAssets checks cid) answers disk with ⟨exit, rest, after⟩
    rw [hexit] at hread
    cases exit with
    | returned value =>
      obtain ⟨rfl, hvalue⟩ := hread
      exact ⟨rfl, hvalue⟩
    | raised error => exact hread
    | crashed => exact hread
  constructor
  · intro answers error middle hsteps
    have hmiddle := hkept answers
    rw [hsteps] at hmiddle ⊢
    obtain rfl : middle = disk := hmiddle
    rfl
  · intro answers sealed rest middle hsteps
    have hmiddle := hkept answers
    rw [hsteps] at hmiddle ⊢
    exact .current hmiddle.1 rfl hsame hmiddle.2

/-- The `try` block with its handler and what follows it. -/
theorem atomicRun_replace {source expected previousSha256 bridge : String}
    {previous : RuntimeRecord} (hbinary : expertBinary = some source)
    (hbridge : disk.files .bridge = some bridge) (hprevious : checks.sha256 bridge = previousSha256)
    (hnew : checks.sha256 source ≠ previousSha256) (hrecord : disk.record = some previous)
    (hupgrade : disk.files .upgrade = none) (hrollback : disk.files .rollback = none)
    (hvalid : ∃ digest, validateRuntimeAssets checks cid disk = .ok digest) :
    AtomicRun checks cid expertBinary
      (replaceExpert checks torn cid source expected previousSha256 previous)
      (do
        let sealed ← Program.tryCatch
          (replaceExpert checks torn cid source expected previousSha256 previous)
          fun error => do
            let outcome ← restoreExpert checks cid previousSha256 previous error
            discardCopies outcome.2
            Program.raise outcome.1
        discardCopies false
        writing id
        return sealed) disk := by
  constructor
  · intro answers error middle hsteps
    have hundoable := @replaceExpert_undoable checks torn cid source expected previousSha256
      previous disk answers disk rfl
    rw [hsteps] at hundoable
    have hhandled := @handler_restores checks cid source previousSha256 bridge previous disk middle
      hundoable error hbridge hprevious hnew hrecord hupgrade hrollback hvalid
    rw [Program.run_bind]
    unfold Program.tryCatch
    rw [hsteps]
    simp only
    rw [hhandled]
  · intro answers sealed rest middle hsteps
    have hresealed := @replaceExpert_undoable checks torn cid source expected previousSha256
      previous disk answers disk rfl
    rw [hsteps] at hresealed
    have hsealed : SealedExpert checks cid source previous disk sealed middle :=
      ⟨hresealed.bridge, hresealed.record, hresealed.valid⟩
    have hcleanup := @cleanup_keeps checks cid source sealed previous disk rest middle hsealed
    have hcall : (do
        let sealed ← Program.tryCatch
          (replaceExpert checks torn cid source expected previousSha256 previous)
          fun error => do
            let outcome ← restoreExpert checks cid previousSha256 previous error
            discardCopies outcome.2
            Program.raise outcome.1
        discardCopies false
        writing id
        return sealed : RotationProgram String) answers disk =
        (discardCopies false >>= fun _ => writing id >>= fun _ => pure sealed :
          RotationProgram String) rest middle := by
      rw [Program.run_bind]
      unfold Program.tryCatch
      rw [hsteps]
    rw [hcall]
    rcases hrun : (discardCopies false >>= fun _ => writing id >>= fun _ => pure sealed :
      RotationProgram String) rest middle with ⟨exit, rest', after⟩
    rw [hrun] at hcleanup
    cases exit with
    | returned value =>
      obtain ⟨hafter, rfl, hcopies⟩ := hcleanup
      refine .rotated hbinary hrecord hafter fun other hother => ?_
      cases hother
      exact ⟨rfl, hcopies⟩
    | raised error =>
      refine .rotated hbinary hrecord hcleanup fun other hother => ?_
      cases hother
    | crashed =>
      refine .rotated hbinary hrecord hcleanup fun other hother => ?_
      cases hother

theorem rotateManagedExpert_atomic :
    AtomicRun checks cid expertBinary
      (rotationSteps checks torn cid expertBinary expectedSha256)
      (rotateManagedExpert checks torn cid expertBinary expectedSha256) disk := by
  unfold rotationSteps rotateManagedExpert
  refine atomicRun_reading fun record hrecord => ?_
  refine atomicRun_reading fun digest hdigest => ?_
  refine atomicRun_reading fun source hsource => ?_
  refine atomicRun_reading fun current hcurrent => ?_
  unfold checkExpertSource at hsource
  obtain ⟨content, hcontent, hsource⟩ := except_bind_eq_ok hsource
  obtain ⟨checked, hchecked, hsource⟩ := except_bind_eq_ok hsource
  cases hsource
  have hbinary := orRaise_eq_ok.mp hcontent
  have hpinned := (demand_eq_ok.mp hchecked).2
  unfold fileSha256 at hcurrent
  obtain ⟨bridge, hbridge, hcurrent⟩ := except_bind_eq_ok hcurrent
  cases hcurrent
  have hfound := orRaise_eq_ok.mp hbridge
  split
  next hsame =>
    refine atomicRun_current ?_
    rw [hfound, hbinary, Option.map_some, Option.map_some, hsame, hpinned]
  next hstale =>
    refine atomicRun_reading fun previous hprevious => ?_
    refine atomicRun_reading fun _ hpending => ?_
    refine atomicRun_reading fun previousSha256 hold => ?_
    obtain ⟨hupgrade, hrollback⟩ := not_rotationPending_iff.mp (demand_eq_ok.mp hpending)
    rw [fileSha256_of_some hfound] at hold
    have hnew : checks.sha256 source ≠ previousSha256 := by
      intro heq
      refine hstale ?_
      rw [Except.ok.inj hold, ← heq]
      exact hpinned
    exact atomicRun_replace hbinary hfound (Except.ok.inj hold) hnew (orRaise_eq_ok.mp hprevious)
      hupgrade hrollback ⟨digest, hdigest⟩

end Runs

/-- An exception up to the end of the `try` block leaves the disk as it was, when nothing fails
under the recovery. A call whose `try` block returned leaves the new expert sealed whatever fails
in the cleanup, and returns with no copy left. -/
theorem rotation_atomic (checks : SlotChecks) (torn cid : String) (expertBinary : Option String)
    (expectedSha256 : String) (answers : List (WriteAnswer String)) (disk : ExpertDisk) :
    (∀ error middle, rotationSteps checks torn cid expertBinary expectedSha256 answers disk =
        (.raised error, [], middle) →
      rotateManagedExpert checks torn cid expertBinary expectedSha256 answers disk =
        (.raised error, [], disk)) ∧
    ∀ sealed rest middle, rotationSteps checks torn cid expertBinary expectedSha256 answers disk =
        (.returned sealed, rest, middle) →
      Finished checks cid expertBinary disk sealed
        (rotateManagedExpert checks torn cid expertBinary expectedSha256 answers disk).1
        (rotateManagedExpert checks torn cid expertBinary expectedSha256 answers disk).2.2 :=
  ⟨fun error middle => rotateManagedExpert_atomic.undone answers error middle,
    fun sealed rest middle => rotateManagedExpert_atomic.finished answers sealed rest middle⟩

/-- The answers up to the removal of the rollback copy, which is in use. -/
def rollbackInUse : List (WriteAnswer String) := List.replicate 27 .done ++ [.failed "in use"]

/-- The call raises after its `try` block has returned, with the new expert in place and the
rollback copy beside it. -/
theorem cleanup_raises :
    (∃ sealed, (rotationSteps releaseSetup.checks "bridge" releaseSetup.connectionId
      releaseSetup.expertBinary (releaseSha256 "bridge-v2") rollbackInUse firstRelease).1 =
        .returned sealed) ∧
    ∃ after, rotateManagedExpert releaseSetup.checks "bridge" releaseSetup.connectionId
        releaseSetup.expertBinary (releaseSha256 "bridge-v2") rollbackInUse firstRelease =
          (.raised "in use", [], after) ∧
      after.files .bridge ≠ firstRelease.files .bridge ∧ after.record ≠ firstRelease.record ∧
      after.files .rollback = some "bridge-v1" := by
  constructor
  · exact ⟨"83d714d89d92bc8865ca8d0615c3231231628c25cd32f4c1aa78ea01f52babf1", by decide +kernel⟩
  · have hrun : ((rotateManagedExpert releaseSetup.checks "bridge" releaseSetup.connectionId
          releaseSetup.expertBinary (releaseSha256 "bridge-v2") rollbackInUse firstRelease).1 =
            .raised "in use" ∧
        (rotateManagedExpert releaseSetup.checks "bridge" releaseSetup.connectionId
          releaseSetup.expertBinary (releaseSha256 "bridge-v2") rollbackInUse firstRelease).2.1 =
            []) ∧
        (rotateManagedExpert releaseSetup.checks "bridge" releaseSetup.connectionId
          releaseSetup.expertBinary (releaseSha256 "bridge-v2") rollbackInUse
            firstRelease).2.2.files .bridge ≠ firstRelease.files .bridge ∧
        (rotateManagedExpert releaseSetup.checks "bridge" releaseSetup.connectionId
          releaseSetup.expertBinary (releaseSha256 "bridge-v2") rollbackInUse
            firstRelease).2.2.record ≠ firstRelease.record ∧
        (rotateManagedExpert releaseSetup.checks "bridge" releaseSetup.connectionId
          releaseSetup.expertBinary (releaseSha256 "bridge-v2") rollbackInUse
            firstRelease).2.2.files .rollback = some "bridge-v1" := by
      decide +kernel
    exact ⟨_, Prod.ext hrun.1.1 (Prod.ext hrun.1.2 rfl), hrun.2⟩

end TradeJournalWorker
