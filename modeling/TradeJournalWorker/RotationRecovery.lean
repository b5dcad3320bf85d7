import TradeJournalWorker.ExpertRotation
import TradeJournalWorker.FaultRules

namespace TradeJournalWorker

open FaultProgram

/-- What no step of a rotation changes about an instance. -/
structure SameInstance (connectionId : String) (start disk : ExpertDisk) : Prop where
  others : disk.others = start.others
  discovery : disk.files .discovery = start.files .discovery
  loader : disk.files .loader = start.files .loader
  bridge : (disk.files .bridge).isSome
  record : ∃ record, disk.record = some record ∧ record.connectionId = some connectionId ∧
    record.status = some "provisioned" ∧ record.runtimeAssetsManifestSha256 ≠ none

/-- The instance as a caller rotates it: its pin holds, and the release file is the pinned one. -/
structure RotationCalled (setup : RotationSetup) (source expected : String) (start : ExpertDisk) :
    Prop where
  pins : verifyBinaryPins setup start = .ok ()
  source : setup.expertBinary = some source
  expected : setup.expertSha256 = some expected
  pinned : ∃ digest, validateRuntimeAssets setup.checks setup.connectionId start = .ok digest
  expert : (start.files .bridge).isSome

section Rules

variable {α β : Type} {inv : ExpertDisk → Prop}

theorem writing_kept {change : ExpertDisk → ExpertDisk} {before : ExpertDisk → Prop}
    (hkept : ∀ disk, before disk → inv disk) (h : ∀ disk, before disk → inv (change disk)) :
    Triple (fun _ => before) (writing change) (fun _ _ => inv) := by
  refine triple_write fun env disk hdisk => ?_
  cases (nextAnswer WriteAnswer.done env).1 with
  | done => exact h disk hdisk
  | failed error => exact hkept disk hdisk
  | failedLate error => exact h disk hdisk
  | crash => exact hkept disk hdisk

/-- What was read held of the disk. -/
theorem reading_kept {read : ExpertDisk → Except String α} :
    Triple (fun _ => inv) (reading read)
      (returning (fun value _ disk => inv disk ∧ read disk = .ok value) (fun _ => inv)) := by
  have hdone : Triple (fun _ => inv) (writing id) (fun _ _ => inv) :=
    writing_kept (fun _ h => h) (fun _ h => h)
  refine triple_bind hdone (fun _ => ?_) (fun _ _ _ h => h) (fun _ _ h => h)
  refine triple_read fun disk => ?_
  cases hread : read disk with
  | ok value =>
    refine triple_pure value fun env world hworld => ?_
    obtain ⟨hdisk, rfl⟩ := hworld
    exact ⟨hdisk, hread⟩
  | error error => exact triple_raise error fun env world hworld => hworld.1

/-- The rest of a program after a read, for a value that some such disk has. -/
theorem reading_then {read : ExpertDisk → Except String α} {rest : α → RotationProgram β}
    (h : ∀ value, (∃ disk, inv disk ∧ read disk = .ok value) →
      Preserves (fun _ => inv) (rest value)) :
    Preserves (fun _ => inv) (reading read >>= rest) := by
  refine triple_bind reading_kept (fun value => ?_) (fun _ _ _ h => h) (fun _ _ h => h)
  intro env disk hdisk
  exact h value ⟨disk, hdisk.1, hdisk.2⟩ env disk hdisk.1

theorem preserves_reading {read : ExpertDisk → Except String α} :
    Preserves (fun _ => inv) (reading read) := by
  intro env disk hdisk
  have hread := @reading_kept α inv read env disk hdisk
  cases hexit : (reading read env disk).1 with
  | returned value =>
    rw [hexit] at hread
    exact hread.1
  | raised error =>
    rw [hexit] at hread
    exact hread
  | crashed =>
    rw [hexit] at hread
    exact hread

theorem preserves_insist {condition : Bool} {error : String} :
    Preserves (fun _ => inv) (insist condition error) := by
  unfold insist
  split
  next => exact preserves_pure ()
  next => exact preserves_raise error

theorem preserves_onlyWhen {condition : Bool} {p : RotationProgram Unit}
    (h : Preserves (fun _ => inv) p) : Preserves (fun _ => inv) (onlyWhen condition p) := by
  unfold onlyWhen
  split
  next => exact h
  next => exact preserves_pure ()

end Rules

section Invariant

variable {checks : SlotChecks} {torn cid : String} {start : ExpertDisk}

/-- The files that come and go beside the assets. -/
def ManagedFile.beside : ManagedFile → Bool
  | .upgrade => true
  | .rollback => true
  | .staging => true
  | _ => false

theorem SameInstance.put {disk : ExpertDisk} (h : SameInstance cid start disk) {file : ManagedFile}
    (hfile : file.beside) (content : Option String) :
    SameInstance cid start (putFile file content disk) := by
  have hkept : ∀ other : ManagedFile, other.beside = false →
      (putFile file content disk).files other = disk.files other := by
    intro other hother
    refine Function.update_of_ne (fun heq => ?_) _ _
    rw [heq, hfile] at hother
    cases hother
  constructor
  · exact h.others
  · exact (hkept .discovery rfl).trans h.discovery
  · exact (hkept .loader rfl).trans h.loader
  · rw [hkept .bridge rfl]
    exact h.bridge
  · exact h.record

theorem SameInstance.move {disk : ExpertDisk} (h : SameInstance cid start disk)
    {source : ManagedFile} (hsource : source.beside) (hpresent : (disk.files source).isSome) :
    SameInstance cid start (moveFile source .bridge disk) := by
  have hbridge : SameInstance cid start (putFile .bridge (disk.files source) disk) := by
    constructor
    · exact h.others
    · exact h.discovery
    · exact h.loader
    · exact hpresent
    · exact h.record
  exact hbridge.put hsource none

theorem unlinkFile_same {file : ManagedFile} (hfile : file.beside) :
    Preserves (fun _ => SameInstance cid start) (unlinkFile file) := by
  refine preserves_bind preserves_getWorld fun disk => ?_
  exact preserves_onlyWhen (writing_kept (fun _ h => h) (fun _ h => h.put hfile none))

theorem durableReplace_same {source : ManagedFile} (hsource : source.beside) :
    Preserves (fun _ => SameInstance cid start) (durableReplace source .bridge) := by
  refine triple_bind reading_kept (fun value => ?_) (fun _ _ _ h => h) (fun _ _ h => h)
  refine writing_kept (fun _ h => h.1) fun disk h => ?_
  exact h.1.move hsource (demand_eq_ok.mp h.2)

theorem durableCopyContents_same {content : ExpertDisk → Option String} {file : ManagedFile}
    (hfile : file.beside) :
    Preserves (fun _ => SameInstance cid start) (durableCopyContents torn content file) := by
  have hput : ∀ written, Preserves (fun _ => SameInstance cid start)
      (writing (putFile file written)) := by
    intro written
    exact writing_kept (fun _ h => h) (fun _ h => h.put hfile written)
  refine preserves_bind preserves_reading fun _ => ?_
  refine preserves_bind (hput (some torn)) fun _ => ?_
  refine preserves_tryCatch ?_ fun error => ?_
  · refine preserves_bind preserves_reading fun copied => ?_
    refine preserves_bind (hput (some copied)) fun _ => ?_
    exact preserves_reading
  · exact preserves_bind (unlinkFile_same hfile) fun _ => preserves_raise error

theorem putRecord_same {record : RuntimeRecord} (hid : record.connectionId = some cid)
    (hstatus : record.status = some "provisioned")
    (hpin : record.runtimeAssetsManifestSha256 ≠ none) :
    Preserves (fun _ => SameInstance cid start) (writing (putRecord record)) := by
  refine writing_kept (fun _ h => h) fun disk h => ?_
  exact ⟨h.others, h.discovery, h.loader, h.bridge, ⟨record, rfl, hid, hstatus, hpin⟩⟩

theorem replaceExpert_same {source expected previousSha256 : String} {previous : RuntimeRecord}
    (hid : previous.connectionId = some cid) (hstatus : previous.status = some "provisioned") :
    Preserves (fun _ => SameInstance cid start)
      (replaceExpert checks torn cid source expected previousSha256 previous) := by
  unfold replaceExpert
  refine preserves_bind (durableCopyContents_same rfl) fun _ => ?_
  refine preserves_bind preserves_reading fun kept => ?_
  refine preserves_bind preserves_insist fun _ => ?_
  refine preserves_bind (durableCopyContents_same rfl) fun _ => ?_
  refine preserves_bind preserves_reading fun staged => ?_
  refine preserves_bind preserves_insist fun _ => ?_
  refine preserves_bind preserves_reading fun _ => ?_
  refine preserves_bind (durableReplace_same rfl) fun _ => ?_
  refine preserves_bind preserves_reading fun published => ?_
  refine preserves_bind preserves_insist fun _ => ?_
  refine preserves_bind preserves_reading fun code => ?_
  refine preserves_bind preserves_reading fun assets => ?_
  have hresealed : Preserves (fun _ => SameInstance cid start)
      (writing (putRecord (resealed previous code assets))) :=
    putRecord_same hid hstatus (Option.some_ne_none assets)
  exact preserves_bind hresealed fun _ => preserves_reading

theorem restoreExpert_same {previousSha256 : String} {previous : RuntimeRecord} {error : String}
    (hid : previous.connectionId = some cid) (hstatus : previous.status = some "provisioned")
    (hpin : previous.runtimeAssetsManifestSha256 ≠ none) :
    Preserves (fun _ => SameInstance cid start)
      (restoreExpert checks cid previousSha256 previous error) := by
  unfold restoreExpert
  have hcurrent : Preserves (fun _ => SameInstance cid start) (Program.tryCatch
      (some <$> reading (fileSha256 checks .bridge)) fun _ => pure none) :=
    preserves_tryCatch (preserves_bind preserves_reading fun _ => preserves_pure _)
      fun _ => preserves_pure none
  refine preserves_bind hcurrent fun current => ?_
  split
  next => exact preserves_pure _
  next =>
    refine preserves_tryCatch ?_ fun failure => ?_
    · refine preserves_bind preserves_reading fun kept => ?_
      refine preserves_bind preserves_insist fun _ => ?_
      refine preserves_bind preserves_reading fun _ => ?_
      refine preserves_bind preserves_reading fun _ => ?_
      refine preserves_bind (durableReplace_same rfl) fun _ => ?_
      refine preserves_bind preserves_reading fun restored => ?_
      refine preserves_bind preserves_insist fun _ => ?_
      refine preserves_bind (putRecord_same hid hstatus hpin) fun _ => ?_
      exact preserves_bind preserves_reading fun _ => preserves_pure _
    · exact preserves_bind preserves_getWorld fun disk => preserves_pure _

theorem discardCopies_same {preserveRollback : Bool} :
    Preserves (fun _ => SameInstance cid start) (discardCopies preserveRollback) := by
  exact preserves_bind (unlinkFile_same rfl) fun _ => preserves_onlyWhen (unlinkFile_same rfl)

/-- However a rotation ends, the instance is the same up to its expert and its record. -/
theorem rotateManagedExpert_same {expertBinary : Option String} {expectedSha256 : String} :
    Preserves (fun _ => SameInstance cid start)
      (rotateManagedExpert checks torn cid expertBinary expectedSha256) := by
  unfold rotateManagedExpert
  refine preserves_bind preserves_reading fun _ => ?_
  refine preserves_bind preserves_reading fun _ => ?_
  refine preserves_bind preserves_reading fun source => ?_
  refine preserves_bind preserves_reading fun current => ?_
  split
  next => exact preserves_reading
  next =>
    refine reading_then fun previous hprevious => ?_
    obtain ⟨disk, hdisk, hread⟩ := hprevious
    obtain ⟨record, hrecord, hid, hstatus, hpin⟩ := hdisk.record
    have hsame : record = previous := Option.some.inj (hrecord.symm.trans (orRaise_eq_ok.mp hread))
    subst hsame
    refine preserves_bind preserves_reading fun _ => ?_
    refine preserves_bind preserves_reading fun previousSha256 => ?_
    refine preserves_bind (preserves_tryCatch (replaceExpert_same hid hstatus) fun error => ?_)
      fun sealed => ?_
    · refine preserves_bind (restoreExpert_same hid hstatus hpin) fun outcome => ?_
      exact preserves_bind discardCopies_same fun _ => preserves_raise _
    · refine preserves_bind discardCopies_same fun _ => ?_
      exact preserves_bind (writing_kept (fun _ h => h) (fun _ h => h)) fun _ => preserves_pure _

end Invariant

end TradeJournalWorker
