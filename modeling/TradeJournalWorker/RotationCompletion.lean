import TradeJournalWorker.RotationRecovery

namespace TradeJournalWorker

open FaultProgram

/-- The disk after a program that met with no failure, if it returned. -/
def Succeeds {α : Type} (p : RotationProgram α) (before : ExpertDisk) (value : α)
    (after : ExpertDisk) : Prop :=
  p [] before = (.returned value, [], after)

/-- The program does not return although nothing failed under it. -/
def Refuses {α : Type} (p : RotationProgram α) (before : ExpertDisk) : Prop :=
  ∀ value, (p [] before).1 ≠ .returned value

def NeverReturns {α : Type} (p : RotationProgram α) : Prop :=
  ∀ env disk value, (p env disk).1 ≠ .returned value

section Rules

variable {α β : Type} {before middle after : ExpertDisk}

theorem succeeds_bind {p : RotationProgram α} {f : α → RotationProgram β} {value : α} {result : β}
    (first : Succeeds p before value middle) (rest : Succeeds (f value) middle result after) :
    Succeeds (p >>= f) before result after :=
  (Program.run_bind_returned first).trans rest

theorem refuses_bind {p : RotationProgram α} {f : α → RotationProgram β} {value : α}
    (first : Succeeds p before value middle) (rest : Refuses (f value) middle) :
    Refuses (p >>= f) before := by
  intro result hreturned
  rw [Program.run_bind_returned first] at hreturned
  exact rest result hreturned

theorem refuses_first {p : RotationProgram α} {f : α → RotationProgram β}
    (h : Refuses p before) : Refuses (p >>= f) before := by
  intro result hreturned
  rw [Program.run_bind] at hreturned
  rcases hrun : p [] before with ⟨exit, env, disk⟩
  rw [hrun] at hreturned
  cases exit with
  | returned value => exact h value (congrArg Prod.fst hrun)
  | raised error => cases hreturned
  | crashed => cases hreturned

theorem neverReturns_raise (error : String) :
    NeverReturns (Program.raise error : RotationProgram α) := by
  intro env disk value hreturned
  cases hreturned

theorem neverReturns_bind {p : RotationProgram α} {f : α → RotationProgram β}
    (h : ∀ value, NeverReturns (f value)) : NeverReturns (p >>= f) := by
  intro env disk result hreturned
  rw [Program.run_bind] at hreturned
  rcases hrun : p env disk with ⟨exit, env', disk'⟩
  rw [hrun] at hreturned
  cases exit with
  | returned value => exact h value env' disk' result hreturned
  | raised error => cases hreturned
  | crashed => cases hreturned

theorem succeeds_tryCatch {p : RotationProgram α} {handler : String → RotationProgram α}
    {value : α} (h : Succeeds p before value after) :
    Succeeds (Program.tryCatch p handler) before value after := by
  unfold Succeeds Program.tryCatch at *
  rw [h]

theorem refuses_tryCatch {p : RotationProgram α} {handler : String → RotationProgram α}
    (h : Refuses p before) (hhandler : ∀ error, NeverReturns (handler error)) :
    Refuses (Program.tryCatch p handler) before := by
  intro value hreturned
  unfold Program.tryCatch at hreturned
  rcases hrun : p [] before with ⟨exit, env, disk⟩
  rw [hrun] at hreturned
  cases exit with
  | returned result => exact h result (congrArg Prod.fst hrun)
  | raised error => exact hhandler error env disk value hreturned
  | crashed => cases hreturned

theorem succeeds_tryFinally {p : RotationProgram α} {finalizer : RotationProgram Unit} {value : α}
    (h : Succeeds p before value middle) (hfinal : Succeeds finalizer middle () after) :
    Succeeds (Program.tryFinally p finalizer) before value after := by
  unfold Succeeds Program.tryFinally at *
  simp only [h, hfinal]

theorem succeeds_writing (change : ExpertDisk → ExpertDisk) (disk : ExpertDisk) :
    Succeeds (writing change) disk () (change disk) := rfl

theorem succeeds_reading {read : ExpertDisk → Except String α} {disk : ExpertDisk} {value : α}
    (h : read disk = .ok value) : Succeeds (reading read) disk value disk := by
  unfold Succeeds reading
  rw [Program.run_bind_returned (succeeds_writing id disk),
    Program.run_bind_returned (Program.run_getWorld _ _), id, h]
  rfl

theorem refuses_reading {read : ExpertDisk → Except String α} {disk : ExpertDisk}
    (h : ∀ value, read disk ≠ .ok value) : Refuses (reading read) disk := by
  intro value hreturned
  unfold reading at hreturned
  rw [Program.run_bind_returned (succeeds_writing id disk),
    Program.run_bind_returned (Program.run_getWorld _ _), id] at hreturned
  cases hread : read disk with
  | ok found => exact h found hread
  | error error =>
    rw [hread] at hreturned
    cases hreturned

theorem succeeds_insist {condition : Bool} {error : String} {disk : ExpertDisk}
    (h : condition = true) : Succeeds (insist condition error) disk () disk := by
  subst h
  rfl

theorem refuses_insist {condition : Bool} {error : String} {disk : ExpertDisk}
    (h : condition = false) : Refuses (insist condition error) disk := by
  subst h
  intro value hreturned
  cases hreturned

end Rules

section Files

variable {torn : String} {disk : ExpertDisk} {file : ManagedFile}

theorem putFile_self (content : Option String) : (putFile file content disk).files file = content :=
  Function.update_self _ _ _

theorem putFile_of_ne {other : ManagedFile} {content : Option String} (h : other ≠ file) :
    (putFile file content disk).files other = disk.files other := Function.update_of_ne h _ _

theorem putFile_none (h : disk.files file = none) : putFile file none disk = disk := by
  unfold putFile
  rw [← h, Function.update_eq_self]

theorem putFile_putFile (first second : Option String) :
    putFile file second (putFile file first disk) = putFile file second disk := by
  unfold putFile
  rw [Function.update_idem]

theorem succeeds_unlinkFile : Succeeds (unlinkFile file) disk () (putFile file none disk) := by
  have hrun : unlinkFile file [] disk =
      onlyWhen (disk.files file).isSome (writing (putFile file none)) [] disk := rfl
  unfold Succeeds
  rw [hrun]
  cases hfile : disk.files file with
  | none =>
    rw [putFile_none hfile]
    rfl
  | some content => rfl

theorem succeeds_makeWritable (h : (disk.files file).isSome) :
    Succeeds (makeWritable file) disk () disk :=
  succeeds_reading (demand_eq_ok.mpr h)

theorem succeeds_durableReplace {target : ManagedFile} (h : (disk.files file).isSome) :
    Succeeds (durableReplace file target) disk () (moveFile file target disk) :=
  succeeds_bind (succeeds_reading (demand_eq_ok.mpr h)) (succeeds_writing _ _)

theorem succeeds_durableCopyContents {content : ExpertDisk → Option String} {copied : String}
    (hvacant : disk.files file = none)
    (hcontent : content (putFile file (some torn) disk) = some copied) :
    Succeeds (durableCopyContents torn content file) disk () (putFile file (some copied) disk) := by
  refine succeeds_bind (succeeds_reading (demand_eq_ok.mpr hvacant)) ?_
  refine succeeds_bind (succeeds_writing _ _) (succeeds_tryCatch ?_)
  refine succeeds_bind (succeeds_reading (orRaise_eq_ok.mpr hcontent)) ?_
  refine succeeds_bind (succeeds_writing _ _) ?_
  rw [putFile_putFile]
  have hcopied : ((putFile file (some copied) disk).files file).isSome := by
    rw [putFile_self]
    rfl
  exact succeeds_makeWritable hcopied

end Files

/-- The disk on which a rotation computes the code manifest. -/
def rotated (source : String) (disk : ExpertDisk) : ExpertDisk :=
  moveFile .upgrade .bridge
    (putFile .upgrade (some source) (putFile .rollback (disk.files .bridge) disk))

/-- The next rotation can compute the code manifest. -/
def Resealable (checks : SlotChecks) (source : String) (disk : ExpertDisk) : Prop :=
  ∃ code, codeManifest checks (rotated source disk).terminal = .ok code

/-- A digest has 64 hexadecimal digits. -/
def HexDigests (checks : SlotChecks) : Prop := ∀ text, isSha256 (checks.sha256 text)

section Assets

variable {checks : SlotChecks} {disk : ExpertDisk} {cid : String}

theorem HexDigests.length (h : HexDigests checks) (text : String) :
    (checks.sha256 text).length = 64 := (of_decide_eq_true (h text)).1

theorem runtimeAssetsManifest_eq_ok {digest : String}
    (h : runtimeAssetsManifest checks disk = .ok digest) :
    (∀ path ∈ assetDirectories, nodeAt disk.others path = some .directory) ∧
      ∀ file ∈ managedRuntimeAssets, (disk.files file).isSome := by
  unfold runtimeAssetsManifest at h
  obtain ⟨_, hdirectories, h⟩ := except_bind_eq_ok h
  obtain ⟨_, hfiles, _⟩ := except_bind_eq_ok h
  exact ⟨demand_eq_ok.mp hdirectories, demand_eq_ok.mp hfiles⟩

theorem runtimeAssetsManifest_of_present (hdigests : HexDigests checks)
    (hdirectories : ∀ path ∈ assetDirectories, nodeAt disk.others path = some .directory)
    (hfiles : ∀ file ∈ managedRuntimeAssets, (disk.files file).isSome) :
    ∃ digest, runtimeAssetsManifest checks disk = .ok digest ∧ digest.length = 64 := by
  have hmanifest : runtimeAssetsManifest checks disk = .ok (checks.sha256
      ("\n".intercalate (managedRuntimeAssets.map fun file =>
        posixPath file.path ++ ":" ++ checks.sha256 ((disk.files file).getD "")))) := by
    unfold runtimeAssetsManifest
    rw [demand_eq_ok.mpr hdirectories, demand_eq_ok.mpr hfiles]
    rfl
  exact ⟨_, hmanifest, hdigests.length _⟩

theorem validateUncoded_eq_ok {record : RuntimeRecord} :
    validateUncoded cid disk = .ok record ↔ disk.record = some record ∧
      record.connectionId = some cid ∧ record.status = some "provisioned" := by
  constructor
  · intro h
    unfold validateUncoded at h
    obtain ⟨found, hfound, h⟩ := except_bind_eq_ok h
    obtain ⟨_, hvalid, h⟩ := except_bind_eq_ok h
    have hsame := Except.ok.inj h
    subst hsame
    exact ⟨orRaise_eq_ok.mp hfound, demand_eq_ok.mp hvalid⟩
  · intro h
    unfold validateUncoded
    rw [orRaise_eq_ok.mpr h.1]
    show (demand _ _ >>= fun _ => pure record) = _
    rw [demand_eq_ok.mpr h.2]
    rfl

/-- The pin holds: it is there, and it is the manifest of the files on disk. -/
theorem validateRuntimeAssets_eq_ok (hdigests : HexDigests checks) {digest : String} :
    validateRuntimeAssets checks cid disk = .ok digest ↔
      (∃ record, validateUncoded cid disk = .ok record ∧
        record.runtimeAssetsManifestSha256 = some digest) ∧
      runtimeAssetsManifest checks disk = .ok digest := by
  constructor
  · intro h
    unfold validateRuntimeAssets at h
    obtain ⟨record, hrecord, h⟩ := except_bind_eq_ok h
    obtain ⟨recorded, hrecorded, h⟩ := except_bind_eq_ok h
    obtain ⟨_, _, h⟩ := except_bind_eq_ok h
    obtain ⟨actual, hactual, h⟩ := except_bind_eq_ok h
    obtain ⟨_, hequal, h⟩ := except_bind_eq_ok h
    have hsame := Except.ok.inj h
    subst hsame
    have hrecorded' := orRaise_eq_ok.mp hrecorded
    rw [← demand_eq_ok.mp hequal] at hrecorded'
    exact ⟨⟨record, hrecord, hrecorded'⟩, hactual⟩
  · intro h
    obtain ⟨⟨record, hrecord, hrecorded⟩, hactual⟩ := h
    obtain ⟨hdirectories, hfiles⟩ := runtimeAssetsManifest_eq_ok hactual
    obtain ⟨same, hsame, hlength⟩ := runtimeAssetsManifest_of_present hdigests hdirectories hfiles
    have heq := Except.ok.inj (hsame.symm.trans hactual)
    subst heq
    unfold validateRuntimeAssets
    rw [hrecord]
    show (orRaise record.runtimeAssetsManifestSha256 pinMissing >>= _) = _
    rw [orRaise_eq_ok.mpr hrecorded]
    show (demand _ _ >>= _) = _
    rw [demand_eq_ok.mpr hlength]
    show (runtimeAssetsManifest checks disk >>= _) = _
    rw [hactual]
    show (demand _ _ >>= _) = _
    rw [demand_eq_ok.mpr rfl]
    rfl

/-- A digest is already in the spelling to which a rotation brings its argument. -/
theorem normalised_of_isSha256 {text : String} (h : isSha256 text) :
    String.ofList ((stripText text).toList.map Char.toLower) = text := by
  have hhex : ∀ c ∈ text.toList, ¬ isPySpace c ∧ c.toLower = c := by
    intro c hc
    have hall := List.all_eq_true.mp (of_decide_eq_true h).2 c hc
    have hrange : (48 ≤ c.toNat ∧ c.toNat ≤ 57) ∨ (97 ≤ c.toNat ∧ c.toNat ≤ 102) := by
      simp only [isLowerHex, Char.isDigit, Bool.decide_or, Bool.or_eq_true, decide_eq_true_eq,
        Bool.and_eq_true, ge_iff_le, UInt32.le_iff_toNat_le, Char.le_def] at hall
      exact hall
    constructor
    · simp [isPySpace]
      omega
    · obtain hsame | ⟨hlow, hhigh, _⟩ := toLower_cases c
      · exact hsame
      · omega
  have htrimmed : Trimmed text.toList := by
    constructor
    · intro c hc
      exact (hhex c (List.mem_of_mem_head? hc)).1
    · intro c hc
      exact (hhex c (List.mem_of_getLast? hc)).1
  rw [(stripText_eq_self_iff text).mpr htrimmed]
  have hmap : text.toList.map Char.toLower = text.toList := by
    conv_rhs => rw [← List.map_id text.toList]
    exact List.map_congr_left fun c hc => (hhex c hc).2
  rw [hmap, String.ofList_toList]

end Assets

end TradeJournalWorker
