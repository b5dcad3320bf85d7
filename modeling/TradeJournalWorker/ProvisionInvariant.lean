import TradeJournalWorker.ProvisionJobs

namespace TradeJournalWorker

open FaultProgram

/-- No account has been activated. -/
def Idle (world : AccountWorld) : Prop := world.activated = none

/-- An activated account is there and `_is_protected_instance` sees it. -/
structure Guarded (cid : String) (world : AccountWorld) : Prop where
  survives : Survives world
  shielded : world.activated ≠ none → isProtectedInstance cid world.root = true

theorem Idle.survives {world : AccountWorld} (hidle : Idle world) : Survives world := by
  intro tree htree
  rw [Idle, htree] at hidle
  cases hidle

theorem Idle.guarded {world : AccountWorld} (hidle : Idle world) (cid : String) :
    Guarded cid world := ⟨hidle.survives, fun h => absurd hidle h⟩

theorem Survives.idle {world : AccountWorld} (h : Survives world) (hroot : world.root = none) :
    Idle world := by
  cases hactivated : world.activated with
  | none => exact hactivated
  | some tree =>
    obtain ⟨inst, hinst, -⟩ := h tree hactivated
    rw [hroot] at hinst
    cases hinst

/-- A property of the disk that the work of the handlers keeps as long as only
`writable` statuses are recorded. -/
structure Stable (writable : LocalStatus → Prop) (inv : AccountWorld → Prop) : Prop where
  secrets : ∀ world stored, inv world → inv { world with secrets := stored }
  created : ∀ world, world.root = none → inv world → inv
    { world with
      root := some { tree := world.trees, progress := .missing }, trees := world.trees + 1 }
  recorded : ∀ status connectionId world, writable status → inv world →
    inv (recordStatus status connectionId world)

theorem recordStatus_root (status : LocalStatus) (connectionId : Option String)
    {world : AccountWorld} {inst : Instance} (hroot : world.root = some inst) :
    ∃ after, (recordStatus status connectionId world).root = some after ∧
      after.tree = inst.tree := by
  refine ⟨_, rfl, ?_⟩
  simp [hroot]

theorem recordStatus_survives (status : LocalStatus) (connectionId : Option String)
    {world : AccountWorld} (h : Survives world) :
    Survives (recordStatus status connectionId world) := by
  intro tree htree
  by_cases hconnected : status = .connected
  · simp only [recordStatus, hconnected, if_true, Option.some.injEq] at htree
    exact ⟨_, rfl, htree⟩
  · simp only [recordStatus, hconnected, if_false] at htree
    obtain ⟨inst, hroot, hinst⟩ := h tree htree
    obtain ⟨after, hafter, hsame⟩ := recordStatus_root status connectionId hroot
    exact ⟨after, hafter, hsame.trans hinst⟩

/-- A status outside `FAILED_PROVISION_LOCAL_STATUSES` protects, whatever was there. -/
theorem recordStatus_protected {status : LocalStatus}
    (hstatus : status ∉ failedProvisionLocalStatuses) (cid : String)
    (connectionId : Option String) (world : AccountWorld) :
    isProtectedInstance cid (recordStatus status connectionId world).root = true := by
  simp [recordStatus, isProtectedInstance, hstatus]

theorem stable_survives : Stable (fun _ => True) Survives := by
  refine ⟨fun _ _ h => h, ?_, fun status connectionId _ _ h => ?_⟩
  · intro world hroot h
    have hidle : Idle world := h.idle hroot
    exact Idle.survives hidle
  · exact recordStatus_survives status connectionId h

theorem stable_idle : Stable (fun status => status ≠ .connected) Idle := by
  refine ⟨fun _ _ h => h, fun _ _ h => h, ?_⟩
  intro status connectionId world hstatus h
  simpa [Idle, recordStatus, hstatus] using h

theorem stable_guarded (cid : String) :
    Stable (fun status => status ∉ failedProvisionLocalStatuses) (Guarded cid) := by
  refine ⟨fun _ _ h => ⟨h.survives, h.shielded⟩, ?_, ?_⟩
  · intro world hroot h
    refine Idle.guarded ?_ cid
    exact h.survives.idle hroot
  · intro status connectionId world hstatus h
    exact ⟨recordStatus_survives status connectionId h.survives,
      fun _ => recordStatus_protected hstatus cid connectionId world⟩

/-- A program keeps a property of the disk whatever its environment does. -/
abbrev Keeps {α : Type} (inv : AccountWorld → Prop) (p : AccountProgram α) : Prop :=
  Preserves (fun _ => inv) p

section Keeping

variable {writable : LocalStatus → Prop} {inv : AccountWorld → Prop}

theorem keeps_perform {α : Type} (next : JobEnv → Exit HandlerError α × JobEnv) :
    Keeps inv (Program.perform next) := fun _ _ h => h

theorem keeps_operation : Keeps inv operation := keeps_perform _

theorem keeps_write {next : JobEnv → WriteAnswer HandlerError × JobEnv}
    {f : AccountWorld → AccountWorld} (h : ∀ world, inv world → inv (f world)) :
    Keeps inv (Program.write next f) := by
  apply triple_write
  intro env world hw
  cases (next env).1 with
  | done => exact h world hw
  | failedLate error => exact h world hw
  | failed error => exact hw
  | crash => exact hw

theorem keeps_wrapping (error : HandlerError) {body : AccountProgram Unit}
    (h : Keeps inv body) : Keeps inv (wrapping error body) :=
  preserves_tryCatch h fun _ => preserves_raise error

theorem Stable.progress (hstable : Stable writable inv) {status : LocalStatus}
    (hstatus : writable status) (connectionId : Option String) :
    Keeps inv (TradeJournalWorker.progress status connectionId) := by
  unfold TradeJournalWorker.progress
  refine preserves_bind preserves_getWorld fun world => ?_
  split
  · exact preserves_raise _
  · exact keeps_write fun world hw => hstable.recorded status connectionId world hstatus hw

theorem Stable.checkpoint (hstable : Stable writable inv) (cid : String) {status : LocalStatus}
    (hstatus : writable status) : Keeps inv (TradeJournalWorker.checkpoint cid status) :=
  preserves_bind (keeps_perform _) fun _ => hstable.progress hstatus _

theorem Stable.provisionInstance (hstable : Stable writable inv) :
    Keeps inv TradeJournalWorker.provisionInstance := by
  unfold TradeJournalWorker.provisionInstance
  refine preserves_bind keeps_operation fun _ => ?_
  intro env world hw
  rw [Program.run_bind]
  show inv ((if world.root.isSome then _ else _ : AccountProgram Unit) env world).2.2
  split
  · exact hw
  next hroot =>
    have hnone : world.root = none := by simpa using hroot
    have hcreated := hstable.created world hnone hw
    unfold Program.write
    cases (env.nextWrite).1 with
    | done => exact hcreated
    | failedLate error => exact hcreated
    | failed error => exact hw
    | crash => exact hw

theorem Stable.runBrokerWizard (hstable : Stable writable inv) (cid : String)
    (hfailed : writable .brokerDiscoveryFailed) :
    Keeps inv (TradeJournalWorker.runBrokerWizard cid) := by
  refine preserves_tryCatch keeps_operation fun error => ?_
  split
  · exact preserves_bind (hstable.checkpoint cid hfailed) fun _ => preserves_raise _
  · exact preserves_raise _

theorem keeps_requireWizard (configured : Bool) : Keeps inv (requireWizard configured) := by
  unfold requireWizard
  split
  · exact preserves_pure _
  · exact preserves_raise _

theorem keeps_importBundle (newOnly : Bool) : Keeps inv (importBundle newOnly) := by
  unfold importBundle
  split
  · exact preserves_pure _
  · refine preserves_bind keeps_operation fun _ => preserves_bind keeps_operation fun _ => ?_
    exact preserves_bind keeps_operation fun _ => keeps_operation

theorem Stable.censusBroker (hstable : Stable writable inv) (cid : String) (configured : Bool)
    (hcensusing : writable .censusingBroker) (hfailed : writable .brokerDiscoveryFailed)
    (hcensused : writable .brokerCensused) :
    Keeps inv (TradeJournalWorker.censusBroker cid configured) := by
  refine preserves_bind (keeps_requireWizard configured) fun _ => ?_
  refine preserves_bind (keeps_perform _) fun _ => ?_
  refine preserves_bind (keeps_wrapping _ hstable.provisionInstance) fun _ => ?_
  refine preserves_bind (hstable.progress hcensusing _) fun _ => ?_
  refine preserves_bind keeps_operation fun _ => ?_
  refine preserves_bind (hstable.checkpoint cid hcensusing) fun _ => ?_
  refine preserves_bind (hstable.runBrokerWizard cid hfailed) fun _ => ?_
  refine preserves_bind keeps_operation fun _ => ?_
  refine preserves_bind (hstable.checkpoint cid hcensused) fun _ => ?_
  exact preserves_bind (keeps_wrapping _ keeps_operation) fun _ => keeps_operation

theorem keeps_validateInstance : Keeps inv validateInstance := by
  refine preserves_bind preserves_getWorld fun world => ?_
  split
  · exact preserves_raise _
  · exact keeps_wrapping _ keeps_operation

theorem keeps_setSecrets (hstable : Stable writable inv) (stored : Bool) :
    Keeps inv (Program.modifyWorld fun world : AccountWorld => { world with secrets := stored }) :=
  triple_modifyWorld _ fun _ world hw => hstable.secrets world stored hw

end Keeping

/-- Without an activated account there is nothing a removal could take away. -/
theorem removeRoot_idle : Keeps Idle removeRoot := by
  refine preserves_bind (triple_consult fun _ _ hw => hw) fun answer => ?_
  have hremove : Keeps Idle (Program.modifyWorld removeTree) :=
    triple_modifyWorld _ fun _ _ hw => hw
  have hdamage : ∀ kept, Keeps Idle (Program.modifyWorld (damageTree kept)) :=
    fun kept => triple_modifyWorld _ fun _ _ hw => hw
  cases answer with
  | removed => exact hremove
  | partly kept => exact preserves_bind (hdamage kept) fun _ => preserves_raise _
  | refused => exact preserves_raise _
  | removedLate => exact preserves_bind hremove fun _ => preserves_raise _
  | crash => exact fun _ _ hw => hw
  | crashPartly kept => exact preserves_bind (hdamage kept) fun _ => fun _ _ hw => hw

theorem removeSecrets_idle : Keeps Idle removeSecrets :=
  preserves_bind keeps_operation fun _ => keeps_setSecrets stable_idle false

theorem discardFailedProvision_idle : Keeps Idle discardFailedProvision := by
  refine preserves_bind keeps_operation fun _ => ?_
  exact preserves_bind removeRoot_idle fun _ => removeSecrets_idle

end TradeJournalWorker
