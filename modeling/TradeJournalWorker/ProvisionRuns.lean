import TradeJournalWorker.ProvisionPhases

namespace TradeJournalWorker

open FaultProgram

/-- A provision job that finds an activated account also finds it protected. -/
def ProvisionSafe (cid : String) (world : AccountWorld) : Prop :=
  world.activated ≠ none → isProtectedInstance cid world.root = true

theorem ProvisionSafe.idle {cid : String} {world : AccountWorld} (h : ProvisionSafe cid world)
    (hroot : isProtectedInstance cid world.root ≠ true) : Idle world := by
  by_contra hactivated
  exact hroot (h hactivated)

/-- A protected account is not discarded, neither before the attempt nor after it. -/
theorem provisionFrom_protected (cid : String) (world : AccountWorld) :
    Keeps Survives (provisionFrom cid true world) := by
  have hwithdraw : Keeps Survives (withdrawExisting cid true world) := by
    unfold withdrawExisting
    split
    · exact stable_survives.progress trivial _
    · exact preserves_pure _
  have hfailed : ∀ error, Keeps Survives (provisionFailed cid true error) := by
    intro error
    unfold provisionFailed
    split
    · exact preserves_raise _
    · refine preserves_bind preserves_getWorld fun world => ?_
      rw [Bool.true_or]
      exact preserves_raise _
  refine preserves_bind hwithdraw fun _ => ?_
  refine preserves_bind (preserves_pure ()) fun _ => ?_
  exact preserves_tryCatch (phases_survives.provisionOnce cid) hfailed

/-- What a failed attempt discards has not been activated by it. -/
theorem provisionFailed_guarded (cid : String) (error : HandlerError) :
    Keeps (Guarded cid) (provisionFailed cid false error) := by
  unfold provisionFailed
  split
  · exact preserves_raise _
  · apply triple_read
    intro world
    rw [Bool.false_or]
    split
    · exact triple_raise _ fun env reached h => h.1
    next hroot =>
      have hdiscard : Keeps Idle (do
          wrapping .agent discardFailedProvision
          Program.raise error : AccountProgram Unit) :=
        preserves_bind (keeps_wrapping _ discardFailedProvision_idle) fun _ => preserves_raise _
      refine Triple.weaken hdiscard ?_ fun _ _ reached h => Idle.guarded h cid
      rintro env reached ⟨hguarded, rfl⟩
      exact ProvisionSafe.idle hguarded.shielded hroot

theorem provisionFrom_unprotected (cid : String) (world : AccountWorld) :
    Triple (fun _ => Idle) (provisionFrom cid false world) (fun _ _ => Guarded cid) := by
  have hphases := phases_idle cid
  have hwithdraw : Keeps Idle (withdrawExisting cid false world) := by
    unfold withdrawExisting
    rw [Bool.and_false]
    exact preserves_pure _
  have hstale : Keeps Idle (discardStale false world) := by
    unfold discardStale
    split
    · exact keeps_wrapping _ discardFailedProvision_idle
    · exact preserves_pure _
  refine hphases.lead hwithdraw fun _ => hphases.lead hstale fun _ => ?_
  exact triple_tryCatch (hphases.provisionOnce cid) (fun _ _ _ h => h)
    (fun error => provisionFailed_guarded cid error) (fun _ _ h => h)

theorem provision_survives {cid : String} {env : JobEnv} {world : AccountWorld}
    (h : Survives world) (hsafe : ProvisionSafe cid world) :
    Survives (provision cid env world).2.2 := by
  have hrun : provision cid env world =
      provisionFrom cid (isProtectedInstance cid world.root) world env world := rfl
  rw [hrun]
  cases hroot : isProtectedInstance cid world.root with
  | true => exact provisionFrom_protected cid world env world h
  | false =>
    have hidle : Idle world := hsafe.idle (by rw [hroot]; exact Bool.false_ne_true)
    exact (provisionFrom_unprotected cid world env world hidle).survives

theorem importHistory_survives (newOnly : Bool) : Keeps Survives (importHistory newOnly) := by
  refine preserves_tryFinally ?_ ?_
  · refine preserves_bind (stable_survives.progress trivial none) fun _ => ?_
    refine preserves_bind keeps_operation fun _ => preserves_bind keeps_operation fun _ => ?_
    split
    · exact preserves_pure _
    · exact keeps_operation
  · split
    · exact preserves_pure _
    · refine preserves_bind keeps_operation fun _ => preserves_bind keeps_operation fun _ => ?_
      exact keeps_wrapping _ keeps_operation

theorem historicalSync_survives (cid : String) : Keeps Survives (historicalSync cid) := by
  have hcheckpoint : ∀ status, Keeps Survives (checkpoint cid status) :=
    fun status => stable_survives.checkpoint cid trivial
  have hprogress : ∀ status, Keeps Survives (progress status none) :=
    fun status => stable_survives.progress trivial none
  refine preserves_bind preserves_getEnv fun env => preserves_bind keeps_operation fun _ => ?_
  refine preserves_bind keeps_validateInstance fun _ => preserves_bind keeps_operation fun _ => ?_
  refine preserves_bind (hcheckpoint _) fun _ => preserves_bind keeps_operation fun _ => ?_
  split
  · refine preserves_bind (hprogress _) fun _ => preserves_bind keeps_operation fun _ => ?_
    refine preserves_bind keeps_operation fun _ => preserves_bind (hprogress _) fun _ => ?_
    refine preserves_bind keeps_operation fun _ => preserves_bind keeps_operation fun _ => ?_
    exact hcheckpoint _
  · refine preserves_bind keeps_operation fun _ => ?_
    exact preserves_bind (importHistory_survives _) fun _ => hcheckpoint _

theorem liveSync_survives (cid : String) : Keeps Survives (liveSync cid) := by
  have hcheckpoint : ∀ status, Keeps Survives (checkpoint cid status) :=
    fun status => stable_survives.checkpoint cid trivial
  refine preserves_bind keeps_validateInstance fun _ => preserves_bind keeps_operation fun _ => ?_
  refine preserves_bind (hcheckpoint _) fun _ => preserves_bind keeps_operation fun _ => ?_
  refine preserves_bind keeps_operation fun _ => preserves_bind keeps_operation fun _ => ?_
  exact preserves_bind (keeps_wrapping _ keeps_operation) fun _ => hcheckpoint _

/-- The account is given up before anything of it is removed. -/
theorem deprovision_survives (cid : String) : Keeps Survives (deprovision cid) := by
  have hcheckpoint : ∀ status, Keeps Survives (checkpointIfPresent cid status) := by
    intro status
    refine preserves_bind preserves_getWorld fun world => ?_
    split
    · exact stable_survives.checkpoint cid trivial
    · exact keeps_perform _
  refine preserves_bind (hcheckpoint _) fun _ => preserves_bind (keeps_wrapping _ ?_) fun _ =>
    hcheckpoint _
  refine preserves_bind keeps_operation fun _ => ?_
  have hgivenUp : Triple (fun _ => Survives)
      (Program.modifyWorld fun world : AccountWorld => { world with activated := none } :
        AccountProgram Unit) (fun _ _ => Idle) := triple_modifyWorld _ fun _ _ _ => rfl
  refine triple_bind hgivenUp (fun _ => ?_) (fun _ _ _ h => h.survives) (fun _ _ h => h.survives)
  have hremove : Keeps Idle (do removeRoot; removeSecrets) :=
    preserves_bind removeRoot_idle fun _ => removeSecrets_idle
  exact Triple.weaken hremove (fun _ _ h => h) fun _ _ _ h => Idle.survives h

/-- The condition on one job. -/
def JobSafe (cid : String) (world : AccountWorld) (step : JobStep) : Prop :=
  step.job = .provision → ProvisionSafe cid world

def JobsSafe (cid : String) : AccountWorld → List JobStep → Prop
  | _, [] => True
  | world, step :: rest => JobSafe cid world step ∧ JobsSafe cid (runJob cid world step) rest

theorem runJob_survives {cid : String} {world : AccountWorld} {step : JobStep}
    (h : Survives world) (hsafe : JobSafe cid world step) :
    Survives (runJob cid world step) := by
  obtain ⟨job, env⟩ := step
  cases job with
  | provision => exact provision_survives h (hsafe rfl)
  | historicalSync => exact historicalSync_survives cid env world h
  | liveSync => exact liveSync_survives cid env world h
  | deprovision => exact deprovision_survives cid env world h

theorem runJobs_survives {cid : String} {steps : List JobStep} {world : AccountWorld}
    (h : Survives world) (hsafe : JobsSafe cid world steps) :
    Survives (runJobs cid world steps) := by
  induction steps generalizing world with
  | nil => exact h
  | cons step rest ih => exact ih (runJob_survives h hsafe.1) hsafe.2

/-- From an empty disk, every sequence of jobs whose provisions find an activated
account protected leaves such an account in place. -/
theorem survives_of_jobsSafe (cid : String) (steps : List JobStep)
    (hsafe : JobsSafe cid {} steps) : Survives (runJobs cid {} steps) :=
  runJobs_survives (Idle.survives rfl) hsafe

section Examples

/-- An account is activated, its next history job dies after its first checkpoint, a live
poll brings it back to `connected` and a duplicate provision fails at once. -/
def interruptedHistory : List JobStep :=
  [{ job := .provision }, { job := .historicalSync, env := { writes := [.done, .crash] } },
    { job := .liveSync }, { job := .provision, env := { operations := [.returned (), .raised .agent] } }]

theorem survives_of_jobsSafe_liveSync :
    JobsSafe "c" {} interruptedHistory ∧ Survives (runJobs "c" {} interruptedHistory) := by
  have hsafe : JobsSafe "c" {} interruptedHistory := by
    refine ⟨fun _ h => absurd rfl h, fun h => ?_, fun h => ?_, fun _ _ => ?_, trivial⟩
    · cases h
    · cases h
    · decide
  exact ⟨hsafe, survives_of_jobsSafe "c" interruptedHistory hsafe⟩

/-- Without the live poll the status is still `importing_history`, and the provision that
follows removes the activated account before it does anything else. -/
theorem not_survives_after_interruptedHistory :
    ¬ ∀ (cid : String) (steps : List JobStep), Survives (runJobs cid {} steps) := by
  intro h
  have hlost := h "c" [{ job := .provision },
    { job := .historicalSync, env := { writes := [.done, .crash] } },
    { job := .provision, env := { operations := [.returned (), .returned (), .raised .agent] } }]
  obtain ⟨inst, hroot, -⟩ := hlost 0 (by decide)
  revert hroot
  rw [show (runJobs "c" {} _).root = none from by decide]
  exact fun hroot => by cases hroot

end Examples

end TradeJournalWorker
