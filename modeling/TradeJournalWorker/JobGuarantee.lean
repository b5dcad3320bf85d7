import TradeJournalWorker.JobTraces

namespace TradeJournalWorker

open FaultProgram

variable {ρ : Type}

theorem texts_complete_of_running {job : Job}
    (h : ¬ ({ job, status := .running } : LocalJobState).texts.any startsSecret) :
    ¬ ({ job, status := .complete } : LocalJobState).texts.any startsSecret := by
  have hcomplete : startsSecret JobStatus.complete.text = false := by decide
  simp only [LocalJobState.texts, List.any_append, List.any_cons, List.any_nil, Option.toList,
    Bool.or_eq_true, not_or, hcomplete] at h ⊢
  exact ⟨⟨h.1.1, h.1.2.1, h.1.2.2.1, h.1.2.2.2.1, Bool.false_ne_true, Bool.false_ne_true⟩,
    Bool.false_ne_true⟩

theorem unfinished_none : Unfinished none := fun _ h => by cases h

theorem unfinished_running (job : Job) : Unfinished (some { job, status := .running }) := by
  intro state h
  cases h
  exact ⟨JobStatus.noConfusion, JobStatus.noConfusion⟩

theorem unfinished_leaseLost (job : Job) : Unfinished (some { job, status := .leaseLost }) := by
  intro state h
  cases h
  exact ⟨JobStatus.noConfusion, JobStatus.noConfusion⟩

/-- A run that takes up no job leaves nothing terminal behind. -/
theorem runOnce_idle {b : JobBehaviour ρ} (h : ¬ b.TakesUp) :
    (runOnce b {}).2.2.trace = [] ∧ Unfinished (runOnce b {}).2.2.file := by
  unfold runOnce
  rw [Program.run_bind, run_callApi]
  cases hclaim : b.claim with
  | crashed => exact ⟨rfl, unfinished_none⟩
  | raised exc => exact ⟨rfl, unfinished_none⟩
  | returned claimed =>
    cases claimed with
    | none => exact ⟨rfl, unfinished_none⟩
    | some job =>
      simp only [Exit.mapError]
      rw [Program.run_bind]
      by_cases hguard : ({ job, status := .running } : LocalJobState).texts.any startsSecret
      · unfold atomicJson
        rw [if_pos hguard]
        exact ⟨rfl, unfinished_none⟩
      · rw [run_atomicJson _ _ _ _ hguard]
        cases hwrite : b.runningWrite with
        | done => exact absurd ⟨job, hclaim, hwrite, hguard⟩ h
        | failed error => exact ⟨rfl, unfinished_none⟩
        | failedLate error => exact ⟨rfl, unfinished_running job⟩
        | crash => exact ⟨rfl, unfinished_none⟩

/-- The `except` branches of `run_once`, by the exit of its `try`. -/
def afterWork (job : Job) (b : JobBehaviour ρ) : Exit JobError Unit → JobWorld ρ → JobWorld ρ
  | .returned _, w => w
  | .raised .leaseLost, w => (recordLeaseLost job b w).2.2
  | .raised (.failure exc), w => (reportFailure job exc b w).2.2
  | .crashed, w => w

theorem runOnce_taken {b : JobBehaviour ρ} (h : b.TakesUp) :
    ∃ job exit w', WorkEnds job b (some { job, status := .running }) exit w' ∧
      (runOnce b {}).2.2 = afterWork job b exit w' := by
  obtain ⟨job, hclaim, hwrite, hguard⟩ := h
  obtain ⟨exit, w', hrun, hends⟩ := workOn_ends (texts_complete_of_running hguard)
    (show ({ file := some { job, status := .running } } : JobWorld ρ).keeperStarted = false from rfl)
    (show Quiet ([] : List (JobEvent ρ)) from fun event he => absurd he List.not_mem_nil)
  refine ⟨job, exit, w', hends, ?_⟩
  unfold runOnce
  rw [Program.run_bind, run_callApi, hclaim]
  simp only [Exit.mapError]
  rw [Program.run_bind, run_atomicJson _ _ _ _ hguard, hwrite]
  show (Program.tryCatch (work job) _ b { file := some { job, status := .running } }).2.2 = _
  unfold Program.tryCatch work
  rw [Program.run_bind, hrun]
  rcases exit with u | error | _
  · rfl
  · cases error <;> rfl
  · rfl

theorem recordLeaseLost_ends (job : Job) (b : JobBehaviour ρ) (w : JobWorld ρ)
    (hfile : Unfinished w.file) :
    (recordLeaseLost job b w).2.2.trace = w.trace ∧ Unfinished (recordLeaseLost job b w).2.2.file := by
  obtain ⟨exit, w', hrun, htrace, hnew⟩ := run_atomicJson_file b w JobBehaviour.leaseLostWrite
    { job, status := .leaseLost }
  have hunfinished : Unfinished w'.file := by
    rcases hnew with hsame | hnew
    · rwa [hsame]
    · rw [hnew]
      exact unfinished_leaseLost job
  unfold recordLeaseLost
  rw [Program.run_bind, hrun]
  rcases exit with u | error | _
  · exact ⟨htrace, hunfinished⟩
  · exact ⟨htrace, hunfinished⟩
  · exact ⟨htrace, hunfinished⟩

theorem afterWork_stopped (job : Job) {b : JobBehaviour ρ} {w : JobWorld ρ}
    {exit : Exit JobError Unit} (hexit : exit = .crashed ∨ exit = .raised .leaseLost)
    (hfile : Unfinished w.file) :
    (afterWork job b exit w).trace = w.trace ∧ Unfinished (afterWork job b exit w).file := by
  rcases hexit with rfl | rfl
  · exact ⟨rfl, hfile⟩
  · exact recordLeaseLost_ends job b w hfile

/-- The end of a run whose `complete` was acknowledged. -/
theorem jobProtocol_acked {job : Job} {b : JobBehaviour ρ} {w : JobWorld ρ}
    {quiet : List (JobEvent ρ)} {result : ρ} {seen : Bool} (hfile : Unfinished w.file)
    (hquiet : Quiet quiet)
    (htrace : w.trace = quiet ++ [.requested (.complete result) seen, .acknowledged (.complete result)])
    {final : JobWorld ρ}
    (hfinal : final = afterWork job b (b.completeWrite.mapError JobError.failure).exit
      ((b.completeWrite.mapError JobError.failure).apply
        (fun world => { world with file := some { job, status := .complete } }) w)) :
    JobProtocol final.trace final.file ↔ ¬ writeRaises b.completeWrite ∧ seen = false := by
  have hack : ∀ file, Unfinished file ∨ (∃ job, file = some { job, status := .complete }) →
      (JobProtocol w.trace file ↔ seen = false) := by
    intro file h
    rw [htrace]
    refine jobProtocol_complete hquiet (Or.inr rfl) (h.imp_right fun hf => ⟨?_, hf⟩)
    exact List.cons_ne_nil _ _
  subst hfinal
  cases hwrite : b.completeWrite with
  | done =>
    rw [and_iff_right (by simp [writeRaises])]
    exact hack _ (Or.inr ⟨job, rfl⟩)
  | crash =>
    rw [and_iff_right (by simp [writeRaises])]
    exact hack _ (Or.inl hfile)
  | failed exc =>
    refine iff_of_false ?_ (fun h => h.1 rfl)
    exact not_jobProtocol_fail_after_complete (reportFailure_ends job exc b w) htrace
  | failedLate exc =>
    refine iff_of_false ?_ (fun h => h.1 rfl)
    exact not_jobProtocol_fail_after_complete (reportFailure_ends job exc b
      { w with file := some { job, status := .complete } }) htrace

/-- A run keeps the protocol exactly when no failed local write follows an acknowledged
`complete` and no terminal request follows a loss the keeper has reported. -/
theorem runOnce_protocol_iff (b : JobBehaviour ρ) :
    JobProtocol (runOnce b {}).2.2.trace (runOnce b {}).2.2.file ↔
      ¬ b.CompleteNotRecorded ∧ ¬ b.LossBeforeComplete ∧ ¬ b.LossBeforeFail := by
  by_cases htakes : b.TakesUp
  case neg =>
    obtain ⟨htrace, hfile⟩ := runOnce_idle htakes
    rw [htrace]
    exact iff_of_true (jobProtocol_nil hfile)
      ⟨fun h => htakes h.1, fun h => htakes h.1, fun h => htakes h.1⟩
  case pos =>
    obtain ⟨job, exit, w', hends, hworld⟩ := runOnce_taken htakes
    have hrunning := unfinished_running job
    cases hends with
    | stopped hexit hreports hfails hfile hquiet =>
      obtain ⟨htrace', hfile'⟩ := afterWork_stopped job (b := b) hexit (hfile ▸ hrunning)
      rw [hworld, htrace']
      exact iff_of_true (jobProtocol_of_quiet hquiet hfile')
        ⟨fun h => hreports h.2.1, fun h => hreports h.2.1, fun h => hfails h.2.1⟩
    | keeperFailed hstarts hkeeper hfile hquiet =>
      have hreports : ¬ b.ReportsResult := fun h => hstarts h.1.1
      have hfails : ¬ b.FailsAtWork := fun h => h.elim (fun h => hstarts h.1) fun h => hstarts h.1.1
      rw [hworld, afterWork, jobProtocol_report (reportFailure_ends job _ b w') (hfile ▸ hrunning)
        hquiet]
      refine iff_of_true ?_
        ⟨fun h => hreports h.2.1, fun h => hreports h.2.1, fun h => hfails h.2.1⟩
      unfold leaseLostAt
      rw [hkeeper, Bool.false_and]
    | failed hreports hfails hkeeper hfile hquiet =>
      rw [hworld, afterWork, jobProtocol_report (reportFailure_ends job _ b w') (hfile ▸ hrunning)
        hquiet, leaseLostAt_started hkeeper, ← Bool.not_eq_true]
      constructor
      · exact fun hseen => ⟨fun h => hreports h.2.1, fun h => hreports h.2.1, fun h => hseen h.2.2⟩
      · exact fun h hseen => h.2.2 ⟨htakes, hfails, hseen⟩
    | unanswered hexit hreports hfails hack hfile hquiet htrace =>
      obtain ⟨htrace', hfile'⟩ := afterWork_stopped job (b := b) hexit (hfile ▸ hrunning)
      rw [hworld, htrace', htrace, jobProtocol_complete hquiet (Or.inl rfl) (Or.inl hfile'),
        ← Bool.not_eq_true]
      constructor
      · exact fun hseen => ⟨fun h => hack h.2.2.1, fun h => hseen h.2.2, fun h => hfails h.2.1⟩
      · exact fun h hseen => h.2.1 ⟨htakes, hreports, hseen⟩
    | acked hreports hfails hack hfile hkeeper hquiet htrace =>
      rw [jobProtocol_acked (hfile ▸ hrunning) hquiet htrace hworld, ← Bool.not_eq_true]
      constructor
      · rintro ⟨hwrite, hseen⟩
        exact ⟨fun h => hwrite h.2.2.2, fun h => hseen h.2.2, fun h => hfails h.2.1⟩
      · intro h
        exact ⟨fun hwrite => h.1 ⟨htakes, hreports, hack, hwrite⟩,
          fun hseen => h.2.1 ⟨htakes, hreports, hseen⟩⟩

section FailAfterComplete

def provisionJob : Job :=
  { jobId := "job", action := "provision", connectionId := "connection", leaseId := "lease" }

/-- Everything answers as it should until the disk is full when `complete` is recorded. -/
def diskFull : JobBehaviour String where
  claim := .returned (some provisionJob)
  runningWrite := .done
  runningResponse := .returned (.object (some "running") none)
  keeperStart := .returned ()
  lossSeen := none
  handler := .returned "result"
  finalHeartbeat := .returned true
  completeResponse := .returned (.object (some "complete") none)
  completeWrite := .failed { typeName := "OSError" }
  leaseLostWrite := .done
  failResponse := .returned (.object (some "failed") none)
  uncertainWrite := .done
  failedWrite := .done
  redactedWrite := .done

theorem not_protocol_disk_full : ¬ ∀ b : JobBehaviour String,
    JobProtocol (runOnce b {}).2.2.trace (runOnce b {}).2.2.file := by
  intro h
  have hone := (h diskFull).oneTerminal
  have htwo : (((runOnce diskFull {}).2.2.trace).filter JobEvent.acksTerminal).length = 2 := by
    decide
  omega

end FailAfterComplete

end TradeJournalWorker
