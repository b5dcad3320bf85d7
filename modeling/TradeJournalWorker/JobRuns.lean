import TradeJournalWorker.JobProtocol

namespace TradeJournalWorker

open FaultProgram

variable {ρ : Type}

theorem quiet_append {a b : List (JobEvent ρ)} (ha : Quiet a) (hb : Quiet b) : Quiet (a ++ b) := by
  intro event hevent
  rcases List.mem_append.mp hevent with h | h
  · exact ha event h
  · exact hb event h

/-- The ends of `workOn`, by how far it got. `keeperFailed` and `failed` raise an
exception before any terminal request; `unanswered` and `acked` requested `complete`. -/
inductive WorkEnds (job : Job) (b : JobBehaviour ρ) (file : Option LocalJobState) :
    Exit JobError Unit → JobWorld ρ → Prop where
  | stopped {exit : Exit JobError Unit} {w' : JobWorld ρ}
      (hexit : exit = .crashed ∨ exit = .raised .leaseLost)
      (hreports : ¬ b.ReportsResult) (hfails : ¬ b.FailsAtWork)
      (hfile : w'.file = file) (hquiet : Quiet w'.trace) : WorkEnds job b file exit w'
  | keeperFailed {exc : Failure} {w' : JobWorld ρ} (hstarts : ¬ b.Starts)
      (hkeeper : w'.keeperStarted = false)
      (hfile : w'.file = file) (hquiet : Quiet w'.trace) :
      WorkEnds job b file (.raised (.failure exc)) w'
  | failed {exc : Failure} {w' : JobWorld ρ} (hreports : ¬ b.ReportsResult)
      (hfails : b.FailsAtWork) (hkeeper : w'.keeperStarted = true)
      (hfile : w'.file = file) (hquiet : Quiet w'.trace) :
      WorkEnds job b file (.raised (.failure exc)) w'
  | unanswered {exit : Exit JobError Unit} {w' : JobWorld ρ} {quiet : List (JobEvent ρ)}
      {result : ρ} (hexit : exit = .crashed ∨ exit = .raised .leaseLost)
      (hreports : b.ReportsResult) (hfails : ¬ b.FailsAtWork)
      (hack : ¬ acknowledges b.completeResponse "complete")
      (hfile : w'.file = file) (hquiet : Quiet quiet)
      (htrace : w'.trace = quiet ++ [.requested (.complete result) (b.lossBy .confirming)]) :
      WorkEnds job b file exit w'
  | acked {w' : JobWorld ρ} {quiet : List (JobEvent ρ)} {result : ρ}
      (hreports : b.ReportsResult) (hfails : ¬ b.FailsAtWork)
      (hack : acknowledges b.completeResponse "complete") (hfile : w'.file = file)
      (hkeeper : w'.keeperStarted = true) (hquiet : Quiet quiet)
      (htrace : w'.trace = quiet ++ [.requested (.complete result) (b.lossBy .confirming),
        .acknowledged (.complete result)]) :
      WorkEnds job b file ((b.completeWrite.mapError JobError.failure).exit)
        ((b.completeWrite.mapError JobError.failure).apply
          (fun world => { world with file := some { job, status := .complete } }) w')

theorem leaseLostAt_started {b : JobBehaviour ρ} {w : JobWorld ρ} (h : w.keeperStarted = true)
    (moment : Moment) : leaseLostAt b w moment = b.lossBy moment := by
  unfold leaseLostAt JobBehaviour.lossBy
  rw [h, Bool.true_and]

theorem run_requireValid (b : JobBehaviour ρ) (w : JobWorld ρ) (moment : Moment) :
    requireValid moment b w =
      (if leaseLostAt b w moment then .raised .leaseLost else .returned (), b, w) := by
  simp only [requireValid, Program.run_bind, Program.getEnv, Program.getWorld]
  split <;> rfl

theorem run_requireHeartbeat (b : JobBehaviour ρ) (w : JobWorld ρ) :
    requireHeartbeat b w =
      (match b.finalHeartbeat with
        | .returned true => .returned ()
        | .returned false => .raised .leaseLost
        | .raised exc => .raised (.failure exc)
        | .crashed => .crashed, b, w) := by
  simp only [requireHeartbeat, Program.run_bind, callApi, Program.perform]
  rcases b.finalHeartbeat with valid | exc | _
  · cases valid <;> rfl
  · rfl
  · rfl

theorem run_startKeeper (b : JobBehaviour ρ) (w : JobWorld ρ) :
    startKeeper b w =
      match b.keeperStart with
      | .returned _ => (.returned (), b, { w with keeperStarted := true })
      | .raised exc => (.raised (.failure exc), b, w)
      | .crashed => (.crashed, b, w) := by
  simp only [startKeeper, Program.run_bind, callApi, Program.perform]
  rcases b.keeperStart with _ | exc | _ <;> rfl

theorem run_handle (b : JobBehaviour ρ) (w : JobWorld ρ) : handle b w = (b.handler, b, w) := rfl

/-- `workOn` after the handler returned `result`. -/
def confirm (job : Job) (result : ρ) : JobProgram ρ Unit := do
  requireValid .handling
  requireHeartbeat
  transition JobBehaviour.completeResponse .confirming (.complete result)
  atomicJson JobBehaviour.completeWrite { job, status := .complete }

theorem confirm_ends {job : Job} {b : JobBehaviour ρ} {w : JobWorld ρ} {result : ρ}
    (hstarts : b.Starts) (hhandler : b.handler = .returned result)
    (hguard : ¬ ({ job, status := .complete } : LocalJobState).texts.any startsSecret)
    (hkeeper : w.keeperStarted = true) (hquiet : Quiet w.trace) :
    ∃ exit w', confirm job result b w = (exit, b, w') ∧ WorkEnds job b w.file exit w' := by
  unfold confirm
  rw [Program.run_bind, run_requireValid, leaseLostAt_started hkeeper]
  by_cases hloss : b.lossBy .handling
  · rw [if_pos hloss]
    refine ⟨_, _, rfl, .stopped (Or.inr rfl) ?_ ?_ rfl hquiet⟩
    · simp [JobBehaviour.ReportsResult, JobBehaviour.Handled, hloss]
    · simp [JobBehaviour.FailsAtWork, JobBehaviour.Handled, hloss, hhandler]
  have hhandled : b.Handled := ⟨hstarts, ⟨result, hhandler⟩, hloss⟩
  rw [if_neg hloss]
  simp only
  rw [Program.run_bind, run_requireHeartbeat]
  cases hbeat : b.finalHeartbeat with
  | crashed =>
    refine ⟨_, _, rfl, .stopped (Or.inl rfl) ?_ ?_ rfl hquiet⟩
    · simp [JobBehaviour.ReportsResult, hbeat]
    · simp [JobBehaviour.FailsAtWork, hbeat, hhandler, raises]
  | raised exc =>
    have hfails : b.FailsAtWork := Or.inr ⟨hhandled, by simp [hbeat, raises]⟩
    refine ⟨_, _, rfl, .failed ?_ hfails hkeeper rfl hquiet⟩
    simp [JobBehaviour.ReportsResult, hbeat]
  | returned valid =>
    have hfails : ¬ b.FailsAtWork := by
      simp [JobBehaviour.FailsAtWork, hbeat, hhandler, raises]
    cases valid with
    | false =>
      refine ⟨_, _, rfl, .stopped (Or.inr rfl) ?_ hfails rfl hquiet⟩
      simp [JobBehaviour.ReportsResult, hbeat]
    | true =>
      have hreports : b.ReportsResult := ⟨hhandled, hbeat⟩
      simp only
      rw [Program.run_bind]
      by_cases hack : acknowledges b.completeResponse "complete"
      · rw [run_transition_acked b w _ _ _ hack, leaseLostAt_started hkeeper]
        simp only
        rw [run_atomicJson _ _ _ _ hguard]
        exact ⟨_, _, rfl, .acked hreports hfails hack rfl hkeeper hquiet rfl⟩
      · obtain ⟨exit, hexit, hrun⟩ := run_transition_refused b w JobBehaviour.completeResponse
          .confirming (.complete result) hack
        rw [hrun, leaseLostAt_started hkeeper]
        rcases hexit with rfl | rfl
        · exact ⟨_, _, rfl, .unanswered (Or.inl rfl) hreports hfails hack rfl hquiet rfl⟩
        · exact ⟨_, _, rfl, .unanswered (Or.inr rfl) hreports hfails hack rfl hquiet rfl⟩

theorem workOn_eq (job : Job) : (workOn job : JobProgram ρ Unit) =
    (transition JobBehaviour.runningResponse .handling .running >>= fun _ => startKeeper >>= fun _ =>
      handle >>= fun result => confirm job result) := rfl

theorem quiet_running (seen : Bool) :
    Quiet [(.requested .running seen : JobEvent ρ), .acknowledged .running] := by
  intro event hevent
  simp only [List.mem_cons, List.not_mem_nil, or_false] at hevent
  rcases hevent with rfl | rfl <;> rfl

theorem workOn_ends {job : Job} {b : JobBehaviour ρ} {w : JobWorld ρ}
    (hguard : ¬ ({ job, status := .complete } : LocalJobState).texts.any startsSecret)
    (hkeeper : w.keeperStarted = false) (hquiet : Quiet w.trace) :
    ∃ exit w', workOn job b w = (exit, b, w') ∧ WorkEnds job b w.file exit w' := by
  rw [workOn_eq, Program.run_bind]
  by_cases hack : acknowledges b.runningResponse "running"
  case neg =>
    have hstarts : ¬ b.Starts := fun h => hack h.1
    obtain ⟨exit, hexit, hrun⟩ := run_transition_refused b w JobBehaviour.runningResponse
      .handling .running hack
    have hstopped : WorkEnds job b w.file exit { w with
        trace := w.trace ++ [.requested .running (leaseLostAt b w .handling)] } := by
      refine .stopped hexit ?_ ?_ rfl (quiet_append hquiet ?_)
      · exact fun h => hstarts h.1.1
      · simp [JobBehaviour.FailsAtWork, JobBehaviour.Handled, hstarts]
      · intro event hevent
        rw [List.mem_singleton.mp hevent]
        rfl
    rw [hrun]
    rcases hexit with rfl | rfl
    · exact ⟨_, _, rfl, hstopped⟩
    · exact ⟨_, _, rfl, hstopped⟩
  case pos =>
    rw [run_transition_acked b w _ _ _ hack]
    simp only
    rw [Program.run_bind, run_startKeeper]
    have hquiet' := quiet_append hquiet (quiet_running (leaseLostAt b w .handling))
    cases hstart : b.keeperStart with
    | crashed =>
      have hstarts : ¬ b.Starts := by simp [JobBehaviour.Starts, hstart]
      refine ⟨_, _, rfl, .stopped (Or.inl rfl) (fun h => hstarts h.1.1) ?_ rfl hquiet'⟩
      simp [JobBehaviour.FailsAtWork, JobBehaviour.Handled, hstarts]
    | raised exc =>
      have hstarts : ¬ b.Starts := by simp [JobBehaviour.Starts, hstart]
      exact ⟨_, _, rfl, .keeperFailed hstarts hkeeper rfl hquiet'⟩
    | returned u =>
      have hstarts : b.Starts := ⟨hack, hstart⟩
      simp only
      rw [Program.run_bind, run_handle]
      cases hhandler : b.handler with
      | crashed =>
        refine ⟨_, _, rfl, .stopped (Or.inl rfl) ?_ ?_ rfl hquiet'⟩
        · simp [JobBehaviour.ReportsResult, JobBehaviour.Handled, hhandler]
        · simp [JobBehaviour.FailsAtWork, JobBehaviour.Handled, hhandler]
      | raised error =>
        have hreports : ¬ b.ReportsResult := by
          simp [JobBehaviour.ReportsResult, JobBehaviour.Handled, hhandler]
        cases error with
        | leaseLost =>
          refine ⟨_, _, rfl, .stopped (Or.inr rfl) hreports ?_ rfl hquiet'⟩
          simp [JobBehaviour.FailsAtWork, JobBehaviour.Handled, hhandler]
        | failure exc =>
          exact ⟨_, _, rfl, .failed hreports (Or.inl ⟨hstarts, exc, hhandler⟩) rfl rfl hquiet'⟩
      | returned result =>
        exact confirm_ends hstarts hhandler hguard rfl hquiet'

/-- The requests and the file of `reportFailure`, whose exit is of no interest here. -/
inductive ReportEnds (b : JobBehaviour ρ) (w : JobWorld ρ) : JobWorld ρ → Prop where
  | refused {w' : JobWorld ρ} {code : String}
      (htrace : w'.trace = w.trace ++ [.requested (.fail code) (leaseLostAt b w .failing)])
      (hfile : w'.file = w.file ∨ ∃ state, w'.file = some state ∧ state.status = .leaseLost) :
      ReportEnds b w w'
  | acked {w' : JobWorld ρ} {code : String}
      (htrace : w'.trace = w.trace ++ [.requested (.fail code) (leaseLostAt b w .failing),
        .acknowledged (.fail code)])
      (hfile : w'.file = w.file ∨ ∃ state, w'.file = some state ∧ state.status = .failed) :
      ReportEnds b w w'

theorem recordFailed_file (job : Job) (exc : Failure) (b : JobBehaviour ρ) (w : JobWorld ρ) :
    ∃ exit w', recordFailed job exc b w = (exit, b, w') ∧ w'.trace = w.trace ∧
      (w'.file = w.file ∨ ∃ state, w'.file = some state ∧ state.status = .failed) := by
  obtain ⟨exit, w', hrun, htrace, hfile⟩ := run_atomicJson_file b w JobBehaviour.failedWrite
    { job, status := .failed, error := some exc.typeName }
  have hfile' : w'.file = w.file ∨ ∃ state, w'.file = some state ∧ state.status = .failed :=
    hfile.imp_right fun h => ⟨_, h, rfl⟩
  unfold recordFailed Program.tryCatch
  rw [hrun]
  rcases exit with u | error | _
  · exact ⟨_, _, rfl, htrace, hfile'⟩
  · cases error with
    | leaseLost => exact ⟨_, _, rfl, htrace, hfile'⟩
    | failure raised =>
      by_cases hvalue : raised.isValueError
      · obtain ⟨exit, w'', hrun', htrace', hfile''⟩ := run_atomicJson_file b w'
          JobBehaviour.redactedWrite { job, status := .failed, error := some "redacted" }
        simp only [hvalue, if_true]
        refine ⟨exit, w'', hrun', htrace'.trans htrace, ?_⟩
        rcases hfile'' with hsame | hnew
        · rwa [hsame]
        · exact Or.inr ⟨_, hnew, rfl⟩
      · simp only [hvalue]
        exact ⟨_, _, rfl, htrace, hfile'⟩
  · exact ⟨_, _, rfl, htrace, hfile'⟩

theorem reportFailure_ends (job : Job) (exc : Failure) (b : JobBehaviour ρ) (w : JobWorld ρ) :
    ReportEnds b w (reportFailure job exc b w).2.2 := by
  unfold reportFailure
  rw [Program.run_bind]
  unfold Program.tryCatch requestFail
  rw [Program.run_bind]
  by_cases hack : acknowledges (b.failResponse) "failed"
  · rw [run_transition_acked b w JobBehaviour.failResponse .failing (.fail (errorCodeOf exc)) hack]
    simp only [Program.run_pure, if_true]
    rw [Program.run_bind]
    obtain ⟨exit, w', hrun, htrace, hfile⟩ := recordFailed_file job exc b { w with
      trace := w.trace ++ [.requested (.fail (errorCodeOf exc)) (leaseLostAt b w .failing),
        .acknowledged (.fail (errorCodeOf exc))] }
    rw [hrun]
    rcases exit with u | error | _
    · exact .acked htrace hfile
    · exact .acked htrace hfile
    · exact .acked htrace hfile
  · obtain ⟨exit, hexit, hrun⟩ := run_transition_refused b w JobBehaviour.failResponse .failing
      (.fail (errorCodeOf exc)) hack
    rw [hrun]
    rcases hexit with rfl | rfl
    · exact .refused rfl (Or.inl rfl)
    · obtain ⟨exit, w', hrun', htrace, hfile⟩ := run_atomicJson_file b { w with
        trace := w.trace ++ [.requested (.fail (errorCodeOf exc)) (leaseLostAt b w .failing)] }
        JobBehaviour.uncertainWrite { job, status := .leaseLost }
      have hfile' : w'.file = w.file ∨ ∃ state, w'.file = some state ∧ state.status = .leaseLost :=
        hfile.imp_right fun h => ⟨_, h, rfl⟩
      simp only [recordUncertain, Program.run_bind, hrun']
      rcases exit with u | error | _
      · exact .refused htrace hfile'
      · exact .refused htrace hfile'
      · exact .refused htrace hfile'

end TradeJournalWorker
