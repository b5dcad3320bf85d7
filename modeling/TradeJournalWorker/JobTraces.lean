import TradeJournalWorker.JobRuns

namespace TradeJournalWorker

open FaultProgram

variable {ρ : Type}

theorem quiet_not_acks {event : JobEvent ρ} (h : event.isQuiet) :
    ¬ event.acksTerminal ∧ ¬ event.acksComplete ∧ ¬ event.acksFail ∧ ¬ event.requestsLost := by
  cases event with
  | requested request seen =>
    cases request <;> simp_all [JobEvent.isQuiet, JobEvent.acksTerminal, JobEvent.acksComplete,
      JobEvent.acksFail, JobEvent.requestsLost, TransitionRequest.isTerminal,
      TransitionRequest.isComplete, TransitionRequest.isFail]
  | acknowledged request =>
    cases request <;> simp_all [JobEvent.isQuiet, JobEvent.acksTerminal, JobEvent.acksComplete,
      JobEvent.acksFail, JobEvent.requestsLost, TransitionRequest.isTerminal,
      TransitionRequest.isComplete, TransitionRequest.isFail]

/-- Only what follows the quiet part of a run decides about the protocol. -/
theorem jobProtocol_quiet {quiet tail : List (JobEvent ρ)} {file : Option LocalJobState}
    (hquiet : Quiet quiet) : JobProtocol (quiet ++ tail) file ↔ JobProtocol tail file := by
  have hnone : quiet.filter JobEvent.acksTerminal = [] := by
    rw [List.filter_eq_nil_iff]
    exact fun event hevent => (quiet_not_acks (hquiet event hevent)).1
  have hpair : ∀ later : List (JobEvent ρ), ∀ a ∈ quiet, ∀ c ∈ later,
      a.acksComplete → ¬ c.requestsFail := by
    intro later a ha c _ hacks
    exact absurd hacks (quiet_not_acks (hquiet a ha)).2.1
  have hself : quiet.Pairwise fun earlier later => earlier.acksComplete → ¬ later.requestsFail :=
    List.pairwise_of_forall_mem_list fun a ha c _ hacks =>
      absurd hacks (quiet_not_acks (hquiet a ha)).2.1
  constructor
  · intro h
    refine ⟨?_, (List.pairwise_append.mp h.noFailAfterComplete).2.1, ?_, ?_, ?_⟩
    · have hone := h.oneTerminal
      rwa [List.filter_append, hnone, List.nil_append] at hone
    · exact fun event hevent => h.noTerminalAfterLoss event (List.mem_append_right _ hevent)
    · intro state hfile hstatus
      obtain ⟨event, hevent, hacks⟩ := h.completeAcked state hfile hstatus
      rcases List.mem_append.mp hevent with hq | ht
      · exact absurd hacks (quiet_not_acks (hquiet event hq)).2.1
      · exact ⟨event, ht, hacks⟩
    · intro state hfile hstatus
      obtain ⟨event, hevent, hacks⟩ := h.failedAcked state hfile hstatus
      rcases List.mem_append.mp hevent with hq | ht
      · exact absurd hacks (quiet_not_acks (hquiet event hq)).2.2.1
      · exact ⟨event, ht, hacks⟩
  · intro h
    refine ⟨?_, List.pairwise_append.mpr ⟨hself, h.noFailAfterComplete, hpair tail⟩, ?_, ?_, ?_⟩
    · rw [List.filter_append, hnone, List.nil_append]
      exact h.oneTerminal
    · intro event hevent
      rcases List.mem_append.mp hevent with hq | ht
      · exact (quiet_not_acks (hquiet event hq)).2.2.2
      · exact h.noTerminalAfterLoss event ht
    · intro state hfile hstatus
      obtain ⟨event, hevent, hacks⟩ := h.completeAcked state hfile hstatus
      exact ⟨event, List.mem_append_right _ hevent, hacks⟩
    · intro state hfile hstatus
      obtain ⟨event, hevent, hacks⟩ := h.failedAcked state hfile hstatus
      exact ⟨event, List.mem_append_right _ hevent, hacks⟩

/-- A file without a terminal status asks for no acknowledgement. -/
def Unfinished (file : Option LocalJobState) : Prop :=
  ∀ state, file = some state → state.status ≠ .complete ∧ state.status ≠ .failed

theorem jobProtocol_of_unfinished {trace : List (JobEvent ρ)} {file : Option LocalJobState}
    (hfile : Unfinished file) (hone : (trace.filter JobEvent.acksTerminal).length ≤ 1)
    (hpair : trace.Pairwise fun earlier later => earlier.acksComplete → ¬ later.requestsFail)
    (hlost : ∀ event ∈ trace, ¬ event.requestsLost) : JobProtocol trace file :=
  ⟨hone, hpair, hlost, fun state hs hstatus => absurd hstatus (hfile state hs).1,
    fun state hs hstatus => absurd hstatus (hfile state hs).2⟩

theorem jobProtocol_nil {file : Option LocalJobState} (hfile : Unfinished file) :
    JobProtocol ([] : List (JobEvent ρ)) file :=
  jobProtocol_of_unfinished hfile (by simp) List.Pairwise.nil (by simp)

theorem jobProtocol_of_quiet {trace : List (JobEvent ρ)} {file : Option LocalJobState}
    (hquiet : Quiet trace) (hfile : Unfinished file) : JobProtocol trace file := by
  have h := (jobProtocol_quiet hquiet).mpr (jobProtocol_nil hfile)
  rwa [List.append_nil] at h

/-- A request of `fail` with nothing terminal before it. -/
theorem jobProtocol_report {b : JobBehaviour ρ} {w w' : JobWorld ρ} (h : ReportEnds b w w')
    (hfile : Unfinished w.file) (hquiet : Quiet w.trace) :
    JobProtocol w'.trace w'.file ↔ leaseLostAt b w .failing = false := by
  have hlost : ∀ (code : String) (seen : Bool),
      (.requested (.fail code) seen : JobEvent ρ).requestsLost = seen := fun code seen => rfl
  cases h with
  | refused htrace hnew =>
    rw [htrace, jobProtocol_quiet hquiet]
    constructor
    · intro h
      have := h.noTerminalAfterLoss _ List.mem_cons_self
      rwa [hlost, Bool.not_eq_true] at this
    · intro hseen
      refine jobProtocol_of_unfinished ?_ (by simp [JobEvent.acksTerminal]) (by simp) ?_
      · rcases hnew with hsame | ⟨state, hs, hstatus⟩
        · rwa [hsame]
        · intro other ho
          rw [hs] at ho
          cases ho
          rw [hstatus]
          exact ⟨by decide, by decide⟩
      · intro event hevent
        rw [List.mem_singleton.mp hevent, hlost, hseen]
        exact Bool.false_ne_true
  | acked htrace hnew =>
    rw [htrace, jobProtocol_quiet hquiet]
    constructor
    · intro h
      have := h.noTerminalAfterLoss _ List.mem_cons_self
      rwa [hlost, Bool.not_eq_true] at this
    · intro hseen
      refine ⟨?_, ?_, ?_, ?_, fun state _ _ => ⟨_, List.mem_cons_of_mem _ List.mem_cons_self, rfl⟩⟩
      · simp [JobEvent.acksTerminal, TransitionRequest.isTerminal, TransitionRequest.isFail]
      · simp [JobEvent.acksComplete]
      · intro event hevent
        simp only [List.mem_cons, List.not_mem_nil, or_false] at hevent
        rcases hevent with rfl | rfl
        · rw [hlost, hseen]
          exact Bool.false_ne_true
        · exact Bool.false_ne_true
      · intro state hs hstatus
        rcases hnew with hsame | ⟨failed, hf, hfailed⟩
        · rw [hsame] at hs
          exact absurd hstatus (hfile state hs).1
        · rw [hf] at hs
          cases hs
          rw [hstatus] at hfailed
          cases hfailed

/-- `complete` was requested, and acknowledged or not, and nothing followed. -/
theorem jobProtocol_complete {quiet : List (JobEvent ρ)} {result : ρ} {seen : Bool}
    {answered : List (JobEvent ρ)} {file : Option LocalJobState} (hquiet : Quiet quiet)
    (hanswered : answered = [] ∨ answered = [.acknowledged (.complete result)])
    (hfile : Unfinished file ∨
      (answered ≠ [] ∧ ∃ job, file = some { job, status := .complete })) :
    JobProtocol (quiet ++ .requested (.complete result) seen :: answered) file ↔ seen = false := by
  have hlost : (.requested (.complete result) seen : JobEvent ρ).requestsLost = seen := rfl
  rw [jobProtocol_quiet hquiet]
  constructor
  · intro h
    have := h.noTerminalAfterLoss _ List.mem_cons_self
    rwa [hlost, Bool.not_eq_true] at this
  · intro hseen
    have hnotLost : ∀ event ∈ JobEvent.requested (.complete result) seen :: answered,
        ¬ event.requestsLost := by
      intro event hevent
      rcases List.mem_cons.mp hevent with rfl | hmem
      · rw [hlost, hseen]
        exact Bool.false_ne_true
      · rcases hanswered with rfl | rfl
        · exact absurd hmem List.not_mem_nil
        · rw [List.mem_singleton.mp hmem]
          exact Bool.false_ne_true
    have hone : ((JobEvent.requested (.complete result) seen :: answered).filter
        JobEvent.acksTerminal).length ≤ 1 := by
      rcases hanswered with rfl | rfl
      · simp [JobEvent.acksTerminal]
      · simp [JobEvent.acksTerminal, TransitionRequest.isTerminal, TransitionRequest.isComplete]
    have hpair : (JobEvent.requested (.complete result) seen :: answered).Pairwise
        fun earlier later => earlier.acksComplete → ¬ later.requestsFail := by
      rcases hanswered with rfl | rfl
      · simp
      · simp [JobEvent.acksComplete]
    rcases hfile with hunfinished | ⟨hne, job, hcomplete⟩
    · exact jobProtocol_of_unfinished hunfinished hone hpair hnotLost
    · obtain rfl : answered = [.acknowledged (.complete result)] := by
        rcases hanswered with h | h
        · exact absurd h hne
        · exact h
      refine ⟨hone, hpair, hnotLost, ?_, ?_⟩
      · exact fun state _ _ => ⟨_, List.mem_cons_of_mem _ List.mem_cons_self, rfl⟩
      · intro state hs hstatus
        rw [hcomplete] at hs
        cases hs
        cases hstatus

/-- After an acknowledged `complete` a request of `fail` breaks the protocol. -/
theorem not_jobProtocol_fail_after_complete {b : JobBehaviour ρ} {w w' : JobWorld ρ}
    {quiet : List (JobEvent ρ)} {result : ρ} {seen : Bool} (h : ReportEnds b w w')
    (htrace : w.trace = quiet ++ [.requested (.complete result) seen, .acknowledged (.complete result)]) :
    ¬ JobProtocol w'.trace w'.file := by
  have horder : ∀ (code : String) (rest : List (JobEvent ρ)),
      w'.trace = w.trace ++ .requested (.fail code) (leaseLostAt b w .failing) :: rest →
      ¬ JobProtocol w'.trace w'.file := by
    intro code rest hw hprotocol
    have hpair := hprotocol.noFailAfterComplete
    rw [hw, List.pairwise_append] at hpair
    have hack : (.acknowledged (.complete result) : JobEvent ρ) ∈ w.trace := by
      rw [htrace]
      exact List.mem_append_right _ (List.mem_cons_of_mem _ List.mem_cons_self)
    exact hpair.2.2 _ hack _ List.mem_cons_self rfl rfl
  cases h with
  | refused hw _ => exact horder _ _ hw
  | acked hw _ => exact horder _ _ hw

end TradeJournalWorker
