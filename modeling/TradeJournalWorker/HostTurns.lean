import TradeJournalWorker.HostSystem

namespace TradeJournalWorker

open HostPhase

/-- The phases of the running hosts, the PID file and the phases of the open stop calls fit
together: one host is in flight, the file names it once it is registered, whoever else is
starting has read its PID, and it is the one that every stop call waits for. -/
structure Exclusive (phases : Nat → Option HostPhase) (pidFile : Option Nat)
    (stopping : StopPhase → Prop) : Prop where
  registered : ∀ pid, phases pid = some .registered → pidFile = some pid
  alone : ∀ pid pid' phase phase', pid ≠ pid' → phases pid = some phase →
    phases pid' = some phase' → phase.InFlight → ¬phase'.InFlight
  reading : ∀ pid read pid' phase', pid' ≠ pid → phases pid = some (.reading read) →
    phases pid' = some phase' → ¬phase'.Starting ∧ (phase'.InFlight → read = pid')
  watched : ∀ stop, stopping stop → stop ≠ .idle → ∀ pid phase, phases pid = some phase →
    ¬phase.Starting ∧ (phase = .registered → stop = .watching pid)

namespace Exclusive

variable {phases : Nat → Option HostPhase} {pidFile : Option Nat} {stopping : StopPhase → Prop}
  {pid : Nat}

theorem update_cases {phase : Option HostPhase} {other : Nat} {found : HostPhase}
    (h : Function.update phases pid phase other = some found) :
    (other = pid ∧ phase = some found) ∨ (other ≠ pid ∧ phases other = some found) := by
  by_cases heq : other = pid
  · subst heq
    rw [Function.update_self] at h
    exact .inl ⟨rfl, h⟩
  · rw [Function.update_of_ne heq] at h
    exact .inr ⟨heq, h⟩

/-- A host that neither starts nor is in flight, or is not there at all. -/
theorem calm (h : Exclusive phases pidFile stopping) {phase : Option HostPhase}
    (hcalm : ∀ found, phase = some found → ¬found.Starting ∧ ¬found.InFlight) :
    Exclusive (Function.update phases pid phase) pidFile stopping where
  registered other hother := by
    obtain ⟨_, hsame⟩ | ⟨_, hold⟩ := update_cases hother
    · exact absurd (.inr (.inl rfl)) (hcalm _ hsame).2
    · exact h.registered other hold
  alone first second phase₁ phase₂ hne h₁ h₂ hflight := by
    obtain ⟨_, hsame⟩ | ⟨_, hold₁⟩ := update_cases h₁
    · exact absurd hflight (hcalm _ hsame).2
    · obtain ⟨_, hsame⟩ | ⟨_, hold₂⟩ := update_cases h₂
      · exact (hcalm _ hsame).2
      · exact h.alone first second phase₁ phase₂ hne hold₁ hold₂ hflight
  reading reader read other phase' hne hreader hother := by
    obtain ⟨_, hsame⟩ | ⟨_, hold⟩ := update_cases hreader
    · exact absurd (.inr ⟨read, rfl⟩) (hcalm _ hsame).1
    · obtain ⟨_, hsame⟩ | ⟨_, hold'⟩ := update_cases hother
      · exact ⟨(hcalm _ hsame).1, fun hflight => absurd hflight (hcalm _ hsame).2⟩
      · exact h.reading reader read other phase' hne hold hold'
  watched stop hstop hidle other phase' hother := by
    obtain ⟨_, hsame⟩ | ⟨_, hold⟩ := update_cases hother
    · refine ⟨(hcalm _ hsame).1, ?_⟩
      rintro rfl
      exact absurd (.inr (.inl rfl)) (hcalm _ hsame).2
    · exact h.watched stop hstop hidle other phase' hold

/-- When a host may start, the others are calm or registered. -/
structure Free (phases : Nat → Option HostPhase) (stopping : StopPhase → Prop) (pid : Nat) :
    Prop where
  others : ∀ other phase, other ≠ pid → phases other = some phase →
    ¬(phase.Starting ∨ phase = .leaving)
  stops : ∀ stop, stopping stop → stop = .idle

theorem read_none (h : Exclusive phases none stopping) (hfree : Free phases stopping pid) :
    Exclusive (Function.update phases pid (some .past)) none stopping := by
  have hquiet : ∀ other phase, other ≠ pid → phases other = some phase → ¬phase.InFlight := by
    rintro other phase hne hother (rfl | rfl | rfl)
    · exact hfree.others other _ hne hother (.inl (.inl rfl))
    · cases h.registered other hother
    · exact hfree.others other _ hne hother (.inr rfl)
  refine ⟨?_, ?_, ?_, fun stop hstop hidle => absurd (hfree.stops stop hstop) hidle⟩
  · intro other hother
    obtain ⟨_, hsame⟩ | ⟨_, hold⟩ := update_cases hother
    · cases hsame
    · exact h.registered other hold
  · intro first second phase₁ phase₂ hne h₁ h₂ hflight
    obtain ⟨rfl, _⟩ | ⟨hne₁, hold₁⟩ := update_cases h₁
    · obtain ⟨rfl, _⟩ | ⟨hne₂, hold₂⟩ := update_cases h₂
      · exact absurd rfl hne
      · exact hquiet second phase₂ hne₂ hold₂
    · exact absurd hflight (hquiet first phase₁ hne₁ hold₁)
  · intro reader read other phase' hne hreader hother
    obtain ⟨_, hsame⟩ | ⟨hne', hold⟩ := update_cases hreader
    · cases hsame
    · exact absurd (.inl (.inr ⟨read, rfl⟩)) (hfree.others reader _ hne' hold)

theorem read_some {read : Nat} (h : Exclusive phases (some read) stopping)
    (hfree : Free phases stopping pid) :
    Exclusive (Function.update phases pid (some (.reading read))) (some read) stopping := by
  refine ⟨?_, ?_, ?_, fun stop hstop hidle => absurd (hfree.stops stop hstop) hidle⟩
  · intro other hother
    obtain ⟨_, hsame⟩ | ⟨_, hold⟩ := update_cases hother
    · cases hsame
    · exact h.registered other hold
  · intro first second phase₁ phase₂ hne h₁ h₂ hflight
    obtain ⟨_, hsame⟩ | ⟨_, hold₁⟩ := update_cases h₁
    · cases hsame
      rcases hflight with hfalse | hfalse | hfalse <;> cases hfalse
    · obtain ⟨_, hsame⟩ | ⟨_, hold₂⟩ := update_cases h₂
      · cases hsame
        rintro (hfalse | hfalse | hfalse) <;> cases hfalse
      · exact h.alone first second phase₁ phase₂ hne hold₁ hold₂ hflight
  · intro reader found other phase' hne hreader hother
    obtain ⟨rfl, hsame⟩ | ⟨hne', hold⟩ := update_cases hreader
    · cases hsame
      obtain ⟨rfl, _⟩ | ⟨hne', hold'⟩ := update_cases hother
      · exact absurd rfl hne
      · have hcalm := hfree.others other phase' hne' hold'
        refine ⟨fun hstarting => hcalm (.inl hstarting), ?_⟩
        rintro (rfl | rfl | rfl)
        · exact absurd (.inl (.inl rfl)) hcalm
        · exact Option.some.inj (h.registered other hold')
        · exact absurd (.inr rfl) hcalm
    · exact absurd (.inl (.inr ⟨found, rfl⟩)) (hfree.others reader _ hne' hold)

/-- The check passes once the host that was read about is gone. -/
theorem pass {read : Nat} (h : Exclusive phases pidFile stopping)
    (hpid : phases pid = some (.reading read)) (hgone : phases read = none) :
    Exclusive (Function.update phases pid (some .past)) pidFile stopping := by
  have hquiet : ∀ other phase, other ≠ pid → phases other = some phase →
      ¬phase.Starting ∧ ¬phase.InFlight := by
    intro other phase hne hother
    obtain ⟨hstarting, hflight⟩ := h.reading pid read other phase hne hpid hother
    refine ⟨hstarting, fun hin => ?_⟩
    rw [hflight hin, hother] at hgone
    cases hgone
  refine ⟨?_, ?_, ?_, ?_⟩
  · intro other hother
    obtain ⟨_, hsame⟩ | ⟨_, hold⟩ := update_cases hother
    · cases hsame
    · exact h.registered other hold
  · intro first second phase₁ phase₂ hne h₁ h₂ hflight
    obtain ⟨rfl, _⟩ | ⟨hne₁, hold₁⟩ := update_cases h₁
    · obtain ⟨rfl, _⟩ | ⟨hne₂, hold₂⟩ := update_cases h₂
      · exact absurd rfl hne
      · exact (hquiet second phase₂ hne₂ hold₂).2
    · exact absurd hflight (hquiet first phase₁ hne₁ hold₁).2
  · intro reader found other phase' hne hreader hother
    obtain ⟨_, hsame⟩ | ⟨hne', hold⟩ := update_cases hreader
    · cases hsame
    · exact absurd (.inr ⟨found, rfl⟩) (hquiet reader _ hne' hold).1
  · intro stop hstop hidle
    exact absurd (.inr ⟨read, rfl⟩) (h.watched stop hstop hidle pid _ hpid).1

theorem register (h : Exclusive phases pidFile stopping) (hpid : phases pid = some .past) :
    Exclusive (Function.update phases pid (some .registered)) (some pid) stopping := by
  have hquiet : ∀ other phase, other ≠ pid → phases other = some phase → ¬phase.InFlight :=
    fun other phase hne hother => h.alone pid other .past phase hne.symm hpid hother (.inl rfl)
  refine ⟨?_, ?_, ?_, ?_⟩
  · intro other hother
    obtain ⟨rfl, _⟩ | ⟨hne, hold⟩ := update_cases hother
    · rfl
    · exact absurd (.inr (.inl rfl)) (hquiet other _ hne hold)
  · intro first second phase₁ phase₂ hne h₁ h₂ hflight
    obtain ⟨rfl, _⟩ | ⟨hne₁, hold₁⟩ := update_cases h₁
    · obtain ⟨rfl, _⟩ | ⟨hne₂, hold₂⟩ := update_cases h₂
      · exact absurd rfl hne
      · exact hquiet second phase₂ hne₂ hold₂
    · exact absurd hflight (hquiet first phase₁ hne₁ hold₁)
  · intro reader found other phase' hne hreader hother
    obtain ⟨_, hsame⟩ | ⟨hne', hold⟩ := update_cases hreader
    · cases hsame
    · exact absurd (.inl rfl) (h.reading reader found pid _ hne'.symm hold hpid).1
  · intro stop hstop hidle
    exact absurd (.inl rfl) (h.watched stop hstop hidle pid _ hpid).1

theorem unlink (h : Exclusive phases pidFile stopping)
    (hpid : phases pid = some .registered ∨ phases pid = some .leaving) :
    Exclusive (Function.update phases pid (some .leaving)) none stopping := by
  obtain ⟨phase, hphase, hflight⟩ : ∃ phase, phases pid = some phase ∧ phase.InFlight := by
    rcases hpid with hpid | hpid
    · exact ⟨_, hpid, .inr (.inl rfl)⟩
    · exact ⟨_, hpid, .inr (.inr rfl)⟩
  have hquiet : ∀ other phase', other ≠ pid → phases other = some phase' → ¬phase'.InFlight :=
    fun other phase' hne hother => h.alone pid other phase phase' hne.symm hphase hother hflight
  have hnot : ¬HostPhase.leaving.Starting := by
    rintro (hfalse | ⟨_, hfalse⟩) <;> cases hfalse
  refine ⟨?_, ?_, ?_, ?_⟩
  · intro other hother
    obtain ⟨_, hsame⟩ | ⟨hne, hold⟩ := update_cases hother
    · cases hsame
    · exact absurd (.inr (.inl rfl)) (hquiet other _ hne hold)
  · intro first second phase₁ phase₂ hne h₁ h₂ hin
    obtain ⟨rfl, _⟩ | ⟨hne₁, hold₁⟩ := update_cases h₁
    · obtain ⟨rfl, _⟩ | ⟨hne₂, hold₂⟩ := update_cases h₂
      · exact absurd rfl hne
      · exact hquiet second phase₂ hne₂ hold₂
    · exact absurd hin (hquiet first phase₁ hne₁ hold₁)
  · intro reader found other phase' hne hreader hother
    obtain ⟨_, hsame⟩ | ⟨hne', hold⟩ := update_cases hreader
    · cases hsame
    · obtain ⟨rfl, hsame⟩ | ⟨_, hold'⟩ := update_cases hother
      · cases hsame
        exact ⟨hnot, fun _ => (h.reading reader found other phase hne hold hphase).2 hflight⟩
      · exact h.reading reader found other phase' hne hold hold'
  · intro stop hstop hidle other phase' hother
    obtain ⟨_, hsame⟩ | ⟨_, hold⟩ := update_cases hother
    · cases hsame
      exact ⟨hnot, fun hfalse => nomatch hfalse⟩
    · exact h.watched stop hstop hidle other phase' hold

/-- Without a registered host the PID file may go. -/
theorem clearFile (h : Exclusive phases pidFile stopping)
    (hnone : ∀ other, phases other ≠ some .registered) : Exclusive phases none stopping :=
  ⟨fun other hother => absurd hother (hnone other), h.alone, h.reading, h.watched⟩

/-- A stop call that comes, goes on or goes. -/
theorem stops {stopping' : StopPhase → Prop} (h : Exclusive phases pidFile stopping)
    (hnew : ∀ stop, stopping' stop → stopping stop ∨ (stop ≠ .idle → ∀ other phase,
      phases other = some phase →
        ¬phase.Starting ∧ (phase = .registered → stop = .watching other))) :
    Exclusive phases pidFile stopping' := by
  refine ⟨h.registered, h.alone, h.reading, ?_⟩
  intro stop hstop hidle
  rcases hnew stop hstop with hold | hwatch
  · exact h.watched stop hold hidle
  · exact hwatch hidle

end Exclusive

end TradeJournalWorker
