import TradeJournalWorker.EvidenceAssembler
import TradeJournalWorker.ExceptFolds

namespace TradeJournalWorker.Assembly

open FaultProgram Lab

section Steps

variable {α β : Type} {world : OutputFiles}

def StepsDone (count : Nat) (steps : List Answer) : Prop :=
  ∀ answer ∈ steps.take count, answer = .done

/-- The run did not return, and the output is as it was. -/
def Stops (world : OutputFiles) (run : Exit AssemblyFailure α × AssemblyFaults × OutputFiles) :
    Prop :=
  (∀ value, run.1 ≠ .returned value) ∧ run.2.2 = world

/-- With these files in the output the program takes so many operations that the output does not
show, and it returns the value when they all succeed. -/
def TakesAt (world : OutputFiles) (p : AssemblyProgram α) (count : Nat) (value : Option α) : Prop :=
  ∀ faults : AssemblyFaults,
    (∃ found, value = some found ∧ StepsDone count faults.steps ∧
      p faults world = (.returned found, { faults with steps := faults.steps.drop count }, world)) ∨
    ¬ (value.isSome ∧ StepsDone count faults.steps) ∧ Stops world (p faults world)

theorem stops_raised {faults : AssemblyFaults} (failure : AssemblyFailure) :
    Stops world ((.raised failure, faults, world) : Exit AssemblyFailure α × _ × _) := by
  refine ⟨?_, rfl⟩
  intro value h
  cases h

theorem stops_crashed {faults : AssemblyFaults} :
    Stops world ((.crashed, faults, world) : Exit AssemblyFailure α × _ × _) := by
  refine ⟨?_, rfl⟩
  intro value h
  cases h

theorem stepsDone_add {m n : Nat} {steps : List Answer} :
    StepsDone (m + n) steps ↔ StepsDone m steps ∧ StepsDone n (steps.drop m) := by
  unfold StepsDone
  rw [List.take_add]
  constructor
  · intro h
    exact ⟨fun answer hanswer => h answer (List.mem_append_left _ hanswer),
      fun answer hanswer => h answer (List.mem_append_right _ hanswer)⟩
  · intro h answer hanswer
    rcases List.mem_append.mp hanswer with hanswer | hanswer
    · exact h.1 answer hanswer
    · exact h.2 answer hanswer

theorem stops_bind {p : AssemblyProgram α} {f : α → AssemblyProgram β} {faults : AssemblyFaults}
    (h : Stops world (p faults world)) : Stops world ((p >>= f) faults world) := by
  obtain ⟨hstop, hworld⟩ := h
  rw [Program.run_bind]
  rcases hrun : p faults world with ⟨exit, faults', world'⟩
  rw [hrun] at hstop hworld
  cases hworld
  cases exit with
  | returned value => exact absurd rfl (hstop value)
  | raised failure => exact stops_raised failure
  | crashed => exact stops_crashed

theorem takes_pure (value : α) : TakesAt world (pure value) 0 (some value) := by
  intro faults
  exact Or.inl ⟨value, rfl, by simp [StepsDone], rfl⟩

theorem takes_attempt (result : Assembled α) : TakesAt world (attempt result) 0 result.toOption := by
  intro faults
  cases result with
  | ok value => exact takes_pure value faults
  | error failure => exact Or.inr ⟨by simp [Except.toOption], stops_raised failure⟩

theorem takes_getWorld : TakesAt world Program.getWorld 0 (some world) := by
  intro faults
  exact Or.inl ⟨world, rfl, by simp [StepsDone], rfl⟩

theorem takes_step : TakesAt world step 1 (some ()) := by
  intro faults
  obtain ⟨steps, report, renames, removals, cleanup⟩ := faults
  cases steps with
  | nil => exact Or.inl ⟨(), rfl, by simp [StepsDone], rfl⟩
  | cons answer rest =>
    cases answer with
    | done => exact Or.inl ⟨(), rfl, by simp [StepsDone], rfl⟩
    | failed failure => exact Or.inr ⟨by simp [StepsDone], stops_raised failure⟩
    | failedLate failure => exact Or.inr ⟨by simp [StepsDone], stops_raised failure⟩
    | crash => exact Or.inr ⟨by simp [StepsDone], stops_crashed⟩

theorem takes_bind {p : AssemblyProgram α} {f : α → AssemblyProgram β} {m n : Nat} {x : Option α}
    {y : α → Option β} (hp : TakesAt world p m x)
    (hf : ∀ value, x = some value → TakesAt world (f value) n (y value)) :
    TakesAt world (p >>= f) (m + n) (x.bind y) := by
  intro faults
  rcases hp faults with ⟨found, rfl, hdone, hrun⟩ | ⟨hnot, hstop⟩
  · rw [Program.run_bind_returned hrun]
    rcases hf found rfl { faults with steps := faults.steps.drop m } with
      ⟨other, hother, hrest, hrun⟩ | ⟨hnot, hstop⟩
    · refine Or.inl ⟨other, hother, stepsDone_add.mpr ⟨hdone, hrest⟩, ?_⟩
      rw [hrun]
      simp only [List.drop_drop]
    · refine Or.inr ⟨?_, hstop⟩
      intro h
      exact hnot ⟨h.1, (stepsDone_add.mp h.2).2⟩
  · refine Or.inr ⟨?_, stops_bind hstop⟩
    intro h
    refine hnot ⟨?_, (stepsDone_add.mp h.2).1⟩
    cases x with
    | none => cases h.1
    | some found => rfl

theorem takes_step_then {p : AssemblyProgram β} {n : Nat} {y : Option β} (hp : TakesAt world p n y) :
    TakesAt world (step >>= fun _ => p) (1 + n) y :=
  takes_bind (y := fun _ => y) takes_step fun _ _ => hp

end Steps

section Staging

variable {env : AssemblyEnv} {runId : String} {prepared : Prepared} {world : OutputFiles}

/-- A prepared file as it stands in the stage. -/
def stagedFile (env : AssemblyEnv) (file : PreparedFile) : Option (ManifestEntry × List UInt8) :=
  file.bytes.map fun bytes => (⟨file.role, file.path, env.lab.sha256 bytes, bytes.length⟩, bytes)

def stagedFiles (env : AssemblyEnv) : List PreparedFile → Option (List (ManifestEntry × List UInt8))
  | [] => some []
  | file :: rest =>
    (stagedFile env file).bind fun staged => (stagedFiles env rest).map fun others => staged :: others

theorem takes_stageFile (file : PreparedFile) :
    TakesAt world (stageFile env file) 1 (stagedFile env file) := by
  show TakesAt world (stageFile env file) (1 + 0) ((some ()).bind fun _ => stagedFile env file)
  unfold stageFile
  refine takes_bind takes_step fun _ _ => ?_
  unfold stagedFile
  cases file.bytes with
  | none => exact takes_attempt (.error .otherError)
  | some bytes => exact takes_pure _

theorem takes_stageFiles (files : List PreparedFile) :
    TakesAt world (stageFiles env files) files.length (stagedFiles env files) := by
  induction files with
  | nil => exact takes_pure []
  | cons file rest ih =>
    have hrest : ∀ staged, stagedFile env file = some staged →
        TakesAt world (stageFiles env rest >>= fun others => pure (staged :: others)) rest.length
          ((stagedFiles env rest).map fun others => staged :: others) := by
      intro staged _
      rw [Option.map_eq_bind]
      exact takes_bind ih fun others _ => takes_pure (staged :: others)
    have hboth := takes_bind (takes_stageFile file) hrest
    rw [Nat.add_comm] at hboth
    exact hboth

/-- The files that a run publishes where nothing stands in their way. -/
def plannedTargets (env : AssemblyEnv) (runId : String) (prepared : Prepared)
    (taken : List String) : Option (List (String × List UInt8)) :=
  (stagedFiles env prepared.files).bind fun staged =>
    (requireFree (publicationTargets env runId prepared staged) taken).toOption.bind fun _ =>
      some (publicationTargets env runId prepared staged)

theorem takes_stageRun : TakesAt world (stageRun env runId prepared) (prepared.files.length + 3)
    (plannedTargets env runId prepared world.keys) := by
  apply takes_bind (n := 3) (takes_stageFiles prepared.files)
  intro staged _
  have hlast := takes_step_then
    (@takes_pure _ world (publicationTargets env runId prepared staged))
  have hfree := takes_bind (y := fun _ => some _)
    (@takes_attempt Unit world (requireFree (publicationTargets env runId prepared staged)
      world.keys)) fun _ _ => hlast
  have hread := takes_bind (f := fun output => do
      attempt (requireFree (publicationTargets env runId prepared staged) output.keys)
      step
      pure (publicationTargets env runId prepared staged)) (y := fun output =>
        (requireFree (publicationTargets env runId prepared staged) output.keys).toOption.bind
          fun _ => some (publicationTargets env runId prepared staged)) (n := 1)
    (@takes_getWorld world) (by
      intro output houtput
      cases houtput
      exact hfree)
  exact takes_step_then (takes_step_then hread)

theorem plannedTargets_eq_some {taken : List String} {targets : List (String × List UInt8)} :
    plannedTargets env runId prepared taken = some targets ↔
      ∃ staged, stagedFiles env prepared.files = some staged ∧
        targets = publicationTargets env runId prepared staged ∧
        ∀ target ∈ targets, target.1 ∉ taken := by
  unfold plannedTargets requireFree
  cases stagedFiles env prepared.files with
  | none => simp
  | some staged =>
    by_cases htaken : ∃ target ∈ publicationTargets env runId prepared staged, target.1 ∈ taken
    · simp only [Option.bind_some, if_pos htaken, refuse, Except.toOption, Option.bind_none,
        Option.some.injEq]
      constructor
      · intro h
        cases h
      · intro h
        obtain ⟨other, rfl, rfl, hfree⟩ := h
        obtain ⟨target, htarget, hmem⟩ := htaken
        exact absurd hmem (hfree target htarget)
    · simp only [Option.bind_some, if_neg htaken, Except.toOption, Option.some.injEq]
      constructor
      · intro h
        subst h
        exact ⟨staged, rfl, rfl, fun target htarget hmem => htaken ⟨target, htarget, hmem⟩⟩
      · intro h
        obtain ⟨other, rfl, htargets, -⟩ := h
        exact htargets.symm

end Staging

section Rollback

variable {base output : OutputFiles} {faults : AssemblyFaults}

def setAll (output : OutputFiles) (targets : List (String × List UInt8)) : OutputFiles :=
  targets.foldl (fun output target => output.set target.1 target.2) output

/-- The removal took the file away. -/
def takesEffect : Answer → Bool
  | .done => true
  | .failed _ => false
  | .failedLate _ => true
  | .crash => false

theorem erase_set_of_notMem {path : String} {bytes : List UInt8} (h : path ∉ output.keys) :
    (output.set path bytes).erase path = output := by
  obtain ⟨entries, nodup⟩ := output
  have hkeys : path ∉ entries.map Prod.fst := h
  have hkept : entries.filter (fun entry => entry.1 ≠ path) = entries := by
    apply List.filter_eq_self.mpr
    intro entry hentry
    apply decide_eq_true
    intro heq
    exact hkeys (heq ▸ List.mem_map_of_mem hentry)
  have hentries : ((⟨entries, nodup⟩ : OutputFiles).set path bytes).entries =
      entries ++ [(path, bytes)] := if_neg hkeys
  have herased : (((⟨entries, nodup⟩ : OutputFiles).set path bytes).erase path).entries =
      entries := by
    show List.filter _ ((⟨entries, nodup⟩ : OutputFiles).set path bytes).entries = entries
    rw [hentries, List.filter_append, hkept]
    simp
  generalize ((⟨entries, nodup⟩ : OutputFiles).set path bytes).erase path = erased at herased
  obtain ⟨found, hfound⟩ := erased
  cases herased
  rfl

theorem mem_keys_erase {path other : String} :
    other ∈ (output.erase path).keys ↔ other ≠ path ∧ other ∈ output.keys := by
  rw [← OrderedDict.isSome_get?_iff, ← OrderedDict.isSome_get?_iff, OrderedDict.get?_erase]
  by_cases heq : other = path
  · simp [heq]
  · simp [heq]

theorem mem_keys_set {path other : String} {bytes : List UInt8} :
    other ∈ (output.set path bytes).keys ↔ other = path ∨ other ∈ output.keys := by
  rw [← OrderedDict.isSome_get?_iff, ← OrderedDict.isSome_get?_iff, OrderedDict.get?_set]
  by_cases heq : other = path
  · simp [heq]
  · simp [heq]

/-- A removal is cut off, or it returns with the file away or still there. -/
theorem removeFile_cases (path : String) (faults : AssemblyFaults) (output : OutputFiles) :
    (faults.nextRemoval.1 = .crash ∧
      removeFile path faults output = (.crashed, faults.nextRemoval.2, output)) ∨
    (takesEffect faults.nextRemoval.1 = true ∧
      removeFile path faults output = (.returned (), faults.nextRemoval.2, output.erase path)) ∨
    (takesEffect faults.nextRemoval.1 = false ∧
      removeFile path faults output = (.returned (), faults.nextRemoval.2, output)) := by
  unfold removeFile Program.tryCatch Program.write
  cases faults.nextRemoval.1 with
  | done => exact Or.inr (Or.inl ⟨rfl, rfl⟩)
  | failed failure => exact Or.inr (Or.inr ⟨rfl, rfl⟩)
  | failedLate failure => exact Or.inr (Or.inl ⟨rfl, rfl⟩)
  | crash => exact Or.inl ⟨rfl, rfl⟩

/-- What a rollback does not name it leaves. -/
theorem mem_keys_rollback {paths : List String} {path : String} (hpath : path ∉ paths) :
    ∀ {faults : AssemblyFaults} {output : OutputFiles}, path ∈ output.keys →
      path ∈ (rollback paths faults output).2.2.keys := by
  induction paths with
  | nil =>
    intro faults output hmem
    exact hmem
  | cons other rest ih =>
    intro faults output hmem
    rw [List.mem_cons, not_or] at hpath
    unfold rollback
    rw [Program.run_bind]
    rcases removeFile_cases other faults output with ⟨-, hrun⟩ | ⟨-, hrun⟩ | ⟨-, hrun⟩
    · rw [hrun]
      exact hmem
    · rw [hrun]
      exact ih hpath.2 (mem_keys_erase.mpr ⟨hpath.1, hmem⟩)
    · rw [hrun]
      exact ih hpath.2 hmem

def AllRemoved (count : Nat) (removals : List Answer) : Prop :=
  ∀ answer ∈ removals.take count, takesEffect answer = true

theorem allRemoved_succ {count : Nat} : AllRemoved (count + 1) faults.removals ↔
    takesEffect faults.nextRemoval.1 = true ∧ AllRemoved count faults.nextRemoval.2.removals := by
  obtain ⟨steps, report, renames, removals, cleanup⟩ := faults
  unfold AllRemoved AssemblyFaults.nextRemoval nextAnswer
  cases removals with
  | nil => simp [takesEffect]
  | cons answer rest => simp

theorem setAll_append (targets : List (String × List UInt8)) (target : String × List UInt8) :
    setAll output (targets ++ [target]) = (setAll output targets).set target.1 target.2 := by
  unfold setAll
  rw [List.foldl_append]
  rfl

theorem mem_keys_setAll {targets : List (String × List UInt8)} {path : String} :
    path ∈ (setAll output targets).keys ↔ path ∈ targets.map Prod.fst ∨ path ∈ output.keys := by
  induction targets using List.reverseRecOn with
  | nil => simp [setAll]
  | append_singleton targets target ih =>
    rw [setAll_append, mem_keys_set, ih, List.map_append, List.mem_append]
    simp [or_left_comm, or_comm]

/-- The files to publish have names of their own, and the output has none of them. -/
structure Fresh (output : OutputFiles) (targets : List (String × List UInt8)) : Prop where
  nodup : (targets.map Prod.fst).Nodup
  free : ∀ target ∈ targets, target.1 ∉ output.keys

theorem Fresh.of_append {targets others : List (String × List UInt8)}
    (h : Fresh output (targets ++ others)) : Fresh output targets where
  nodup := by
    have hnodup := h.nodup
    rw [List.map_append] at hnodup
    exact (List.nodup_append.mp hnodup).1
  free target htarget := h.free target (List.mem_append_left _ htarget)

theorem Fresh.last {targets others : List (String × List UInt8)} {target : String × List UInt8}
    (h : Fresh output (targets ++ target :: others)) : target.1 ∉ (setAll output targets).keys := by
  rw [mem_keys_setAll, not_or]
  constructor
  · have hnodup := h.nodup
    rw [List.map_append, List.map_cons] at hnodup
    intro hmem
    exact (List.nodup_append.mp hnodup).2.2 _ hmem _ List.mem_cons_self rfl
  · exact h.free target (List.mem_append_right _ List.mem_cons_self)

/-- A rollback whose removals all take effect leaves the output as it was. -/
theorem rollback_undone (targets : List (String × List UInt8)) :
    ∀ faults : AssemblyFaults, Fresh base targets → AllRemoved targets.length faults.removals →
      ∃ faults', rollback (targets.map Prod.fst).reverse faults (setAll base targets) =
        (.returned (), faults', base) ∧ faults'.cleanup = faults.cleanup := by
  induction targets using List.reverseRecOn with
  | nil =>
    intro faults _ _
    exact ⟨faults, rfl, rfl⟩
  | append_singleton targets target ih =>
    intro faults hfresh hremoved
    rw [List.length_append, List.length_singleton] at hremoved
    obtain ⟨heffect, hremoved⟩ := allRemoved_succ.mp hremoved
    obtain ⟨faults', hrest, hcleanup⟩ := ih faults.nextRemoval.2 hfresh.of_append hremoved
    refine ⟨faults', ?_, hcleanup⟩
    have hfirst : removeFile target.1 faults (setAll base (targets ++ [target])) =
        (.returned (), faults.nextRemoval.2, setAll base targets) := by
      rw [setAll_append]
      rcases removeFile_cases target.1 faults ((setAll base targets).set target.1 target.2) with
        ⟨hcrash, -⟩ | ⟨-, hrun⟩ | ⟨hkept, -⟩
      · rw [hcrash] at heffect
        cases heffect
      · rw [hrun, erase_set_of_notMem hfresh.last]
      · rw [heffect] at hkept
        cases hkept
    rw [List.map_append, List.reverse_append]
    show (removeFile target.1 >>= fun _ => rollback (targets.map Prod.fst).reverse) faults _ = _
    rw [Program.run_bind_returned hfirst]
    exact hrest

/-- A removal that takes no effect leaves a file. -/
theorem rollback_leaves (paths : List String) :
    ∀ (faults : AssemblyFaults) (output : OutputFiles), paths.Nodup →
      (∀ path ∈ paths, path ∈ output.keys) → ¬ AllRemoved paths.length faults.removals →
      ∃ path ∈ paths, path ∈ (rollback paths faults output).2.2.keys := by
  induction paths with
  | nil =>
    intro faults output _ _ hremoved
    exact absurd (by simp [AllRemoved]) hremoved
  | cons path rest ih =>
    intro faults output hnodup hmem hremoved
    rw [List.nodup_cons] at hnodup
    rw [List.length_cons, allRemoved_succ] at hremoved
    have hself := hmem path List.mem_cons_self
    unfold rollback
    rw [Program.run_bind]
    rcases removeFile_cases path faults output with ⟨-, hrun⟩ | ⟨heffect, hrun⟩ | ⟨-, hrun⟩
    · rw [hrun]
      exact ⟨path, List.mem_cons_self, hself⟩
    · rw [hrun]
      have hothers : ∀ other ∈ rest, other ∈ (output.erase path).keys := by
        intro other hother
        refine mem_keys_erase.mpr ⟨?_, hmem other (List.mem_cons_of_mem _ hother)⟩
        intro heq
        exact hnodup.1 (heq ▸ hother)
      have hrest : ¬ AllRemoved rest.length faults.nextRemoval.2.removals :=
        fun h => hremoved ⟨heffect, h⟩
      obtain ⟨other, hother, hkept⟩ := ih faults.nextRemoval.2 _ hnodup.2 hothers hrest
      exact ⟨other, List.mem_cons_of_mem _ hother, hkept⟩
    · rw [hrun]
      exact ⟨path, List.mem_cons_self, mem_keys_rollback hnodup.1 hself⟩

end Rollback

section Publication

variable {base : OutputFiles}

/-- No late failure of a rename, no crash from the first rename on, and no removal of the rollback
without effect: `rest` renames are to come, `published` are done. -/
def Undisturbed (removals : List Answer) (cleanup : Answer) : Nat → Nat → List Answer → Prop
  | 0, _, _ => cleanup ≠ .crash
  | rest + 1, published, renames =>
    match (nextAnswer .done renames).1 with
    | .done => Undisturbed removals cleanup rest (published + 1) (nextAnswer .done renames).2
    | .failed _ => AllRemoved published removals
    | .failedLate _ => False
    | .crash => published = 0

/-- How the renames end: all done, or nothing left of them, or something left. -/
inductive PublicationEnd (base : OutputFiles) (targets : List (String × List UInt8))
    (cleanup : Answer) (undisturbed : Prop) :
    Exit AssemblyFailure Unit × AssemblyFaults × OutputFiles → Prop
  | complete (faults' : AssemblyFaults) (hcleanup : faults'.cleanup = cleanup)
      (hdecided : undisturbed ↔ cleanup ≠ .crash) :
      PublicationEnd base targets cleanup undisturbed (.returned (), faults', setAll base targets)
  | undone (run : Exit AssemblyFailure Unit × AssemblyFaults × OutputFiles)
      (hstops : Stops base run) (hdecided : undisturbed) :
      PublicationEnd base targets cleanup undisturbed run
  | left (run : Exit AssemblyFailure Unit × AssemblyFaults × OutputFiles)
      (hexit : ∀ value, run.1 ≠ .returned value) (target : String × List UInt8)
      (htarget : target ∈ targets) (hleft : target.1 ∈ run.2.2.keys) (hdecided : ¬ undisturbed) :
      PublicationEnd base targets cleanup undisturbed run

/-- A rollback never returns to the loop. -/
theorem rollback_raises (paths : List String) (failure : AssemblyFailure) (faults : AssemblyFaults)
    (output : OutputFiles) :
    (∀ value : Unit, ((rollback paths >>= fun _ => Program.raise failure :
        AssemblyProgram Unit) faults output).1 ≠ .returned value) ∧
      ((rollback paths >>= fun _ => Program.raise failure :
        AssemblyProgram Unit) faults output).2.2 = (rollback paths faults output).2.2 := by
  rw [Program.run_bind]
  rcases rollback paths faults output with ⟨exit, faults', output'⟩
  cases exit with
  | returned value => exact ⟨by simp [Program.raise], rfl⟩
  | raised error => exact ⟨by simp, rfl⟩
  | crashed => exact ⟨by simp, rfl⟩

/-- A rename that raises ends the run with the rollback. -/
theorem publishAll_raised {target : String × List UInt8} {rest : List (String × List UInt8)}
    {published : List String} {faults faults' : AssemblyFaults} {output output' : OutputFiles}
    {failure : AssemblyFailure}
    (h : durableReplace target.1 target.2 faults output = (.raised failure, faults', output')) :
    (∀ value, (publishAll (target :: rest) published faults output).1 ≠ .returned value) ∧
      (publishAll (target :: rest) published faults output).2.2 =
        (rollback published.reverse faults' output').2.2 := by
  obtain ⟨hexit, houtput⟩ := rollback_raises published.reverse failure faults' output'
  unfold publishAll
  rw [Program.run_bind]
  have hcaught : Program.tryCatch (durableReplace target.1 target.2) (fun failure => do
      rollback published.reverse
      Program.raise failure) faults output =
        (rollback published.reverse >>= fun _ => Program.raise failure : AssemblyProgram Unit)
          faults' output' := by
    unfold Program.tryCatch
    rw [h]
  rw [hcaught]
  rcases hrun : (rollback published.reverse >>= fun _ => Program.raise failure :
    AssemblyProgram Unit) faults' output' with ⟨exit, faults'', output''⟩
  rw [hrun] at hexit houtput
  cases exit with
  | returned value => exact absurd rfl (hexit value)
  | raised error => exact ⟨by simp, houtput⟩
  | crashed => exact ⟨by simp, houtput⟩

theorem publishAll_end (rest : List (String × List UInt8)) :
    ∀ (done : List (String × List UInt8)) (faults : AssemblyFaults), Fresh base (done ++ rest) →
      PublicationEnd base (done ++ rest) faults.cleanup
        (Undisturbed faults.removals faults.cleanup rest.length done.length faults.renames)
        (publishAll rest (done.map Prod.fst) faults (setAll base done)) := by
  induction rest with
  | nil =>
    intro done faults _
    rw [List.append_nil]
    exact .complete faults rfl Iff.rfl
  | cons target rest ih =>
    intro done faults hfresh
    have hbefore := hfresh.of_append
    have hnodup : (done.map Prod.fst).reverse.Nodup := List.nodup_reverse.mpr hbefore.nodup
    have hnext : Undisturbed faults.removals faults.cleanup (target :: rest).length done.length
        faults.renames = match faults.nextRename.1 with
          | .done => Undisturbed faults.removals faults.cleanup rest.length (done.length + 1)
              faults.nextRename.2.renames
          | .failed _ => AllRemoved done.length faults.removals
          | .failedLate _ => False
          | .crash => done.length = 0 := rfl
    have hwrite : durableReplace target.1 target.2 faults (setAll base done) =
        (faults.nextRename.1.exit, faults.nextRename.2, faults.nextRename.1.apply
          (fun output => output.set target.1 target.2) (setAll base done)) := rfl
    have hpublished : ∀ path ∈ (done.map Prod.fst).reverse, path ∈ (setAll base done).keys := by
      intro path hpath
      exact mem_keys_setAll.mpr (Or.inl (List.mem_reverse.mp hpath))
    have hlength : (done.map Prod.fst).reverse.length = done.length := by simp
    cases hanswer : faults.nextRename.1 with
    | done =>
      rw [hanswer] at hnext hwrite
      have hmore := ih (done ++ [target]) faults.nextRename.2 (by simpa using hfresh)
      rw [List.append_assoc, List.singleton_append, List.length_append, List.length_singleton,
        List.map_append, setAll_append] at hmore
      rw [hnext]
      have hrun : publishAll (target :: rest) (done.map Prod.fst) faults (setAll base done) =
          publishAll rest (done.map Prod.fst ++ [target.1]) faults.nextRename.2
            ((setAll base done).set target.1 target.2) := by
        conv_lhs => unfold publishAll
        apply Program.run_bind_returned
        unfold Program.tryCatch
        rw [hwrite]
        rfl
      rw [hrun]
      exact hmore
    | failed failure =>
      rw [hanswer] at hnext hwrite
      rw [hnext]
      obtain ⟨hexit, houtput⟩ := @publishAll_raised target rest (done.map Prod.fst) _ _ _ _ _ hwrite
      by_cases hremoved : AllRemoved done.length faults.removals
      · obtain ⟨faults', hback, -⟩ := rollback_undone done faults.nextRename.2 hbefore hremoved
        refine .undone _ ⟨hexit, ?_⟩ hremoved
        rw [houtput]
        exact congrArg (fun run => run.2.2) hback
      · obtain ⟨path, hpath, hleft⟩ := rollback_leaves (done.map Prod.fst).reverse
          faults.nextRename.2 _ hnodup hpublished (by rw [hlength]; exact hremoved)
        obtain ⟨other, hother, rfl⟩ := List.mem_map.mp (List.mem_reverse.mp hpath)
        refine .left _ hexit other (List.mem_append_left _ hother) ?_ hremoved
        rw [houtput]
        exact hleft
    | failedLate failure =>
      rw [hanswer] at hnext hwrite
      rw [hnext]
      obtain ⟨hexit, houtput⟩ := @publishAll_raised target rest (done.map Prod.fst) _ _ _ _ _ hwrite
      have hnew : target.1 ∉ (done.map Prod.fst).reverse := by
        intro hmem
        exact hfresh.last (mem_keys_setAll.mpr (Or.inl (List.mem_reverse.mp hmem)))
      refine .left _ hexit target (List.mem_append_right _ List.mem_cons_self) ?_ id
      rw [houtput]
      exact mem_keys_rollback hnew (mem_keys_set.mpr (Or.inl rfl))
    | crash =>
      rw [hanswer] at hnext hwrite
      rw [hnext]
      have hrun : publishAll (target :: rest) (done.map Prod.fst) faults (setAll base done) =
          (.crashed, faults.nextRename.2, setAll base done) := by
        unfold publishAll
        rw [Program.run_bind]
        unfold Program.tryCatch
        rw [hwrite]
        rfl
      rw [hrun]
      cases done with
      | nil => exact .undone _ stops_crashed rfl
      | cons first others =>
        refine .left _ (by simp) first (by simp) ?_ (by simp)
        exact mem_keys_setAll.mpr (Or.inl (by simp))

end Publication

end TradeJournalWorker.Assembly
