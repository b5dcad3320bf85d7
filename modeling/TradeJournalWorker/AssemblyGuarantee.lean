import TradeJournalWorker.AssemblyRuns

namespace TradeJournalWorker.Assembly

open FaultProgram Lab

section Examination

variable {env : AssemblyEnv} {source : SourceDirectory} {manifest : List (String × JsonValue)}
  {taken : List String} {runId : String} {prepared : Prepared}

/-- The paths of the prepared files are among those of the manifest, each once. -/
structure PathsKept (found : Prepared) : Prop where
  nodup : found.paths.Nodup
  files : (found.files.map PreparedFile.path).Sublist found.paths

theorem prepareFile_paths {found next : Prepared} {role path : String} {entry : SourceEntry}
    (h : prepareFile env found role path entry = .ok next) :
    next.paths = found.paths ∧ (next.files = found.files ∨
      ∃ file, file.path = path ∧ next.files = found.files ++ [file]) := by
  unfold prepareFile at h
  cases entry with
  | missing =>
    cases h
    exact ⟨rfl, Or.inl rfl⟩
  | linked =>
    cases h
    exact ⟨rfl, Or.inl rfl⟩
  | unreadable error =>
    simp only at h
    split at h
    next =>
      cases h
      exact ⟨rfl, Or.inl rfl⟩
    next =>
      cases h
      exact ⟨rfl, Or.inr ⟨⟨role, path, none⟩, rfl, rfl⟩⟩
  | regular bytes =>
    simp only at h
    split at h
    next =>
      cases h
      exact ⟨rfl, Or.inl rfl⟩
    next =>
      split at h
      next =>
        obtain ⟨checked, -, h⟩ := except_bind_eq_ok h
        cases checked with
        | error error =>
          cases h
          exact ⟨rfl, Or.inl rfl⟩
        | ok payload =>
          cases h
          exact ⟨rfl, Or.inr ⟨⟨role, path, some payload⟩, rfl, rfl⟩⟩
      next =>
        cases h
        exact ⟨rfl, Or.inr ⟨⟨role, path, some bytes⟩, rfl, rfl⟩⟩

theorem PathsKept.prepareEntry {found next : Prepared} {entry : String × JsonValue}
    (hkept : PathsKept found) (h : prepareEntry env source found entry = .ok next) :
    PathsKept next := by
  unfold Assembly.prepareEntry at h
  obtain ⟨role, -, h⟩ := except_bind_eq_ok h
  obtain ⟨⟨path, content⟩, -, h⟩ := except_bind_eq_ok h
  simp only at h
  split at h
  next => cases h
  next hnew =>
    obtain ⟨hpaths, hfiles⟩ := prepareFile_paths h
    have hnodup : (found.paths ++ [path]).Nodup := by
      rw [List.nodup_append]
      refine ⟨hkept.nodup, by simp, ?_⟩
      intro other hother last hlast heq
      exact hnew (List.mem_singleton.mp hlast ▸ heq ▸ hother)
    refine ⟨hpaths ▸ hnodup, ?_⟩
    rw [hpaths]
    rcases hfiles with hsame | ⟨file, rfl, hmore⟩
    · rw [hsame]
      exact hkept.files.trans (List.sublist_append_left _ _)
    · rw [hmore, List.map_append]
      exact hkept.files.append (List.Sublist.refl _)

theorem examine_eq_ok (h : examine env source manifest taken = .ok (runId, prepared)) :
    JsonValue.get manifest "run_id" = .str runId ∧ isCanonicalUuid runId = true ∧
      manifestName runId ∉ taken ∧ PathsKept prepared := by
  obtain ⟨found, hid, h⟩ := except_bind_eq_ok h
  split at h
  next => cases h
  next hfree =>
    split at h
    next files hfiles =>
      obtain ⟨result, hloop, h⟩ := except_bind_eq_ok h
      cases h
      have hkept : PathsKept prepared := by
        apply foldlM_ok_induction (fun _ found => PathsKept found) ?_ ?_ hloop
        · intro _ entry acc next hacc hstep
          exact hacc.prepareEntry hstep
        · exact ⟨List.nodup_nil, List.Sublist.refl _⟩
      unfold requireRunId at hid
      split at hid
      next text hvalue =>
        split at hid
        next huuid =>
          cases hid
          exact ⟨hvalue, huuid, hfree, hkept⟩
        next => cases hid
      next => cases hid
    next => cases h

theorem examine_congr {taken' : List String}
    (h : examine env source manifest taken = .ok (runId, prepared))
    (hfree : manifestName runId ∉ taken') :
    examine env source manifest taken' = .ok (runId, prepared) := by
  have hbefore := (examine_eq_ok h).2.2.1
  obtain ⟨found, hid, hrest⟩ := except_bind_eq_ok h
  have hsame : found = runId := by
    split at hrest
    next => cases hrest
    next =>
      split at hrest
      next =>
        obtain ⟨result, -, hrest⟩ := except_bind_eq_ok hrest
        cases hrest
        rfl
      next => cases hrest
  subst hsame
  unfold examine
  rw [hid, except_ok_bind, if_neg hfree]
  rw [if_neg hbefore] at hrest
  exact hrest

theorem names_ne (runId : String) : manifestName runId ≠ reportName runId := by
  intro h
  have htexts := congrArg String.toList h
  unfold manifestName reportName at htexts
  rw [String.toList_append, String.toList_append] at htexts
  exact absurd (List.append_cancel_left htexts) (by decide)

/-- The names of the run's own two files are not among those of its artifacts. -/
def NamesApart (runId : String) (prepared : Prepared) : Prop :=
  manifestName runId ∉ prepared.paths ∧ reportName runId ∉ prepared.paths

theorem stagedFiles_paths {files : List PreparedFile} {staged : List (ManifestEntry × List UInt8)}
    (h : stagedFiles env files = some staged) :
    staged.map (fun file => file.1.path) = files.map PreparedFile.path := by
  induction files generalizing staged with
  | nil =>
    cases h
    rfl
  | cons file rest ih =>
    obtain ⟨first, hfirst, h⟩ := Option.bind_eq_some_iff.mp h
    obtain ⟨others, hothers, rfl⟩ := Option.map_eq_some_iff.mp h
    obtain ⟨bytes, -, rfl⟩ := Option.map_eq_some_iff.mp hfirst
    rw [List.map_cons, List.map_cons, ih hothers]

theorem fresh_targets {output : OutputFiles} {targets : List (String × List UInt8)}
    (hkept : PathsKept prepared) (hapart : NamesApart runId prepared)
    (h : plannedTargets env runId prepared output.keys = some targets) : Fresh output targets := by
  obtain ⟨staged, hstaged, rfl, hfree⟩ := plannedTargets_eq_some.mp h
  refine ⟨?_, hfree⟩
  have hnames : (publicationTargets env runId prepared staged).map Prod.fst =
      prepared.files.map PreparedFile.path ++ [reportName runId, manifestName runId] := by
    unfold publicationTargets
    rw [List.map_append, List.map_map, ← stagedFiles_paths hstaged]
    rfl
  rw [hnames, List.nodup_append]
  refine ⟨hkept.nodup.sublist hkept.files, by simp [(names_ne runId).symm], ?_⟩
  intro path hpath name hname heq
  have hmem := hkept.files.subset hpath
  rcases List.mem_cons.mp hname with rfl | hname
  · exact hapart.2 (heq ▸ hmem)
  · exact hapart.1 ((List.mem_singleton.mp hname) ▸ heq ▸ hmem)

end Examination

section Runs

variable {env : AssemblyEnv} {source : SourceDirectory} {manifest : List (String × JsonValue)}
  {faults : AssemblyFaults} {output : OutputFiles} {runId : String} {prepared : Prepared}
  {targets : List (String × List UInt8)}

/-- With errors a run is disturbed when it leaves a report that was not there. -/
def ReportKept (taken : List String) (report : Answer) (runId : String) : Prop :=
  takesEffect report = true → reportName runId ∈ taken

/-- The operations before the first rename all succeed. -/
def Staged (faults : AssemblyFaults) (prepared : Prepared) : Prop :=
  StepsDone (prepared.files.length + 4) faults.steps

/-- The condition on the inputs and the faults: a failure report only where one stood already, and
renames undisturbed once they begin. -/
def Retained (env : AssemblyEnv) (source : SourceDirectory) (manifest : List (String × JsonValue))
    (faults : AssemblyFaults) (taken : List String) : Prop :=
  ∀ runId prepared, examine env source manifest taken = .ok (runId, prepared) →
    (prepared.errors ≠ [] → ReportKept taken faults.report runId) ∧
    (prepared.errors = [] → NamesApart runId prepared → Staged faults prepared →
      ∀ targets, plannedTargets env runId prepared taken = some targets →
        Undisturbed faults.removals faults.cleanup targets.length 0 faults.renames)

theorem assembleRun_refused {failure : AssemblyFailure}
    (h : examine env source manifest output.keys = .error failure) :
    Stops output (assembleRun env source manifest faults output) := by
  have hrun : assembleRun env source manifest faults output =
      (attempt (examine env source manifest output.keys) >>= fun found =>
        if found.2.errors = [] then publishRun env found.1 found.2
        else failRun env found.1 found.2 : AssemblyProgram JsonValue) faults output := rfl
  rw [hrun, h]
  exact stops_raised failure

theorem assembleRun_examined (h : examine env source manifest output.keys = .ok (runId, prepared)) :
    assembleRun env source manifest faults output =
      (if prepared.errors = [] then publishRun env runId prepared
        else failRun env runId prepared : AssemblyProgram JsonValue) faults output := by
  have hrun : assembleRun env source manifest faults output =
      (attempt (examine env source manifest output.keys) >>= fun found =>
        if found.2.errors = [] then publishRun env found.1 found.2
        else failRun env found.1 found.2 : AssemblyProgram JsonValue) faults output := rfl
  rw [hrun, h]
  rfl

/-- What a run with errors does. -/
theorem failRun_run : ∃ exit, (∀ value, exit ≠ .returned value) ∧
    failRun env runId prepared faults output = (exit, faults, faults.report.apply
      (fun output => output.set (reportName runId) (reportBytes env runId prepared)) output) := by
  obtain ⟨steps, report, renames, removals, cleanup⟩ := faults
  have hmessage : ∀ message, ∀ value : JsonValue,
      (Exit.raised message : Exit AssemblyFailure JsonValue) ≠ .returned value := by simp
  cases report with
  | done => exact ⟨.raised _, hmessage _, rfl⟩
  | failed failure => exact ⟨.raised _, hmessage _, rfl⟩
  | failedLate failure => exact ⟨.raised _, hmessage _, rfl⟩
  | crash => exact ⟨.crashed, by simp, rfl⟩

/-- The stage is removed after a return and after an exception. -/
theorem finally_removeStage {p : AssemblyProgram Unit} {exit : Exit AssemblyFailure Unit}
    {faults' : AssemblyFaults} {output' : OutputFiles} (h : p faults output = (exit, faults', output')) :
    Program.tryFinally p removeStage faults output =
      (if exit = .crashed ∨ faults'.cleanup = .crash then .crashed else exit, faults', output') := by
  unfold Program.tryFinally
  rw [h]
  have hremove : removeStage faults' output' =
      (if faults'.cleanup = .crash then .crashed else .returned (), faults', output') := by
    obtain ⟨steps, report, renames, removals, cleanup⟩ := faults'
    cases cleanup with
    | done => simp [removeStage, Program.perform]
    | failed failure => simp [removeStage, Program.perform]
    | failedLate failure => simp [removeStage, Program.perform]
    | crash => simp [removeStage, Program.perform]
  cases exit with
  | crashed => simp
  | returned value =>
    simp only [hremove]
    by_cases hcrash : faults'.cleanup = .crash
    · simp [hcrash]
    · simp [hcrash]
  | raised failure =>
    simp only [hremove]
    by_cases hcrash : faults'.cleanup = .crash
    · simp [hcrash]
    · simp [hcrash]

theorem stops_finally {p : AssemblyProgram Unit} (h : Stops output (p faults output)) :
    Stops output (Program.tryFinally p removeStage faults output) := by
  obtain ⟨hexit, houtput⟩ := h
  rcases hrun : p faults output with ⟨exit, faults', output'⟩
  rw [hrun] at hexit houtput
  cases houtput
  rw [finally_removeStage hrun]
  split
  next => exact stops_crashed
  next =>
    cases exit with
    | returned value => exact absurd rfl (hexit value)
    | raised failure => exact stops_raised failure
    | crashed => exact stops_crashed

/-- How a run without errors ends. -/
inductive RunEnd (env : AssemblyEnv) (output : OutputFiles) (runId : String) (prepared : Prepared)
    (retained : Prop) : Exit AssemblyFailure JsonValue × AssemblyFaults × OutputFiles → Prop
  | published (faults' : AssemblyFaults) (targets : List (String × List UInt8))
      (hplanned : plannedTargets env runId prepared output.keys = some targets)
      (hapart : NamesApart runId prepared) (hretained : retained) :
      RunEnd env output runId prepared retained
        (.returned (reportJson runId prepared), faults', setAll output targets)
  | unchanged (run : Exit AssemblyFailure JsonValue × AssemblyFaults × OutputFiles)
      (hstops : Stops output run) (hretained : retained) :
      RunEnd env output runId prepared retained run
  | left (run : Exit AssemblyFailure JsonValue × AssemblyFaults × OutputFiles)
      (targets : List (String × List UInt8)) (target : String × List UInt8)
      (hplanned : plannedTargets env runId prepared output.keys = some targets)
      (hapart : NamesApart runId prepared) (hexit : ∀ value, run.1 ≠ .returned value)
      (htarget : target ∈ targets) (hleft : target.1 ∈ run.2.2.keys) (hretained : ¬ retained) :
      RunEnd env output runId prepared retained run

theorem exists_target (h : plannedTargets env runId prepared output.keys = some targets) :
    (reportName runId, reportBytes env runId prepared) ∈ targets := by
  obtain ⟨staged, -, rfl, -⟩ := plannedTargets_eq_some.mp h
  exact List.mem_append_right _ List.mem_cons_self

/-- What follows once the stage directory is made. -/
theorem published_end (hkept : PathsKept prepared) (hapart : NamesApart runId prepared) :
    RunEnd env output runId prepared (StepsDone (prepared.files.length + 3) faults.steps →
        ∀ targets, plannedTargets env runId prepared output.keys = some targets →
          Undisturbed faults.removals faults.cleanup targets.length 0 faults.renames)
      ((Program.tryFinally (stageAndPublish env runId prepared) removeStage >>= fun _ =>
        pure (reportJson runId prepared) : AssemblyProgram JsonValue) faults output) := by
  rcases @takes_stageRun env runId prepared output faults with
    ⟨targets, hplanned, hsteps, hstaged⟩ | ⟨hnot, hstops⟩
  · have hrun : stageAndPublish env runId prepared faults output = publishAll targets []
        { faults with steps := faults.steps.drop (prepared.files.length + 3) } output :=
      Program.run_bind_returned hstaged
    have hend := publishAll_end targets []
      { faults with steps := faults.steps.drop (prepared.files.length + 3) }
      (fresh_targets hkept hapart hplanned)
    have hretained : (StepsDone (prepared.files.length + 3) faults.steps →
          ∀ targets, plannedTargets env runId prepared output.keys = some targets →
            Undisturbed faults.removals faults.cleanup targets.length 0 faults.renames) ↔
        Undisturbed faults.removals faults.cleanup targets.length 0 faults.renames := by
      constructor
      · intro h
        exact h hsteps targets hplanned
      · intro h _ others hothers
        rw [hplanned] at hothers
        cases hothers
        exact h
    rw [propext hretained]
    generalize hfound : publishAll targets []
      { faults with steps := faults.steps.drop (prepared.files.length + 3) } output = found at hrun
    rw [List.nil_append] at hend
    have hend : PublicationEnd output targets faults.cleanup
        (Undisturbed faults.removals faults.cleanup targets.length 0 faults.renames) found := by
      rw [← hfound]
      exact hend
    cases hend with
    | complete faults' hcleanup hdecided =>
      by_cases hcrash : faults.cleanup = .crash
      · have hfinal : Program.tryFinally (stageAndPublish env runId prepared) removeStage faults
            output = (.crashed, faults', setAll output targets) := by
          rw [finally_removeStage hrun, if_pos (Or.inr (hcleanup.trans hcrash))]
        rw [Program.run_bind, hfinal]
        refine .left _ targets _ hplanned hapart (by simp) (exists_target hplanned) ?_ ?_
        · exact mem_keys_setAll.mpr (Or.inl (List.mem_map_of_mem (exists_target hplanned)))
        · intro h
          exact hdecided.mp h hcrash
      · have hfinal : Program.tryFinally (stageAndPublish env runId prepared) removeStage faults
            output = (.returned (), faults', setAll output targets) := by
          rw [finally_removeStage hrun, if_neg (by simp [hcleanup, hcrash])]
        rw [Program.run_bind_returned hfinal]
        exact .published faults' targets hplanned hapart (hdecided.mpr hcrash)
    | undone _ hstops hdecided =>
      have hstopped : Stops output (stageAndPublish env runId prepared faults output) := by
        rw [hrun]
        exact hstops
      exact .unchanged _ (stops_bind (stops_finally hstopped)) hdecided
    | left _ hexit target htarget hleft hdecided =>
      obtain ⟨exit, faults', output'⟩ := found
      have hfinal := finally_removeStage hrun
      have hraised : ∀ value, (if exit = .crashed ∨ faults'.cleanup = .crash then .crashed else exit) ≠
          Exit.returned value := by
        intro value h
        split at h
        next => cases h
        next => exact hexit value h
      rw [Program.run_bind, hfinal]
      generalize (if exit = .crashed ∨ faults'.cleanup = .crash then .crashed else exit) = last at hraised
      cases last with
      | returned value => exact absurd rfl (hraised value)
      | raised failure => exact .left _ targets target hplanned hapart (by simp) htarget hleft hdecided
      | crashed => exact .left _ targets target hplanned hapart (by simp) htarget hleft hdecided
  · have hrun : Stops output (stageAndPublish env runId prepared faults output) := stops_bind hstops
    refine .unchanged _ (stops_bind (stops_finally hrun)) ?_
    intro hsteps targets hplanned
    refine absurd ⟨?_, hsteps⟩ hnot
    rw [hplanned]
    rfl

theorem publishRun_end (hkept : PathsKept prepared) :
    RunEnd env output runId prepared (NamesApart runId prepared → Staged faults prepared →
        ∀ targets, plannedTargets env runId prepared output.keys = some targets →
          Undisturbed faults.removals faults.cleanup targets.length 0 faults.renames)
      (publishRun env runId prepared faults output) := by
  unfold publishRun
  by_cases hapart : NamesApart runId prepared
  · have hnames : ¬ (manifestName runId ∈ prepared.paths ∨ reportName runId ∈ prepared.paths) := by
      intro h
      rcases h with h | h
      · exact hapart.1 h
      · exact hapart.2 h
    rw [if_neg hnames]
    show RunEnd _ _ _ _ _ ((step >>= fun _ =>
      Program.tryFinally (stageAndPublish env runId prepared) removeStage >>= fun _ =>
        pure (reportJson runId prepared) : AssemblyProgram JsonValue) faults output)
    rcases @takes_step output faults with ⟨_, -, hstep, hrun⟩ | ⟨hnot, hstops⟩
    · rw [Program.run_bind_returned hrun]
      have hend := @published_end env { faults with steps := faults.steps.drop 1 } output runId
        prepared hkept hapart
      have hsame : (NamesApart runId prepared → Staged faults prepared →
          ∀ targets, plannedTargets env runId prepared output.keys = some targets →
            Undisturbed faults.removals faults.cleanup targets.length 0 faults.renames) ↔
          (StepsDone (prepared.files.length + 3) (faults.steps.drop 1) →
            ∀ targets, plannedTargets env runId prepared output.keys = some targets →
              Undisturbed faults.removals faults.cleanup targets.length 0 faults.renames) := by
        have hcount : Staged faults prepared ↔
            StepsDone (prepared.files.length + 3) (faults.steps.drop 1) := by
          unfold Staged
          rw [show prepared.files.length + 4 = 1 + (prepared.files.length + 3) by omega,
            stepsDone_add]
          exact and_iff_right hstep
        rw [hcount]
        exact forall_prop_of_true hapart
      rw [propext hsame]
      exact hend
    · refine .unchanged _ (stops_bind hstops) ?_
      intro _ hsteps
      refine absurd ⟨rfl, ?_⟩ hnot
      unfold Staged at hsteps
      rw [show prepared.files.length + 4 = 1 + (prepared.files.length + 3) by omega] at hsteps
      exact (stepsDone_add.mp hsteps).1
  · have hnames : manifestName runId ∈ prepared.paths ∨ reportName runId ∈ prepared.paths := by
      by_contra hnot
      rw [not_or] at hnot
      exact hapart hnot
    rw [if_pos hnames]
    refine .unchanged _ (stops_raised _) ?_
    intro h
    exact absurd h hapart

theorem publishAll_calm (rest : List (String × List UInt8)) :
    ∀ (published : List String) (faults : AssemblyFaults) (output : OutputFiles),
      faults.renames = [] → ∃ faults', publishAll rest published faults output =
        (.returned (), faults', setAll output rest) ∧ faults'.cleanup = faults.cleanup := by
  induction rest with
  | nil =>
    intro published faults output _
    exact ⟨faults, rfl, rfl⟩
  | cons target rest ih =>
    intro published faults output hcalm
    have hwrite : durableReplace target.1 target.2 faults output =
        (.returned (), faults.nextRename.2, output.set target.1 target.2) := by
      unfold durableReplace Program.write AssemblyFaults.nextRename
      rw [hcalm]
      rfl
    have hlater : faults.nextRename.2.renames = [] := by
      unfold AssemblyFaults.nextRename
      rw [hcalm]
      rfl
    obtain ⟨faults', hrest, hcleanup⟩ := ih (published ++ [target.1]) faults.nextRename.2
      (output.set target.1 target.2) hlater
    refine ⟨faults', ?_, hcleanup⟩
    unfold publishAll
    have hcaught : Program.tryCatch (durableReplace target.1 target.2) (fun failure => do
        rollback published.reverse
        Program.raise failure) faults output =
          (.returned (), faults.nextRename.2, output.set target.1 target.2) := by
      unfold Program.tryCatch
      rw [hwrite]
    rw [Program.run_bind_returned hcaught]
    exact hrest

/-- Without faults everything that is planned is published. -/
theorem assembleRun_calm (hexamined : examine env source manifest output.keys = .ok (runId, prepared))
    (herrors : prepared.errors = []) (hapart : NamesApart runId prepared)
    (hplanned : plannedTargets env runId prepared output.keys = some targets) :
    ∃ faults', assembleRun env source manifest {} output =
      (.returned (reportJson runId prepared), faults', setAll output targets) := by
  have hnames : ¬ (manifestName runId ∈ prepared.paths ∨ reportName runId ∈ prepared.paths) := by
    intro h
    rcases h with h | h
    · exact hapart.1 h
    · exact hapart.2 h
  have hstaged : stageRun env runId prepared {} output = (.returned targets, {}, output) := by
    rcases @takes_stageRun env runId prepared output {} with
      ⟨found, hfound, -, hrun⟩ | ⟨hnot, -⟩
    · rw [hplanned] at hfound
      cases hfound
      rw [hrun, List.drop_nil]
    · refine absurd ⟨by rw [hplanned]; rfl, ?_⟩ hnot
      simp [StepsDone]
  obtain ⟨faults', hpublished, hcleanup⟩ := publishAll_calm targets [] {} output rfl
  have hrun : stageAndPublish env runId prepared {} output =
      (.returned (), faults', setAll output targets) :=
    (Program.run_bind_returned hstaged).trans hpublished
  refine ⟨faults', ?_⟩
  rw [assembleRun_examined hexamined, if_pos herrors]
  unfold publishRun
  rw [if_neg hnames]
  show ((Program.tryFinally (stageAndPublish env runId prepared) removeStage >>= fun _ =>
    pure (reportJson runId prepared) : AssemblyProgram JsonValue)) {} output = _
  have hfinal := finally_removeStage hrun
  rw [if_neg (by simp [hcleanup])] at hfinal
  exact Program.run_bind_returned hfinal

/-- Where a name of the run is taken, no call returns. -/
theorem not_returned_of_taken (htaken : manifestName runId ∈ output.keys ∨
      reportName runId ∈ output.keys) (hid : JsonValue.get manifest "run_id" = .str runId)
    (value : JsonValue) : (assembleRun env source manifest faults output).1 ≠ .returned value := by
  cases hexamined : examine env source manifest output.keys with
  | error failure => exact (assembleRun_refused hexamined).1 value
  | ok found =>
    obtain ⟨found, prepared⟩ := found
    obtain ⟨hfound, -, hfree, hkept⟩ := examine_eq_ok hexamined
    rw [hid] at hfound
    cases hfound
    rw [assembleRun_examined hexamined]
    split
    next =>
      have hnone : ∀ targets, plannedTargets env runId prepared output.keys ≠ some targets := by
        intro targets hplanned
        have htarget := exists_target hplanned
        obtain ⟨staged, -, -, hnew⟩ := plannedTargets_eq_some.mp hplanned
        rcases htaken with htaken | htaken
        · exact hfree htaken
        · exact hnew _ htarget htaken
      have hend := @publishRun_end env faults output runId prepared hkept
      generalize publishRun env runId prepared faults output = run at hend ⊢
      rcases hend with
        ⟨faults', targets, hplanned, -, -⟩ | ⟨_, hstops, -⟩ | ⟨_, targets, target, hplanned, -⟩
      · exact absurd hplanned (hnone targets)
      · exact hstops.1 value
      · exact absurd hplanned (hnone targets)
    next =>
      obtain ⟨exit, hexit, hrun⟩ := @failRun_run env faults output runId prepared
      rw [hrun]
      exact hexit value

end Runs

section Guarantee

variable {env : AssemblyEnv} {source : SourceDirectory} {manifest : List (String × JsonValue)}
  {faults : AssemblyFaults} {output : OutputFiles} {runId : String} {prepared : Prepared}
  {targets : List (String × List UInt8)}

/-- The manifest's bytes list files that are all there with the digest and the size listed. -/
def ListsPresent (env : AssemblyEnv) (output : OutputFiles) (runId : String) (bytes : List UInt8) :
    Prop :=
  ∃ entries, bytes = manifestBytes env runId entries ∧ ∀ entry ∈ entries, ∃ content,
    output.get? entry.path = some content ∧ entry.sha256 = env.lab.sha256 content ∧
      entry.size = content.length

/-- A later call without faults, with whatever sources and files for the same run, does from the
one output what it does from the other as far as it succeeds. -/
def SucceedsAlike (env : AssemblyEnv) (manifest : List (String × JsonValue))
    (output output' : OutputFiles) : Prop :=
  ∀ source' manifest' report, JsonValue.get manifest' "run_id" = JsonValue.get manifest "run_id" →
    ((assembleRun env source' manifest' {} output').1 = .returned report ↔
      (assembleRun env source' manifest' {} output).1 = .returned report) ∧
    ((assembleRun env source' manifest' {} output).1 = .returned report →
      ∀ path, (assembleRun env source' manifest' {} output').2.2.get? path =
        (assembleRun env source' manifest' {} output).2.2.get? path)

/-- All or nothing, and retryable. -/
structure AllOrNothing (env : AssemblyEnv) (source : SourceDirectory)
    (manifest : List (String × JsonValue)) (faults : AssemblyFaults) (output : OutputFiles) :
    Prop where
  manifest_complete : ∀ runId bytes, JsonValue.get manifest "run_id" = .str runId →
    output.get? (manifestName runId) = none →
    (assembleRun env source manifest faults output).2.2.get? (manifestName runId) = some bytes →
    ListsPresent env (assembleRun env source manifest faults output).2.2 runId bytes
  raised_hidden : ∀ failure, (assembleRun env source manifest faults output).1 = .raised failure →
    ∀ path, (∀ runId, JsonValue.get manifest "run_id" = .str runId → path ≠ reportName runId) →
      (assembleRun env source manifest faults output).2.2.get? path = output.get? path
  retryable : (∀ report, (assembleRun env source manifest faults output).1 ≠ .returned report) →
    SucceedsAlike env manifest output (assembleRun env source manifest faults output).2.2

theorem allOrNothing_of_stops (h : Stops output (assembleRun env source manifest faults output)) :
    AllOrNothing env source manifest faults output where
  manifest_complete := by
    intro runId bytes _ hbefore hafter
    rw [h.2, hbefore] at hafter
    cases hafter
  raised_hidden := by
    intro failure _ path _
    rw [h.2]
  retryable := by
    intro _ source' manifest' report _
    rw [h.2]
    exact ⟨Iff.rfl, fun _ _ => rfl⟩

theorem get?_setAll_of_notMem {path : String} (h : path ∉ targets.map Prod.fst) :
    (setAll output targets).get? path = output.get? path := by
  induction targets using List.reverseRecOn with
  | nil => rfl
  | append_singleton targets target ih =>
    rw [List.map_append, List.mem_append, not_or] at h
    have hne : path ≠ target.1 := by simpa using h.2
    rw [setAll_append, OrderedDict.get?_set_of_ne _ _ hne, ih h.1]

theorem get?_setAll (hnodup : (targets.map Prod.fst).Nodup) {target : String × List UInt8}
    (h : target ∈ targets) : (setAll output targets).get? target.1 = some target.2 := by
  induction targets using List.reverseRecOn with
  | nil => cases h
  | append_singleton targets last ih =>
    rw [List.map_append, List.nodup_append] at hnodup
    rw [setAll_append]
    rcases List.mem_append.mp h with h | h
    · have hne : target.1 ≠ last.1 :=
        hnodup.2.2 _ (List.mem_map_of_mem h) _ (List.mem_singleton.mpr rfl)
      rw [OrderedDict.get?_set_of_ne _ _ hne, ih hnodup.1 h]
    · rw [List.mem_singleton.mp h, OrderedDict.get?_set_self]

theorem stagedFiles_digests {files : List PreparedFile} {staged : List (ManifestEntry × List UInt8)}
    (h : stagedFiles env files = some staged) : ∀ file ∈ staged,
      file.1.sha256 = env.lab.sha256 file.2 ∧ file.1.size = file.2.length := by
  induction files generalizing staged with
  | nil =>
    cases h
    intro file hfile
    cases hfile
  | cons first rest ih =>
    obtain ⟨head, hhead, h⟩ := Option.bind_eq_some_iff.mp h
    obtain ⟨others, hothers, rfl⟩ := Option.map_eq_some_iff.mp h
    obtain ⟨bytes, -, rfl⟩ := Option.map_eq_some_iff.mp hhead
    intro file hfile
    rcases List.mem_cons.mp hfile with rfl | hfile
    · exact ⟨rfl, rfl⟩
    · exact ih hothers file hfile

/-- A published manifest lists what was published with it. -/
theorem listsPresent_of_published {bytes : List UInt8} (hfresh : Fresh output targets)
    (hplanned : plannedTargets env runId prepared output.keys = some targets)
    (h : (setAll output targets).get? (manifestName runId) = some bytes) :
    ListsPresent env (setAll output targets) runId bytes := by
  obtain ⟨staged, hstaged, rfl, -⟩ := plannedTargets_eq_some.mp hplanned
  have hmanifest : (manifestName runId, manifestBytes env runId (staged.map Prod.fst)) ∈
      publicationTargets env runId prepared staged := by simp [publicationTargets]
  rw [get?_setAll hfresh.nodup hmanifest] at h
  cases h
  refine ⟨staged.map Prod.fst, rfl, ?_⟩
  intro entry hentry
  obtain ⟨file, hfile, rfl⟩ := List.mem_map.mp hentry
  obtain ⟨hdigest, hsize⟩ := stagedFiles_digests hstaged file hfile
  have htarget : (file.1.path, file.2) ∈ publicationTargets env runId prepared staged :=
    List.mem_append_left _ (List.mem_map_of_mem (f := fun file => (file.1.path, file.2)) hfile)
  exact ⟨file.2, get?_setAll hfresh.nodup htarget, hdigest, hsize⟩

theorem allOrNothing_of_published {faults' : AssemblyFaults}
    (hid : JsonValue.get manifest "run_id" = .str runId) (hfresh : Fresh output targets)
    (hplanned : plannedTargets env runId prepared output.keys = some targets)
    (h : assembleRun env source manifest faults output =
      (.returned (reportJson runId prepared), faults', setAll output targets)) :
    AllOrNothing env source manifest faults output where
  manifest_complete := by
    intro found bytes hfound _ hafter
    rw [hid] at hfound
    cases hfound
    rw [h] at hafter ⊢
    exact listsPresent_of_published hfresh hplanned hafter
  raised_hidden := by
    intro failure hraised
    rw [h] at hraised
    cases hraised
  retryable := by
    intro hexit
    rw [h] at hexit
    exact absurd rfl (hexit _)

/-- What is left of a run makes the same call fail that succeeded before. -/
theorem not_allOrNothing_of_left {run : Exit AssemblyFailure JsonValue × AssemblyFaults × OutputFiles}
    {target : String × List UInt8}
    (hexamined : examine env source manifest output.keys = .ok (runId, prepared))
    (herrors : prepared.errors = []) (hapart : NamesApart runId prepared)
    (hplanned : plannedTargets env runId prepared output.keys = some targets)
    (hrun : assembleRun env source manifest faults output = run)
    (hexit : ∀ value, run.1 ≠ .returned value) (htarget : target ∈ targets)
    (hleft : target.1 ∈ run.2.2.keys) : ¬ AllOrNothing env source manifest faults output := by
  intro h
  have halike := h.retryable (by rw [hrun]; exact hexit) source manifest (reportJson runId prepared) rfl
  obtain ⟨faults', hcalm⟩ := assembleRun_calm hexamined herrors hapart hplanned
  have hagain := halike.1.mpr (by rw [hcalm])
  rw [hrun] at hagain
  by_cases hmanifest : manifestName runId ∈ run.2.2.keys
  · exact not_returned_of_taken (Or.inl hmanifest) (examine_eq_ok hexamined).1 _ hagain
  · have hexamined' := examine_congr hexamined hmanifest
    rw [assembleRun_examined hexamined', if_pos herrors] at hagain
    have hend := @publishRun_end env {} run.2.2 runId prepared (examine_eq_ok hexamined).2.2.2
    have hnone : ∀ others, plannedTargets env runId prepared run.2.2.keys ≠ some others := by
      intro others hothers
      obtain ⟨staged, hstaged, rfl, hfree⟩ := plannedTargets_eq_some.mp hothers
      obtain ⟨staged', hstaged', rfl, -⟩ := plannedTargets_eq_some.mp hplanned
      rw [hstaged] at hstaged'
      cases hstaged'
      exact hfree target htarget hleft
    generalize publishRun env runId prepared {} run.2.2 = last at hend hagain
    rcases hend with
      ⟨faults', others, hothers, -, -⟩ | ⟨_, hstops, -⟩ | ⟨_, others, target, hothers, -⟩
    · exact hnone others hothers
    · exact hstops.1 _ hagain
    · exact hnone others hothers

theorem apply_of_takesEffect {answer : Answer} {f : OutputFiles → OutputFiles}
    (h : takesEffect answer = true) : answer.apply f output = f output := by
  cases answer with
  | done => rfl
  | failedLate failure => rfl
  | failed failure => cases h
  | crash => cases h

theorem apply_of_not_takesEffect {answer : Answer} {f : OutputFiles → OutputFiles}
    (h : takesEffect answer = false) : answer.apply f output = output := by
  cases answer with
  | failed failure => rfl
  | crash => rfl
  | done => cases h
  | failedLate failure => cases h

/-- A manifest without files. -/
def emptyManifest (runId : String) : List (String × JsonValue) :=
  [("run_id", .str runId), ("files", .obj [])]

theorem examine_emptyManifest {taken : List String} (huuid : isCanonicalUuid runId = true)
    (hfree : manifestName runId ∉ taken) :
    examine env source (emptyManifest runId) taken = .ok (runId, {}) := by
  have hid : requireRunId (JsonValue.get (emptyManifest runId) "run_id") = .ok runId := by
    show requireRunId (.str runId) = _
    unfold requireRunId
    simp only [huuid, if_true]
  unfold examine
  rw [hid, except_ok_bind, if_neg hfree]
  rfl

/-- A failure report stands in the way of every later call of the run. -/
theorem failed_allOrNothing_iff (hexamined : examine env source manifest output.keys = .ok (runId, prepared))
    (herrors : prepared.errors ≠ []) : AllOrNothing env source manifest faults output ↔
      ReportKept output.keys faults.report runId := by
  obtain ⟨hid, huuid, hfree, -⟩ := examine_eq_ok hexamined
  obtain ⟨exit, hexit, hfailed⟩ := @failRun_run env faults output runId prepared
  have hrun : assembleRun env source manifest faults output = (exit, faults, faults.report.apply
      (fun output => output.set (reportName runId) (reportBytes env runId prepared)) output) := by
    rw [assembleRun_examined hexamined, if_neg herrors, hfailed]
  unfold ReportKept
  by_cases heffect : takesEffect faults.report = true
  · rw [apply_of_takesEffect heffect] at hrun
    have hreport : reportName runId ∈ (output.set (reportName runId)
        (reportBytes env runId prepared)).keys := mem_keys_set.mpr (Or.inl rfl)
    constructor
    · intro h _
      by_contra hnew
      have halike := h.retryable (by rw [hrun]; exact hexit) source (emptyManifest runId)
        (reportJson runId {}) (by rw [hid]; rfl)
      have hplanned : plannedTargets env runId {} output.keys =
          some (publicationTargets env runId {} []) := by
        refine plannedTargets_eq_some.mpr ⟨[], rfl, rfl, ?_⟩
        intro target htarget
        rcases List.mem_cons.mp htarget with rfl | htarget
        · exact hnew
        · rw [List.mem_singleton.mp htarget]
          exact hfree
      obtain ⟨faults', hcalm⟩ := assembleRun_calm
        (@examine_emptyManifest env source runId _ huuid hfree) rfl
        ⟨List.not_mem_nil, List.not_mem_nil⟩ hplanned
      have hagain := halike.1.mpr (by rw [hcalm])
      rw [hrun] at hagain
      exact not_returned_of_taken (Or.inr hreport) rfl _ hagain
    · intro hkept
      have hbefore := hkept heffect
      refine ⟨?_, ?_, ?_⟩
      · intro found bytes hfound hnone hafter
        rw [hid] at hfound
        cases hfound
        rw [hrun] at hafter
        rw [show (output.set (reportName runId) (reportBytes env runId prepared)).get?
          (manifestName runId) = output.get? (manifestName runId) from
            OrderedDict.get?_set_of_ne _ _ (names_ne runId), hnone] at hafter
        cases hafter
      · intro failure _ path hpath
        rw [hrun]
        exact OrderedDict.get?_set_of_ne _ _ (hpath runId hid)
      · intro _ source' manifest' report hsame
        rw [hrun]
        rw [hid] at hsame
        have hafter : (assembleRun env source' manifest' {} (output.set (reportName runId)
            (reportBytes env runId prepared))).1 ≠ .returned report :=
          not_returned_of_taken (Or.inr hreport) hsame report
        have hnever : (assembleRun env source' manifest' {} output).1 ≠ .returned report :=
          not_returned_of_taken (Or.inr hbefore) hsame report
        exact ⟨iff_of_false hafter hnever, fun h => absurd h hnever⟩
  · have heffect : takesEffect faults.report = false := by simpa using heffect
    rw [apply_of_not_takesEffect heffect] at hrun
    have hstops : Stops output (assembleRun env source manifest faults output) := by
      rw [hrun]
      exact ⟨hexit, rfl⟩
    refine iff_of_true (allOrNothing_of_stops hstops) ?_
    intro h
    rw [heffect] at h
    cases h

/-- Without errors only the renames decide. -/
theorem prepared_allOrNothing_iff
    (hexamined : examine env source manifest output.keys = .ok (runId, prepared))
    (herrors : prepared.errors = []) : AllOrNothing env source manifest faults output ↔
      (NamesApart runId prepared → Staged faults prepared →
        ∀ targets, plannedTargets env runId prepared output.keys = some targets →
          Undisturbed faults.removals faults.cleanup targets.length 0 faults.renames) := by
  obtain ⟨hid, -, -, hkept⟩ := examine_eq_ok hexamined
  have hend := @publishRun_end env faults output runId prepared hkept
  have hrun := @assembleRun_examined env source manifest faults output runId prepared hexamined
  rw [if_pos herrors] at hrun
  generalize publishRun env runId prepared faults output = run at hend hrun
  cases hend with
  | published faults' targets hplanned hapart hdecided =>
    exact iff_of_true (allOrNothing_of_published hid (fresh_targets hkept hapart hplanned)
      hplanned hrun) hdecided
  | unchanged _ hstops hdecided =>
    exact iff_of_true (allOrNothing_of_stops (by rw [hrun]; exact hstops)) hdecided
  | left _ targets target hplanned hapart hexit htarget hleft hdecided =>
    exact iff_of_false (not_allOrNothing_of_left hexamined herrors hapart hplanned hrun hexit
      htarget hleft) hdecided

end Guarantee

def sampleRunId : String := "00000000-0000-4000-8000-000000000001"

def sampleManifest : List (String × JsonValue) :=
  [("run_id", .str sampleRunId), ("files", .obj [("network_summary", .str "summary.json")])]

/-- Tables and readers that this manifest asks nothing of. -/
def sampleEnv : AssemblyEnv where
  lab := {
    unicode := ⟨asciiMajor, fun _ => false, fun _ => false, fun c => [c], id⟩
    addresses := ⟨fun _ => none, fun _ => "", fun _ => true, fun _ => false, fun _ => false⟩
    floatText := fun _ => ""
    loads := fun _ => none
    sha256 := fun _ => "ca3d163bab055381827226140568f3bef7eaac187cebd76878e0b63e9e442356"
    sha256_hex := fun _ => by decide +kernel }
  validated := id
  readError := fun _ => ""

def sourceOf (entry : SourceEntry) : SourceDirectory := ⟨true, fun _ => entry⟩

def samplePrepared : Prepared :=
  Prepared.add { paths := ["summary.json"] } "network_summary" "summary.json" (some [123, 125, 10])

theorem samplePrepared_staged : stagedFiles sampleEnv samplePrepared.files =
    some [(⟨"network_summary", "summary.json", sampleEnv.lab.sha256 [123, 125, 10], 3⟩,
      [123, 125, 10])] := rfl

end TradeJournalWorker.Assembly
