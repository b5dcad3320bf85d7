import TradeJournalWorker.ArgumentRules
import TradeJournalWorker.BrokerWizard

namespace TradeJournalWorker.WindowsCommandLine

open ArgumentRules
open BrokerWizard (isWhiteSpace)

/-- The loop of `AppendQuoted`: the builder and the backslashes that are not yet in it. -/
def appendCharacter (loop : Wide × Nat) (character : UInt16) : Wide × Nat :=
  let (builder, pendingBackslashes) := loop
  if character = backslash then (builder, pendingBackslashes + 1)
  else if character = quote then
    (builder ++ List.replicate (pendingBackslashes * 2 + 1) backslash ++ [quote], 0)
  else (builder ++ List.replicate pendingBackslashes backslash ++ [character], 0)

def appendQuoted (builder value : Wide) : Wide :=
  let (builder, pendingBackslashes) := value.foldl appendCharacter (builder ++ [quote], 0)
  builder ++ List.replicate (pendingBackslashes * 2) backslash ++ [quote]

def appendArgument (builder argument : Wide) : Wide := appendQuoted (builder ++ [space]) argument

/-- `none` where the path is refused. -/
def build (executablePath : Wide) (arguments : List Wide) : Option Wide :=
  if executablePath.all isWhiteSpace then none
  else some (arguments.foldl appendArgument (appendQuoted [] executablePath))

theorem appendCharacter_backslash (builder : Wide) (pending : Nat) :
    appendCharacter (builder, pending) backslash = (builder, pending + 1) := rfl

theorem appendCharacter_quote (builder : Wide) (pending : Nat) :
    appendCharacter (builder, pending) quote =
      (builder ++ List.replicate (pending * 2 + 1) backslash ++ [quote], 0) := rfl

theorem appendCharacter_other (builder : Wide) (pending : Nat) {c : UInt16}
    (hbackslash : c ≠ backslash) (hquote : c ≠ quote) :
    appendCharacter (builder, pending) c =
      (builder ++ List.replicate pending backslash ++ [c], 0) := by
  show (if c = backslash then _ else if c = quote then _ else _) = _
  rw [if_neg hbackslash, if_neg hquote]

section Quoting

variable {convention : Convention} {finished : List Wide} {builder read : Wide}

/-- The splitter has read the builder, and with the pending backslashes it holds what was read of
the value. -/
structure InStep (convention : Convention) (finished : List Wide) (begun : Splitter)
    (front : Wide) (loop : Wide × Nat) (read : Wide) : Prop where
  text : ∃ written current, loop.1 = front ++ written ∧
    Splitter.run convention begun written = ⟨finished, some current, .quoted, 0⟩ ∧
    current ++ List.replicate loop.2 backslash = read

theorem InStep.step {begun : Splitter} {front : Wide} {loop : Wide × Nat}
    (h : InStep convention finished begun front loop read) (c : UInt16) :
    InStep convention finished begun front (appendCharacter loop c) (read ++ [c]) := by
  obtain ⟨written, current, hwritten, hrun, hread⟩ := h.text
  cases loop with
  | mk builder pending =>
    have hbuilder : builder = front ++ written := hwritten
    have hpending : current ++ List.replicate pending backslash = read := hread
    by_cases hbackslash : c = backslash
    · rw [hbackslash, appendCharacter_backslash]
      refine ⟨written, current, hbuilder, hrun, ?_⟩
      show current ++ List.replicate (pending + 1) backslash = _
      rw [List.replicate_succ', ← List.append_assoc, hpending]
    · by_cases hquote : c = quote
      · rw [hquote, appendCharacter_quote]
        refine ⟨written ++ (List.replicate (pending * 2 + 1) backslash ++ [quote]),
          current ++ List.replicate pending backslash ++ [quote], ?_, ?_, ?_⟩
        · rw [hbuilder, List.append_assoc, List.append_assoc]
        · rw [Splitter.run_append, hrun, Splitter.run_append, Splitter.run_backslashes,
            Nat.zero_add]
          exact Splitter.step_escapedQuote convention finished current pending
        · rw [hpending]
          exact List.append_nil _
      · rw [appendCharacter_other builder pending hbackslash hquote]
        refine ⟨written ++ (List.replicate pending backslash ++ [c]),
          current ++ List.replicate pending backslash ++ [c], ?_, ?_, ?_⟩
        · rw [hbuilder, List.append_assoc, List.append_assoc]
        · rw [Splitter.run_append, hrun, Splitter.run_append, Splitter.run_backslashes,
            Nat.zero_add]
          exact Splitter.step_quoted convention finished current pending hbackslash hquote
        · rw [hpending]
          exact List.append_nil _

theorem InStep.foldl {begun : Splitter} {front : Wide} {loop : Wide × Nat}
    (h : InStep convention finished begun front loop read) (value : Wide) :
    InStep convention finished begun front (value.foldl appendCharacter loop)
      (read ++ value) := by
  induction value generalizing loop read with
  | nil =>
    rw [List.append_nil]
    exact h
  | cons c value ih =>
    have hrest := ih (h.step c)
    rw [List.append_assoc] at hrest
    exact hrest

/-- The splitter is through with the arguments `finished`, but may stand right behind the closing
quote of the last one. -/
inductive Through (finished : List Wide) : Splitter → Prop where
  | between : Through finished ⟨finished, none, .unquoted, 0⟩
  | closed {earlier : List Wide} {last : Wide} (h : finished = earlier ++ [last]) :
      Through finished ⟨earlier, some last, .closed, 0⟩

theorem Through.arguments {splitter : Splitter} (h : Through finished splitter) :
    splitter.arguments = finished := by
  cases h with
  | between => rfl
  | closed h =>
    rw [h]
    show _ ++ [_ ++ []] = _
    rw [List.append_nil]

theorem Through.blank (convention : Convention) {splitter : Splitter}
    (h : Through finished splitter) :
    Splitter.run convention splitter [space] = ⟨finished, none, .unquoted, 0⟩ := by
  cases h with
  | between => rfl
  | closed h =>
    rw [h]
    show (⟨_ ++ [_ ++ []], none, .unquoted, 0⟩ : Splitter) = _
    rw [List.append_nil]

/-- A quoted value is read as one argument, whatever it holds. -/
theorem appendQuoted_read (convention : Convention) (finished : List Wide) (front value : Wide) :
    ∃ written, appendQuoted front value = front ++ written ∧
      Through (finished ++ [value])
        (Splitter.run convention ⟨finished, none, .unquoted, 0⟩ written) := by
  have hopen : InStep convention finished ⟨finished, none, .unquoted, 0⟩ front
      (front ++ [quote], 0) [] := by
    refine ⟨[quote], [], rfl, ?_, rfl⟩
    rfl
  obtain ⟨written, current, hwritten, hrun, hread⟩ := (hopen.foldl value).text
  unfold appendQuoted
  cases hloop : value.foldl appendCharacter (front ++ [quote], 0) with
  | mk builder pending =>
    rw [hloop] at hwritten hread
    have hbuilder : builder = front ++ written := hwritten
    refine ⟨written ++ (List.replicate (pending * 2) backslash ++ [quote]), ?_, ?_⟩
    · show builder ++ _ ++ _ = _
      rw [hbuilder, List.append_assoc, List.append_assoc]
    · have hclosed := Splitter.step_closingQuote convention finished current pending
      have hvalue : current ++ List.replicate pending backslash = value := hread
      rw [Splitter.run_append, hrun, Splitter.run_append, Splitter.run_backslashes, Nat.zero_add]
      rw [hvalue] at hclosed
      have hthrough : Through (finished ++ [value]) ⟨finished, some value, .closed, 0⟩ :=
        .closed rfl
      rw [← hclosed] at hthrough
      exact hthrough

theorem appendArguments_read (front : Wide) {splitter : Splitter}
    (h : Through finished splitter) (arguments : List Wide) :
    ∃ written, arguments.foldl appendArgument front = front ++ written ∧
      Through (finished ++ arguments) (Splitter.run convention splitter written) := by
  induction arguments generalizing front finished splitter with
  | nil =>
    refine ⟨[], (List.append_nil _).symm, ?_⟩
    rw [List.append_nil]
    exact h
  | cons argument arguments ih =>
    obtain ⟨first, hfirst, hthrough⟩ :=
      appendQuoted_read convention finished (front ++ [space]) argument
    obtain ⟨written, hwritten, hall⟩ := ih (appendArgument front argument) hthrough
    refine ⟨space :: (first ++ written), ?_, ?_⟩
    · rw [List.foldl_cons, hwritten, appendArgument, hfirst, List.append_assoc, List.append_assoc]
      rfl
    · have hblank := h.blank convention
      have hrun : Splitter.run convention splitter (space :: (first ++ written)) =
          Splitter.run convention (Splitter.run convention
            (Splitter.run convention splitter [space]) first) written := by
        rw [← Splitter.run_append, ← Splitter.run_append]
        rfl
      rw [hrun, hblank]
      rw [List.append_assoc] at hall
      exact hall

end Quoting

section ProgramName

/-- A value without quotes is written as it is, but for the backslashes at its end. -/
theorem foldl_unquoted {value : Wide} (h : quote ∉ value) (loop : Wide × Nat) :
    (value.foldl appendCharacter loop).1 ++
        List.replicate (value.foldl appendCharacter loop).2 backslash =
      loop.1 ++ List.replicate loop.2 backslash ++ value := by
  induction value generalizing loop with
  | nil => rw [List.append_nil]; rfl
  | cons c value ih =>
    have hc : ¬ c = quote := fun heq => h (heq ▸ List.mem_cons_self)
    have hrest := ih (fun hmem => h (List.mem_cons_of_mem _ hmem)) (appendCharacter loop c)
    have hstep : (appendCharacter loop c).1 ++
        List.replicate (appendCharacter loop c).2 backslash =
          loop.1 ++ List.replicate loop.2 backslash ++ [c] := by
      cases loop with
      | mk builder pending =>
        by_cases hbackslash : c = backslash
        · rw [hbackslash, appendCharacter_backslash]
          show builder ++ List.replicate (pending + 1) backslash = _
          rw [List.replicate_succ', List.append_assoc]
        · rw [appendCharacter_other builder pending hbackslash hc]
          exact List.append_nil _
    rw [List.foldl_cons, hrest, hstep, List.append_assoc]
    rfl

theorem appendQuoted_path {path : Wide} (hquote : quote ∉ path)
    (hend : path.getLast? ≠ some backslash) (front : Wide) :
    appendQuoted front path = front ++ quote :: (path ++ [quote]) := by
  have hwritten := foldl_unquoted hquote (front ++ [quote], 0)
  unfold appendQuoted
  cases hloop : path.foldl appendCharacter (front ++ [quote], 0) with
  | mk builder pending =>
    rw [hloop] at hwritten
    have hbuilder : builder ++ List.replicate pending backslash = front ++ [quote] ++ path := by
      rw [hwritten]
      exact congrArg (· ++ path) (List.append_nil _)
    cases pending with
    | zero =>
      have hnone : builder = front ++ [quote] ++ path := by
        rw [← hbuilder]
        exact (List.append_nil _).symm
      show builder ++ [] ++ [quote] = _
      rw [List.append_nil, hnone, List.append_assoc, List.append_assoc]
      rfl
    | succ pending =>
      have hlast := congrArg List.getLast? hbuilder
      rw [List.replicate_succ', ← List.append_assoc, List.getLast?_concat] at hlast
      cases path with
      | nil =>
        rw [List.append_nil, List.getLast?_concat] at hlast
        exact absurd (Option.some.inj hlast) (by decide)
      | cons c path =>
        rw [List.getLast?_append] at hlast
        cases hpath : (c :: path).getLast? with
        | none => exact absurd (List.getLast?_eq_none_iff.mp hpath) (List.cons_ne_nil _ _)
        | some last =>
          rw [hpath] at hlast hend
          exact absurd hlast.symm hend

end ProgramName

section Zero

theorem mem_foldl {value : Wide} {loop : Wide × Nat} {c : UInt16}
    (h : c ∈ (value.foldl appendCharacter loop).1) :
    c ∈ loop.1 ∨ c ∈ value ∨ c = backslash ∨ c = quote := by
  induction value generalizing loop with
  | nil => exact Or.inl h
  | cons d value ih =>
    rcases ih h with hloop | hvalue | hsign
    · cases loop with
      | mk builder pending =>
        by_cases hbackslash : d = backslash
        · rw [hbackslash, appendCharacter_backslash] at hloop
          exact Or.inl hloop
        · by_cases hquote : d = quote
          · rw [hquote, appendCharacter_quote, List.append_assoc] at hloop
            rcases List.mem_append.mp hloop with hbuilder | hadded
            · exact Or.inl hbuilder
            · rcases List.mem_append.mp hadded with hslash | hlast
              · exact Or.inr (Or.inr (Or.inl (List.eq_of_mem_replicate hslash)))
              · exact Or.inr (Or.inr (Or.inr (List.mem_singleton.mp hlast)))
          · rw [appendCharacter_other builder pending hbackslash hquote, List.append_assoc] at hloop
            rcases List.mem_append.mp hloop with hbuilder | hadded
            · exact Or.inl hbuilder
            · rcases List.mem_append.mp hadded with hslash | hlast
              · exact Or.inr (Or.inr (Or.inl (List.eq_of_mem_replicate hslash)))
              · rw [List.mem_singleton.mp hlast]
                exact Or.inr (Or.inl List.mem_cons_self)
    · exact Or.inr (Or.inl (List.mem_cons_of_mem _ hvalue))
    · exact Or.inr (Or.inr hsign)

theorem zero_notMem_appendQuoted {front value : Wide} (hfront : 0 ∉ front) (hvalue : 0 ∉ value) :
    0 ∉ appendQuoted front value := by
  have hslash : (0 : UInt16) ≠ backslash := by decide
  have hquote : (0 : UInt16) ≠ quote := by decide
  intro h
  have h' : (0 : UInt16) ∈ (value.foldl appendCharacter (front ++ [quote], 0)).1 ++
      List.replicate ((value.foldl appendCharacter (front ++ [quote], 0)).2 * 2) backslash ++
        [quote] := h
  rcases List.mem_append.mp h' with hbody | hlast
  · rcases List.mem_append.mp hbody with hbuilder | hpending
    · rcases mem_foldl hbuilder with hopen | hmem | hsign
      · rcases List.mem_append.mp hopen with hbefore | hfirst
        · exact hfront hbefore
        · exact hquote (List.mem_singleton.mp hfirst)
      · exact hvalue hmem
      · exact hsign.elim hslash hquote
    · exact hslash (List.eq_of_mem_replicate hpending)
  · exact hquote (List.mem_singleton.mp hlast)

theorem zero_notMem_appendArguments {front : Wide} {arguments : List Wide} (hfront : 0 ∉ front)
    (harguments : ∀ argument ∈ arguments, 0 ∉ argument) :
    0 ∉ arguments.foldl appendArgument front := by
  induction arguments generalizing front with
  | nil => exact hfront
  | cons argument arguments ih =>
    have hspace : 0 ∉ front ++ [space] := by
      intro h
      rcases List.mem_append.mp h with hbefore | hlast
      · exact hfront hbefore
      · exact absurd (List.mem_singleton.mp hlast) (by decide)
    have hfirst := zero_notMem_appendQuoted hspace (harguments argument List.mem_cons_self)
    exact ih hfirst fun other hother => harguments other (List.mem_cons_of_mem _ hother)

end Zero

/-- The program and its arguments come back as they were, under either convention. The path is
not blank and ends in no backslash, and nothing holds a NUL. -/
theorem commandLine_roundTrip (convention : Convention) {executablePath : Wide}
    {arguments : List Wide} (hquote : quote ∉ executablePath)
    (hblank : executablePath.all isWhiteSpace = false)
    (hend : executablePath.getLast? ≠ some backslash) (hpath : 0 ∉ executablePath)
    (harguments : ∀ argument ∈ arguments, 0 ∉ argument) :
    ∃ commandLine, build executablePath arguments = some commandLine ∧
      parse convention commandLine = executablePath :: arguments := by
  refine ⟨arguments.foldl appendArgument (appendQuoted [] executablePath), ?_, ?_⟩
  · unfold build
    rw [hblank]
    rfl
  · have hzero := zero_notMem_appendArguments
      (zero_notMem_appendQuoted List.not_mem_nil hpath) harguments
    have hwhole : ∀ c ∈ arguments.foldl appendArgument (appendQuoted [] executablePath),
        decide (c ≠ 0) = true := fun c hc => decide_eq_true fun heq => hzero (heq ▸ hc)
    have hname := appendQuoted_path hquote hend []
    unfold parse
    rw [List.takeWhile_eq_self_iff.mpr hwhole, hname]
    cases arguments with
    | nil =>
      have hparsed := programName_quoted convention hquote
      show (programName convention (quote :: (executablePath ++ [quote]))).1 ::
        (Splitter.run convention .start
          (programName convention (quote :: (executablePath ++ [quote]))).2).arguments = _
      rw [hparsed]
      rfl
    | cons argument arguments =>
      obtain ⟨first, hfirst, hthrough⟩ := appendQuoted_read convention []
        ([] ++ quote :: (executablePath ++ [quote]) ++ [space]) argument
      obtain ⟨written, hwritten, hall⟩ := appendArguments_read
        (appendArgument ([] ++ quote :: (executablePath ++ [quote])) argument) hthrough arguments
      have htext : (argument :: arguments).foldl appendArgument
          ([] ++ quote :: (executablePath ++ [quote])) =
            quote :: (executablePath ++ quote :: space :: (first ++ written)) := by
        rw [List.foldl_cons, hwritten, appendArgument, hfirst]
        simp only [List.nil_append, List.cons_append, List.append_assoc]
      obtain ⟨hprogram, hrest⟩ := programName_blank convention hquote (first ++ written)
      show (programName convention _).1 :: _ = _
      rw [htext, hprogram, hrest, Splitter.run_append]
      exact congrArg (executablePath :: ·) hall.arguments

def asciiText (text : String) : Wide := text.toList.map fun c => UInt16.ofNat c.toNat

theorem commandLine_roundTrip_probe :
    ∃ commandLine, build (asciiText "C:\\Program Files\\Lab\\probe.exe")
        [asciiText "two words", asciiText "trailing\\", asciiText "quote\"inside", []] =
          some commandLine ∧
      parse .msvc commandLine = [asciiText "C:\\Program Files\\Lab\\probe.exe",
        asciiText "two words", asciiText "trailing\\", asciiText "quote\"inside", []] :=
  commandLine_roundTrip .msvc (by decide) (by decide) (by decide) (by decide) (by decide)

/-- A backslash at the end of the path is doubled, and what follows a NUL is lost; a blank path
is refused. -/
theorem commandLine_misread :
    (build (asciiText "C:\\") []).map (parse .commandLineToArgvW) = some [asciiText "C:\\\\"] ∧
      (build (asciiText "C:\\") []).map (parse .msvc) = some [asciiText "C:\\\\"] ∧
      (build (asciiText "a.exe") [[98, 0, 99]]).map (parse .commandLineToArgvW) =
        some [asciiText "a.exe", asciiText "b"] ∧
      build (asciiText " ") [] = none := by
  decide

end TradeJournalWorker.WindowsCommandLine
