import Mathlib.Data.List.TakeWhile

namespace ArgumentRules

abbrev Wide := List UInt16

def backslash : UInt16 := 92

def quote : UInt16 := 34

def space : UInt16 := 32

def isBlank (c : UInt16) : Bool := c == space || c == 9

/-- The two ways a Windows program takes its command line apart. -/
inductive Convention where
  | commandLineToArgvW
  | msvc
  deriving DecidableEq, Repr

/-- `closed` is right behind a quote that may still turn out to be the first of a pair. -/
inductive Mode where
  | unquoted
  | quoted
  | closed
  deriving DecidableEq, Repr

structure Splitter where
  finished : List Wide
  current : Option Wide
  mode : Mode
  slashes : Nat
  deriving DecidableEq, Repr

namespace Splitter

def start : Splitter := ⟨[], none, .unquoted, 0⟩

/-- The next code unit of an argument of which `current` was read. Backslashes are read as
they are until a quote follows; a pair of quotes within quotes is a quote, behind which the
conventions differ. -/
def put (convention : Convention) (finished : List Wide) (current : Wide) (mode : Mode)
    (slashes : Nat) (c : UInt16) : Splitter :=
  if c = backslash then
    ⟨finished, some current, if mode = .quoted then .quoted else .unquoted, slashes + 1⟩
  else if c = quote then
    let current := current ++ List.replicate (slashes / 2) backslash
    if slashes % 2 = 1 then ⟨finished, some (current ++ [quote]), mode, 0⟩
    else
      match mode with
      | .unquoted => ⟨finished, some current, .quoted, 0⟩
      | .quoted => ⟨finished, some current, .closed, 0⟩
      | .closed =>
        ⟨finished, some (current ++ [quote]),
          if convention = .msvc then .quoted else .unquoted, 0⟩
  else if mode ≠ .quoted ∧ isBlank c then
    ⟨finished ++ [current ++ List.replicate slashes backslash], none, .unquoted, 0⟩
  else
    ⟨finished, some (current ++ List.replicate slashes backslash ++ [c]),
      if mode = .quoted then .quoted else .unquoted, 0⟩

def step (convention : Convention) (splitter : Splitter) (c : UInt16) : Splitter :=
  match splitter.current with
  | none => if isBlank c then splitter else put convention splitter.finished [] .unquoted 0 c
  | some current => put convention splitter.finished current splitter.mode splitter.slashes c

def run (convention : Convention) (splitter : Splitter) (text : Wide) : Splitter :=
  text.foldl (step convention) splitter

def arguments (splitter : Splitter) : List Wide :=
  match splitter.current with
  | none => splitter.finished
  | some current => splitter.finished ++ [current ++ List.replicate splitter.slashes backslash]

theorem run_append (convention : Convention) (splitter : Splitter) (text text' : Wide) :
    run convention splitter (text ++ text') = run convention (run convention splitter text) text' :=
  List.foldl_append

/-- Within quotes a row of backslashes is only counted. -/
theorem run_backslashes (convention : Convention) (finished : List Wide) (current : Wide)
    (slashes count : Nat) :
    run convention ⟨finished, some current, .quoted, slashes⟩ (List.replicate count backslash) =
      ⟨finished, some current, .quoted, slashes + count⟩ := by
  induction count generalizing slashes with
  | zero => rfl
  | succ count ih =>
    have hstep : step convention ⟨finished, some current, .quoted, slashes⟩ backslash =
        ⟨finished, some current, .quoted, slashes + 1⟩ := rfl
    rw [List.replicate_succ]
    show run convention (step convention _ backslash) _ = _
    rw [hstep, ih]
    congr 1
    omega

theorem step_escapedQuote (convention : Convention) (finished : List Wide) (current : Wide)
    (count : Nat) :
    step convention ⟨finished, some current, .quoted, count * 2 + 1⟩ quote =
      ⟨finished, some (current ++ List.replicate count backslash ++ [quote]), .quoted, 0⟩ := by
  have hhalf : (count * 2 + 1) / 2 = count := by omega
  have hodd : (count * 2 + 1) % 2 = 1 := by omega
  have hother : ¬ quote = backslash := by decide
  show put convention finished current .quoted (count * 2 + 1) quote = _
  unfold put
  rw [if_neg hother, if_pos rfl]
  simp only [hhalf, if_pos hodd]

theorem step_closingQuote (convention : Convention) (finished : List Wide) (current : Wide)
    (count : Nat) :
    step convention ⟨finished, some current, .quoted, count * 2⟩ quote =
      ⟨finished, some (current ++ List.replicate count backslash), .closed, 0⟩ := by
  have hhalf : count * 2 / 2 = count := by omega
  have heven : ¬ count * 2 % 2 = 1 := by omega
  have hother : ¬ quote = backslash := by decide
  show put convention finished current .quoted (count * 2) quote = _
  unfold put
  rw [if_neg hother, if_pos rfl]
  simp only [hhalf, if_neg heven]

theorem step_quoted (convention : Convention) (finished : List Wide) (current : Wide)
    (slashes : Nat) {c : UInt16} (hbackslash : c ≠ backslash) (hquote : c ≠ quote) :
    step convention ⟨finished, some current, .quoted, slashes⟩ c =
      ⟨finished, some (current ++ List.replicate slashes backslash ++ [c]), .quoted, 0⟩ := by
  show put convention finished current .quoted slashes c = _
  unfold put
  rw [if_neg hbackslash, if_neg hquote, if_neg (by simp)]
  rfl

end Splitter

/-- The program name is read without escapes; the rest follows behind it. -/
def msvcProgramName (quoted : Bool) : Wide → Wide × Wide
  | [] => ([], [])
  | c :: rest =>
    if c = quote then msvcProgramName (!quoted) rest
    else if !quoted && isBlank c then ([], rest)
    else (c :: (msvcProgramName quoted rest).1, (msvcProgramName quoted rest).2)

def programName : Convention → Wide → Wide × Wide
  | .msvc, text => msvcProgramName false text
  | .commandLineToArgvW, text =>
    if text.head? = some quote then
      ((text.drop 1).takeWhile (· ≠ quote), ((text.drop 1).dropWhile (· ≠ quote)).drop 1)
    else (text.takeWhile (!isBlank ·), (text.dropWhile (!isBlank ·)).drop 1)

/-- A command line ends at its first NUL. -/
def parse (convention : Convention) (commandLine : Wide) : List Wide :=
  let name := programName convention (commandLine.takeWhile (· ≠ 0))
  name.1 :: (Splitter.run convention .start name.2).arguments

theorem msvcProgramName_quoted {name rest : Wide} (h : quote ∉ name) :
    msvcProgramName true (name ++ quote :: rest) =
      (name ++ (msvcProgramName false rest).1, (msvcProgramName false rest).2) := by
  induction name with
  | nil => rfl
  | cons c name ih =>
    have hc : ¬ c = quote := fun heq => h (heq ▸ List.mem_cons_self)
    have hname := ih fun hmem => h (List.mem_cons_of_mem _ hmem)
    rw [List.cons_append, msvcProgramName, if_neg hc, hname]
    rfl

/-- A quoted name ends at the next quote, whatever it holds before. -/
theorem programName_quoted (convention : Convention) {name : Wide} (h : quote ∉ name) :
    programName convention (quote :: (name ++ [quote])) = (name, []) := by
  cases convention with
  | msvc =>
    show msvcProgramName true (name ++ [quote]) = _
    rw [msvcProgramName_quoted h]
    show (name ++ [], _) = _
    rw [List.append_nil]
    rfl
  | commandLineToArgvW =>
    have hall : ∀ c ∈ name, decide (c ≠ quote) = true :=
      fun c hc => decide_eq_true fun heq => h (heq ▸ hc)
    show ((name ++ [quote]).takeWhile (· ≠ quote), ((name ++ [quote]).dropWhile _).drop 1) = _
    rw [List.takeWhile_append_of_pos hall, List.dropWhile_append_of_pos hall]
    show (name ++ [], _) = _
    rw [List.append_nil]
    rfl

/-- Behind a quoted name the arguments follow, the blank before them read or not. -/
theorem programName_blank (convention : Convention) {name : Wide} (h : quote ∉ name)
    (rest : Wide) :
    (programName convention (quote :: (name ++ quote :: space :: rest))).1 = name ∧
      Splitter.run convention .start
          (programName convention (quote :: (name ++ quote :: space :: rest))).2 =
        Splitter.run convention .start rest := by
  cases convention with
  | msvc =>
    have hname : programName .msvc (quote :: (name ++ quote :: space :: rest)) = (name, rest) := by
      show msvcProgramName true (name ++ quote :: space :: rest) = _
      rw [msvcProgramName_quoted h]
      show (name ++ [], rest) = _
      rw [List.append_nil]
    rw [hname]
    exact ⟨rfl, rfl⟩
  | commandLineToArgvW =>
    have hall : ∀ c ∈ name, decide (c ≠ quote) = true :=
      fun c hc => decide_eq_true fun heq => h (heq ▸ hc)
    have hname : programName .commandLineToArgvW (quote :: (name ++ quote :: space :: rest)) =
        (name, space :: rest) := by
      show ((name ++ quote :: space :: rest).takeWhile (· ≠ quote),
        ((name ++ quote :: space :: rest).dropWhile _).drop 1) = _
      rw [List.takeWhile_append_of_pos hall, List.dropWhile_append_of_pos hall]
      show (name ++ [], _) = _
      rw [List.append_nil]
      rfl
    rw [hname]
    exact ⟨rfl, rfl⟩

end ArgumentRules
