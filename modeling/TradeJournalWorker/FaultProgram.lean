import Mathlib.Data.List.Basic

namespace FaultProgram

/-- How a program ends: with a value, with an exception, or cut off by a crash. -/
inductive Exit (ε α : Type) where
  | returned (value : α)
  | raised (error : ε)
  | crashed
  deriving DecidableEq, Repr

def Exit.mapError {ε ε' α : Type} (f : ε → ε') : Exit ε α → Exit ε' α
  | returned value => returned value
  | raised error => raised (f error)
  | crashed => crashed

/-- A program consumes the answers of its environment and acts on a world that
outlives its exit, whichever of the three it is. -/
def Program (ω σ ε α : Type) := ω → σ → Exit ε α × ω × σ

namespace Program

variable {ω σ ε α β : Type}

def ret (value : α) : Program ω σ ε α := fun env world => (.returned value, env, world)

/-- Exceptions and crashes both skip the continuation. -/
def andThen (p : Program ω σ ε α) (f : α → Program ω σ ε β) : Program ω σ ε β :=
  fun env world =>
    match p env world with
    | (.returned value, env', world') => f value env' world'
    | (.raised error, env', world') => (.raised error, env', world')
    | (.crashed, env', world') => (.crashed, env', world')

instance : Monad (Program ω σ ε) where
  pure := ret
  bind := andThen

def raise (error : ε) : Program ω σ ε α := fun env world => (.raised error, env, world)

def crash : Program ω σ ε α := fun env world => (.crashed, env, world)

def getWorld : Program ω σ ε σ := fun env world => (.returned world, env, world)

def getEnv : Program ω σ ε ω := fun env world => (.returned env, env, world)

def modifyWorld (f : σ → σ) : Program ω σ ε Unit := fun env world => (.returned (), env, f world)

/-- Take the next answer out of the environment. -/
def consult (next : ω → β × ω) : Program ω σ ε β :=
  fun env world => (.returned (next env).1, (next env).2, world)

/-- A call into the environment that leaves the world alone. -/
def perform (next : ω → Exit ε α × ω) : Program ω σ ε α :=
  fun env world => ((next env).1, (next env).2, world)

def tryCatch (p : Program ω σ ε α) (handler : ε → Program ω σ ε α) : Program ω σ ε α :=
  fun env world =>
    match p env world with
    | (.raised error, env', world') => handler error env' world'
    | other => other

theorem run_pure (value : α) (env : ω) (world : σ) :
    (pure value : Program ω σ ε α) env world = (.returned value, env, world) := rfl

theorem run_getWorld (env : ω) (world : σ) :
    (getWorld : Program ω σ ε σ) env world = (.returned world, env, world) := rfl

theorem run_getEnv (env : ω) (world : σ) :
    (getEnv : Program ω σ ε ω) env world = (.returned env, env, world) := rfl

theorem run_bind (p : Program ω σ ε α) (f : α → Program ω σ ε β) (env : ω) (world : σ) :
    (p >>= f) env world =
      match p env world with
      | (.returned value, env', world') => f value env' world'
      | (.raised error, env', world') => (.raised error, env', world')
      | (.crashed, env', world') => (.crashed, env', world') := rfl

theorem run_bind_returned {p : Program ω σ ε α} {f : α → Program ω σ ε β} {env env' : ω}
    {world world' : σ} {value : α} (h : p env world = (.returned value, env', world')) :
    (p >>= f) env world = f value env' world' := by
  rw [run_bind, h]

/-- The finalizer runs after a value and after an exception, never after a crash;
an exception of its own replaces the pending one. -/
def tryFinally (p : Program ω σ ε α) (finalizer : Program ω σ ε Unit) : Program ω σ ε α :=
  fun env world =>
    match p env world with
    | (.crashed, env', world') => (.crashed, env', world')
    | (exit, env', world') =>
      match finalizer env' world' with
      | (.returned _, env'', world'') => (exit, env'', world'')
      | (.raised error, env'', world'') => (.raised error, env'', world'')
      | (.crashed, env'', world'') => (.crashed, env'', world'')

/-- A program about one part of a larger environment and world. -/
def zoom {ω' σ' ε' : Type} (env : ω' → ω) (setEnv : ω → ω' → ω') (world : σ' → σ)
    (setWorld : σ → σ' → σ') (error : ε → ε') (p : Program ω σ ε α) : Program ω' σ' ε' α :=
  fun env' world' =>
    let (exit, envAfter, worldAfter) := p (env env') (world world')
    (exit.mapError error, setEnv envAfter env', setWorld worldAfter world')

end Program

/-- What the environment does to one durable write. `failedLate` is an operation
that took effect and reported an error nevertheless. -/
inductive WriteAnswer (ε : Type) where
  | done
  | failed (error : ε)
  | failedLate (error : ε)
  | crash
  deriving DecidableEq, Repr

namespace WriteAnswer

variable {ε σ : Type}

def exit : WriteAnswer ε → Exit ε Unit
  | done => .returned ()
  | failed error => .raised error
  | failedLate error => .raised error
  | crash => .crashed

def mapError {ε' : Type} (f : ε → ε') : WriteAnswer ε → WriteAnswer ε'
  | done => done
  | failed error => failed (f error)
  | failedLate error => failedLate (f error)
  | crash => crash

/-- The world after the write was answered. -/
def apply (answer : WriteAnswer ε) (f : σ → σ) (world : σ) : σ :=
  match answer with
  | done => f world
  | failedLate _ => f world
  | failed _ => world
  | crash => world

@[simp] theorem apply_done (f : σ → σ) (world : σ) :
    (done : WriteAnswer ε).apply f world = f world := rfl

@[simp] theorem apply_failed (error : ε) (f : σ → σ) (world : σ) :
    (failed error).apply f world = world := rfl

@[simp] theorem apply_failedLate (error : ε) (f : σ → σ) (world : σ) :
    (failedLate error).apply f world = f world := rfl

@[simp] theorem apply_crash (f : σ → σ) (world : σ) :
    (crash : WriteAnswer ε).apply f world = world := rfl

end WriteAnswer

/-- The head of a list of answers, with a default once the list is used up. -/
def nextAnswer {β : Type} (default : β) : List β → β × List β
  | [] => (default, [])
  | answer :: rest => (answer, rest)

theorem nextAnswer_fst_mem {β : Type} (default : β) (answers : List β) :
    (nextAnswer default answers).1 = default ∨ (nextAnswer default answers).1 ∈ answers := by
  cases answers with
  | nil => exact Or.inl rfl
  | cons answer rest => exact Or.inr (by simp [nextAnswer])

theorem nextAnswer_snd_subset {β : Type} {default : β} (answers : List β) :
    (nextAnswer default answers).2 ⊆ answers := by
  cases answers with
  | nil => exact fun x hx => hx
  | cons answer rest => exact fun x hx => List.mem_cons_of_mem _ hx

/-- One durable write, answered by the environment. -/
def Program.write {ω σ ε : Type} (next : ω → WriteAnswer ε × ω) (f : σ → σ) :
    Program ω σ ε Unit :=
  fun env world => ((next env).1.exit, (next env).2, (next env).1.apply f world)

end FaultProgram
