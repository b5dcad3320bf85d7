import TradeJournalWorker.FaultProgram

namespace FaultProgram

variable {ω σ ε α β : Type}

/-- From an environment and a world satisfying `pre`, every exit satisfies `post`. -/
def Triple (pre : ω → σ → Prop) (p : Program ω σ ε α) (post : Exit ε α → ω → σ → Prop) : Prop :=
  ∀ env world, pre env world → post (p env world).1 (p env world).2.1 (p env world).2.2

/-- An invariant survives the program, also when it raises or is cut off. -/
def Preserves (inv : ω → σ → Prop) (p : Program ω σ ε α) : Prop :=
  Triple inv p (fun _ => inv)

theorem Triple.weaken {pre pre' : ω → σ → Prop} {p : Program ω σ ε α}
    {post post' : Exit ε α → ω → σ → Prop} (h : Triple pre p post)
    (hpre : ∀ env world, pre' env world → pre env world)
    (hpost : ∀ exit env world, post exit env world → post' exit env world) :
    Triple pre' p post' := by
  intro env world hw
  exact hpost _ _ _ (h env world (hpre env world hw))

theorem triple_pure {pre : ω → σ → Prop} {post : Exit ε α → ω → σ → Prop} (value : α)
    (h : ∀ env world, pre env world → post (.returned value) env world) :
    Triple pre (pure value : Program ω σ ε α) post := h

theorem triple_raise {pre : ω → σ → Prop} {post : Exit ε α → ω → σ → Prop} (error : ε)
    (h : ∀ env world, pre env world → post (.raised error) env world) :
    Triple pre (Program.raise error : Program ω σ ε α) post := h

/-- The middle assertion speaks about the exit of the first program: its value goes
to the continuation, its exception or crash straight to the postcondition. -/
theorem triple_bind {pre : ω → σ → Prop} {mid : Exit ε α → ω → σ → Prop}
    {post : Exit ε β → ω → σ → Prop} {p : Program ω σ ε α} {f : α → Program ω σ ε β}
    (first : Triple pre p mid)
    (second : ∀ value, Triple (mid (.returned value)) (f value) post)
    (onRaise : ∀ error env world, mid (.raised error) env world → post (.raised error) env world)
    (onCrash : ∀ env world, mid .crashed env world → post .crashed env world) :
    Triple pre (p >>= f) post := by
  intro env world hw
  have hmid := first env world hw
  rw [Program.run_bind]
  rcases he : p env world with ⟨exit, env', world'⟩
  rw [he] at hmid
  cases exit with
  | returned value => exact second value env' world' hmid
  | raised error => exact onRaise error env' world' hmid
  | crashed => exact onCrash env' world' hmid

/-- A postcondition that hands a value on to `mid` and settles the other two exits. -/
def handOn (mid : α → ω → σ → Prop) (post : Exit ε β → ω → σ → Prop) :
    Exit ε α → ω → σ → Prop
  | .returned value => mid value
  | .raised error => post (.raised error)
  | .crashed => post .crashed

theorem triple_seq {pre : ω → σ → Prop} (mid : α → ω → σ → Prop) {post : Exit ε β → ω → σ → Prop}
    {p : Program ω σ ε α} {f : α → Program ω σ ε β}
    (first : Triple pre p (handOn mid post)) (second : ∀ value, Triple (mid value) (f value) post) :
    Triple pre (p >>= f) post :=
  triple_bind first second (fun _ _ _ h => h) (fun _ _ h => h)

/-- `mid` after a return, `held` after an exception or a crash. -/
def returning (mid : α → ω → σ → Prop) (held : ω → σ → Prop) : Exit ε α → ω → σ → Prop
  | .returned value => mid value
  | .raised _ => held
  | .crashed => held

theorem triple_returning {pre held : ω → σ → Prop} {mid : α → ω → σ → Prop}
    {post : β → ω → σ → Prop} {p : Program ω σ ε α} {f : α → Program ω σ ε β}
    (first : Triple pre p (returning mid held))
    (second : ∀ value, Triple (mid value) (f value) (returning post held)) :
    Triple pre (p >>= f) (returning post held) :=
  triple_bind first second (fun _ _ _ h => h) (fun _ _ h => h)

/-- A return of the second program is all that counts. -/
theorem triple_after {post : β → ω → σ → Prop} {p : Program ω σ ε α} {f : α → Program ω σ ε β}
    (second : ∀ value, Triple (fun _ _ => True) (f value) (returning post fun _ _ => True)) :
    Triple (fun _ _ => True) (p >>= f) (returning post fun _ _ => True) := by
  have hfirst : Triple (fun _ _ => True) p (returning (fun _ _ _ => True) fun _ _ => True) := by
    intro env world _
    cases (p env world).1 with
    | returned value => trivial
    | raised error => trivial
    | crashed => trivial
  exact triple_returning hfirst second

theorem returning_mono {mid mid' : α → ω → σ → Prop} {held held' : ω → σ → Prop}
    (hmid : ∀ value env world, mid value env world → mid' value env world)
    (hheld : ∀ env world, held env world → held' env world) (exit : Exit ε α) (env : ω) (world : σ)
    (h : returning mid held exit env world) : returning mid' held' exit env world := by
  cases exit with
  | returned value => exact hmid value env world h
  | raised error => exact hheld env world h
  | crashed => exact hheld env world h

theorem triple_getWorld {pre : ω → σ → Prop} {post : Exit ε σ → ω → σ → Prop}
    (h : ∀ env world, pre env world → post (.returned world) env world) :
    Triple pre (Program.getWorld : Program ω σ ε σ) post := h

theorem triple_modifyWorld {pre : ω → σ → Prop} {post : Exit ε Unit → ω → σ → Prop} (f : σ → σ)
    (h : ∀ env world, pre env world → post (.returned ()) env (f world)) :
    Triple pre (Program.modifyWorld f : Program ω σ ε Unit) post := h

theorem triple_write {next : ω → WriteAnswer ε × ω} {f : σ → σ} {pre : ω → σ → Prop}
    {post : Exit ε Unit → ω → σ → Prop}
    (h : ∀ env world, pre env world →
      post (next env).1.exit (next env).2 ((next env).1.apply f world)) :
    Triple pre (Program.write next f) post := h

/-- Reading the world fixes it for the continuation. -/
theorem triple_read {pre : ω → σ → Prop} {post : Exit ε β → ω → σ → Prop}
    {f : σ → Program ω σ ε β}
    (h : ∀ start, Triple (fun env world => pre env world ∧ world = start) (f start) post) :
    Triple pre (Program.getWorld >>= f) post :=
  fun env world hw => h world env world ⟨hw, rfl⟩

theorem triple_readEnv {pre : ω → σ → Prop} {post : Exit ε β → ω → σ → Prop}
    {f : ω → Program ω σ ε β}
    (h : ∀ start, Triple (fun env world => pre env world ∧ env = start) (f start) post) :
    Triple pre (Program.getEnv >>= f) post :=
  fun env world hw => h env env world ⟨hw, rfl⟩

theorem triple_consult {γ : Type} {next : ω → γ × ω} {pre : ω → σ → Prop}
    {post : Exit ε γ → ω → σ → Prop}
    (h : ∀ env world, pre env world → post (.returned (next env).1) (next env).2 world) :
    Triple pre (Program.consult next : Program ω σ ε γ) post := h

theorem triple_tryCatch {pre : ω → σ → Prop} {mid post : Exit ε α → ω → σ → Prop}
    {p : Program ω σ ε α} {handler : ε → Program ω σ ε α} (body : Triple pre p mid)
    (onReturn : ∀ value env world, mid (.returned value) env world →
      post (.returned value) env world)
    (onRaise : ∀ error, Triple (mid (.raised error)) (handler error) post)
    (onCrash : ∀ env world, mid .crashed env world → post .crashed env world) :
    Triple pre (Program.tryCatch p handler) post := by
  intro env world hw
  have hmid := body env world hw
  unfold Program.tryCatch
  rcases he : p env world with ⟨exit, env', world'⟩
  rw [he] at hmid
  cases exit with
  | returned value => exact onReturn value env' world' hmid
  | raised error => exact onRaise error env' world' hmid
  | crashed => exact onCrash env' world' hmid

/-- `mid` after a return, `held` after an exception, nothing to show after a crash. -/
def raising (mid : α → ω → σ → Prop) (held : ω → σ → Prop) : Exit ε α → ω → σ → Prop
  | .returned value => mid value
  | .raised _ => held
  | .crashed => fun _ _ => True

theorem triple_raising {pre held : ω → σ → Prop} {mid : α → ω → σ → Prop}
    {post : β → ω → σ → Prop} {p : Program ω σ ε α} {f : α → Program ω σ ε β}
    (first : Triple pre p (raising mid held))
    (second : ∀ value, Triple (mid value) (f value) (raising post held)) :
    Triple pre (p >>= f) (raising post held) :=
  triple_bind first second (fun _ _ _ h => h) (fun _ _ h => h)

theorem triple_handled {pre held held' : ω → σ → Prop} {mid : α → ω → σ → Prop}
    {p : Program ω σ ε α} {handler : ε → Program ω σ ε α}
    (body : Triple pre p (raising mid held))
    (handled : ∀ error, Triple held (handler error) (raising mid held')) :
    Triple pre (Program.tryCatch p handler) (raising mid held') :=
  triple_tryCatch body (fun _ _ _ h => h) handled (fun _ _ h => h)

section Preservation

variable {inv : ω → σ → Prop}

theorem preserves_pure (value : α) : Preserves inv (pure value : Program ω σ ε α) :=
  fun _ _ hw => hw

theorem preserves_raise (error : ε) : Preserves inv (Program.raise error : Program ω σ ε α) :=
  fun _ _ hw => hw

theorem preserves_getWorld : Preserves inv (Program.getWorld : Program ω σ ε σ) :=
  fun _ _ hw => hw

theorem preserves_getEnv : Preserves inv (Program.getEnv : Program ω σ ε ω) :=
  fun _ _ hw => hw

theorem preserves_bind {p : Program ω σ ε α} {f : α → Program ω σ ε β}
    (first : Preserves inv p) (second : ∀ value, Preserves inv (f value)) :
    Preserves inv (p >>= f) :=
  triple_bind first second (fun _ _ _ h => h) (fun _ _ h => h)

theorem preserves_tryCatch {p : Program ω σ ε α} {handler : ε → Program ω σ ε α}
    (body : Preserves inv p) (onRaise : ∀ error, Preserves inv (handler error)) :
    Preserves inv (Program.tryCatch p handler) :=
  triple_tryCatch body (fun _ _ _ h => h) onRaise (fun _ _ h => h)

theorem preserves_tryFinally {p : Program ω σ ε α} {finalizer : Program ω σ ε Unit}
    (body : Preserves inv p) (final : Preserves inv finalizer) :
    Preserves inv (Program.tryFinally p finalizer) := by
  intro env world hw
  have hbody := body env world hw
  unfold Program.tryFinally
  rcases he : p env world with ⟨exit, env', world'⟩
  rw [he] at hbody
  have hfinal := final env' world' hbody
  rcases hf : finalizer env' world' with ⟨exit', env'', world''⟩
  rw [hf] at hfinal
  cases exit <;> cases exit' <;> simp_all

end Preservation

end FaultProgram
