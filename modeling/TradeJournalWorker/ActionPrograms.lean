import Mathlib.Logic.Basic

namespace ActionPrograms

/-- A program asks its environment for one action after the other and goes on with the answer.
`hang` is a program that asks for nothing more and never ends. -/
inductive ActionProgram (A : Type) (R : A → Type) (α : Type) where
  | ret (value : α)
  | hang
  | act (action : A) (next : R action → ActionProgram A R α)

variable {A B : Type} {R : A → Type} {Q : B → Type} {σ α β ω ε : Type}

namespace ActionProgram

def andThen : ActionProgram A R α → (α → ActionProgram A R β) → ActionProgram A R β
  | ret value, f => f value
  | hang, _ => hang
  | act action next, f => act action fun answer => (next answer).andThen f

/-- A program over fewer actions as one over more. -/
def lift (inject : A → B) (answer : ∀ action, Q (inject action) → R action) :
    ActionProgram A R α → ActionProgram B Q α
  | ret value => ret value
  | hang => hang
  | act action next => act (inject action) fun given => (next (answer action given)).lift inject answer

end ActionProgram

/-- What a watcher lets a program ask for and what he makes of each answer. -/
structure Watcher (A : Type) (R : A → Type) (σ : Type) where
  allowed : σ → A → Prop
  step : σ → (action : A) → R action → σ → Prop

/-- Whatever the environment answers, the program asks for allowed actions only and ends with
`post`. -/
def Meets (W : Watcher A R σ) (post : α → σ → Prop) : ActionProgram A R α → σ → Prop
  | .ret value, s => post value s
  | .hang, _ => True
  | .act action next, s =>
    W.allowed s action ∧ ∀ answer s', W.step s action answer s' → Meets W post (next answer) s'

/-- One complete execution. -/
inductive Ends (W : Watcher A R σ) : ActionProgram A R α → σ → α → σ → Prop where
  | ret (value : α) (s : σ) : Ends W (.ret value) s value s
  | act {action : A} {next : R action → ActionProgram A R α} {s s' s'' : σ} {value : α}
      (answer : R action) (step : W.step s action answer s')
      (rest : Ends W (next answer) s' value s'') : Ends W (.act action next) s value s''

/-- The states in which a program asks for something. -/
inductive Passes (W : Watcher A R σ) : ActionProgram A R α → σ → A → σ → Prop where
  | here (action : A) (next : R action → ActionProgram A R α) (s : σ) :
      Passes W (.act action next) s action s
  | later {action asked : A} {next : R action → ActionProgram A R α} {s s' s'' : σ}
      (answer : R action) (step : W.step s action answer s')
      (rest : Passes W (next answer) s' asked s'') : Passes W (.act action next) s asked s''

variable {W : Watcher A R σ}

theorem Meets.ends {post : α → σ → Prop} {p : ActionProgram A R α} {s s' : σ} {value : α}
    (h : Meets W post p s) (run : Ends W p s value s') : post value s' := by
  induction run with
  | ret => exact h
  | act answer step _ ih => exact ih (h.2 answer _ step)

theorem Meets.passes {post : α → σ → Prop} {p : ActionProgram A R α} {s s' : σ} {asked : A}
    (h : Meets W post p s) (run : Passes W p s asked s') : W.allowed s' asked := by
  induction run with
  | here => exact h.1
  | later answer step _ ih => exact ih (h.2 answer _ step)

theorem Meets.weaken {post post' : α → σ → Prop} {p : ActionProgram A R α} {s : σ}
    (h : Meets W post p s) (hpost : ∀ value s', post value s' → post' value s') :
    Meets W post' p s := by
  induction p generalizing s with
  | ret value => exact hpost value s h
  | hang => exact h
  | act action next ih => exact ⟨h.1, fun answer s' step => ih answer (h.2 answer s' step)⟩

theorem Meets.andThen {mid : α → σ → Prop} {post : β → σ → Prop} {p : ActionProgram A R α}
    {f : α → ActionProgram A R β} {s : σ} (first : Meets W mid p s)
    (second : ∀ value s', mid value s' → Meets W post (f value) s') :
    Meets W post (p.andThen f) s := by
  induction p generalizing s with
  | ret value => exact second value s first
  | hang => trivial
  | act action next ih => exact ⟨first.1, fun answer s' step => ih answer (first.2 answer s' step)⟩

/-- A watcher of the larger language whose states go along with the smaller one's. -/
theorem Meets.lift {τ : Type} {V : Watcher B Q τ} {inject : A → B}
    {answer : ∀ action, Q (inject action) → R action} {post : α → σ → Prop} (along : σ → τ → Prop)
    {p : ActionProgram A R α} {s : σ} {t : τ} (h : Meets W post p s) (hst : along s t)
    (hallowed : ∀ s t action, along s t → W.allowed s action → V.allowed t (inject action))
    (hstep : ∀ s t action given t', along s t → V.step t (inject action) given t' →
      ∃ s', W.step s action (answer action given) s' ∧ along s' t') :
    Meets V (fun value t' => ∃ s', along s' t' ∧ post value s') (p.lift inject answer) t := by
  induction p generalizing s t with
  | ret value => exact ⟨s, hst, h⟩
  | hang => trivial
  | act action next ih =>
    refine ⟨hallowed s t action hst h.1, fun given t' step => ?_⟩
    obtain ⟨s', hs', halong⟩ := hstep s t action given t' hst step
    exact ih _ (h.2 (answer action given) s' hs') halong

/-- A method of an object with the fields `ω`. What it did to the fields stays when it raises. -/
def Method (A : Type) (R : A → Type) (ω ε α : Type) := ω → ActionProgram A R (Except ε α × ω)

namespace Method

def ret (value : α) : Method A R ω ε α := fun fields => .ret (.ok value, fields)

def andThen (p : Method A R ω ε α) (f : α → Method A R ω ε β) : Method A R ω ε β :=
  fun fields => (p fields).andThen fun
    | (.ok value, fields') => f value fields'
    | (.error error, fields') => .ret (.error error, fields')

instance : Monad (Method A R ω ε) where
  pure := ret
  bind := andThen

def raise (error : ε) : Method A R ω ε α := fun fields => .ret (.error error, fields)

def readFields : Method A R ω ε ω := fun fields => .ret (.ok fields, fields)

def modifyFields (f : ω → ω) : Method A R ω ε Unit := fun fields => .ret (.ok (), f fields)

def perform (action : A) : Method A R ω ε (R action) :=
  fun fields => .act action fun answer => .ret (.ok answer, fields)

def hang : Method A R ω ε α := fun _ => .hang

def ofExcept : Except ε α → Method A R ω ε α
  | .ok value => ret value
  | .error error => raise error

def tryExcept (p : Method A R ω ε α) (handler : ε → Method A R ω ε α) : Method A R ω ε α :=
  fun fields => (p fields).andThen fun
    | (.ok value, fields') => .ret (.ok value, fields')
    | (.error error, fields') => handler error fields'

/-- The finalizer's exception replaces the pending one. -/
def tryFinally (p : Method A R ω ε α) (finalizer : Method A R ω ε Unit) : Method A R ω ε α :=
  fun fields => (p fields).andThen fun (outcome, fields') =>
    (finalizer fields').andThen fun
      | (.ok (), fields'') => .ret (outcome, fields'')
      | (.error error, fields'') => .ret (.error error, fields'')

/-- The method of a part of the object, in a language with more actions. -/
def lift (inject : A → B) (answer : ∀ action, Q (inject action) → R action) {ω' ε' : Type}
    (part : ω' → ω) (setPart : ω → ω' → ω') (error : ε → ε') (p : Method A R ω ε α) :
    Method B Q ω' ε' α :=
  fun fields => ((p (part fields)).lift inject answer).andThen fun (outcome, fields') =>
    .ret (outcome.mapError error, setPart fields' fields)

end Method

/-- From `pre` the method asks for allowed actions only and leaves with `post`. -/
def Ensures (W : Watcher A R σ) (pre : ω → σ → Prop) (p : Method A R ω ε α)
    (post : Except ε α → ω → σ → Prop) : Prop :=
  ∀ fields s, pre fields s → Meets W (fun left s' => post left.1 left.2 s') (p fields) s

section rules

variable {pre : ω → σ → Prop} {post : Except ε β → ω → σ → Prop}

theorem Ensures.weaken {pre' : ω → σ → Prop} {p : Method A R ω ε α}
    {post post' : Except ε α → ω → σ → Prop} (h : Ensures W pre p post)
    (hpre : ∀ fields s, pre' fields s → pre fields s)
    (hpost : ∀ left fields s, post left fields s → post' left fields s) :
    Ensures W pre' p post' := by
  intro fields s hs
  exact (h fields s (hpre fields s hs)).weaken fun left s' hleft => hpost left.1 left.2 s' hleft

theorem Ensures.start {pre' : ω → σ → Prop} {p : Method A R ω ε β} (h : Ensures W pre p post)
    (hpre : ∀ fields s, pre' fields s → pre fields s) : Ensures W pre' p post :=
  fun fields s hs => h fields s (hpre fields s hs)

theorem ensures_given {fact : Prop} {p : Method A R ω ε β} (h : fact → Ensures W pre p post) :
    Ensures W (fun fields s => fact ∧ pre fields s) p post :=
  fun fields s hs => h hs.1 fields s hs.2

theorem ensures_bind (mid : Except ε α → ω → σ → Prop) {p : Method A R ω ε α}
    {f : α → Method A R ω ε β} (first : Ensures W pre p mid)
    (second : ∀ value, Ensures W (mid (.ok value)) (f value) post)
    (raised : ∀ error fields s, mid (.error error) fields s → post (.error error) fields s) :
    Ensures W pre (p >>= f) post := by
  intro fields s hs
  refine (first fields s hs).andThen ?_
  rintro ⟨left, fields'⟩ s' hmid
  cases left with
  | ok value => exact second value fields' s' hmid
  | error error => exact raised error fields' s' hmid

theorem ensures_pure {post : Except ε α → ω → σ → Prop} (value : α)
    (h : ∀ fields s, pre fields s → post (.ok value) fields s) :
    Ensures W pre (pure value : Method A R ω ε α) post := h

theorem ensures_raise {post : Except ε α → ω → σ → Prop} (error : ε)
    (h : ∀ fields s, pre fields s → post (.error error) fields s) :
    Ensures W pre (Method.raise error : Method A R ω ε α) post := h

theorem ensures_read {f : ω → Method A R ω ε β}
    (h : ∀ seen, Ensures W (fun fields s => fields = seen ∧ pre fields s) (f seen) post) :
    Ensures W pre (Method.readFields >>= f) post := by
  intro fields s hs
  exact h fields fields s ⟨rfl, hs⟩

theorem ensures_modify {post : Except ε Unit → ω → σ → Prop} (f : ω → ω)
    (h : ∀ fields s, pre fields s → post (.ok ()) (f fields) s) :
    Ensures W pre (Method.modifyFields f) post := h

theorem ensures_perform {action : A} {post : Except ε (R action) → ω → σ → Prop}
    (hallowed : ∀ fields s, pre fields s → W.allowed s action)
    (h : ∀ fields s answer s', pre fields s → W.step s action answer s' →
      post (.ok answer) fields s') :
    Ensures W pre (Method.perform action) post := by
  intro fields s hs
  exact ⟨hallowed fields s hs, fun answer s' step => h fields s answer s' hs step⟩

/-- What is asked for is answered, and the continuation starts from what the answer leaves. -/
theorem ensures_ask {action : A} {f : R action → Method A R ω ε β}
    (mid : R action → ω → σ → Prop) (hallowed : ∀ fields s, pre fields s → W.allowed s action)
    (h : ∀ fields s answer s', pre fields s → W.step s action answer s' → mid answer fields s')
    (rest : ∀ answer, Ensures W (mid answer) (f answer) post) :
    Ensures W pre (Method.perform action >>= f) post := by
  intro fields s hs
  exact ⟨hallowed fields s hs, fun answer s' step =>
    rest answer fields s' (h fields s answer s' hs step)⟩

theorem ensures_tryExcept (mid : Except ε α → ω → σ → Prop)
    {post : Except ε α → ω → σ → Prop} {p : Method A R ω ε α}
    {handler : ε → Method A R ω ε α} (body : Ensures W pre p mid)
    (passed : ∀ value fields s, mid (.ok value) fields s → post (.ok value) fields s)
    (handled : ∀ error, Ensures W (mid (.error error)) (handler error) post) :
    Ensures W pre (p.tryExcept handler) post := by
  intro fields s hs
  refine (body fields s hs).andThen ?_
  rintro ⟨left, fields'⟩ s' hmid
  cases left with
  | ok value => exact passed value fields' s' hmid
  | error error => exact handled error fields' s' hmid

theorem ensures_tryFinally (mid : Except ε α → ω → σ → Prop)
    {post : Except ε α → ω → σ → Prop} {p : Method A R ω ε α}
    {finalizer : Method A R ω ε Unit} (body : Ensures W pre p mid)
    (final : ∀ left, Ensures W (mid left) finalizer fun done fields s =>
      post (done.bind fun _ => left) fields s) :
    Ensures W pre (p.tryFinally finalizer) post := by
  intro fields s hs
  refine (body fields s hs).andThen ?_
  rintro ⟨left, fields'⟩ s' hmid
  refine (final left fields' s' hmid).andThen ?_
  rintro ⟨done, fields''⟩ s'' hdone
  cases done with
  | ok value => exact hdone
  | error error => exact hdone

end rules

end ActionPrograms
