import TradeJournalWorker.EndpointStatuses

namespace TradeJournalWorker

open FaultProgram

/-- One call of `publish` or `invalidate` with the answers of the file system to it. -/
inductive EndpointStep where
  | publish (promotion : EndpointPromotion) (env : PublicationEnv)
  | invalidate (invalidation : EndpointInvalidation) (env : PublicationEnv)

/-- The files after a call, however it ends. -/
def EndpointStep.run (unicode : Unicode) (files : EndpointFiles) : EndpointStep → EndpointFiles
  | .publish promotion env => (publishEndpoint unicode promotion env files).2.2
  | .invalidate invalidation env => (invalidateEndpoint unicode invalidation env files).2.2

def runSteps (unicode : Unicode) (steps : List EndpointStep) (files : EndpointFiles) :
    EndpointFiles :=
  steps.foldl (EndpointStep.run unicode) files

section Exits

variable {unicode : Unicode} {original : EndpointFiles} {plan : PublicationPlan}

def OneOf (before after : RegistryFile) (_ : PublicationEnv) (files : EndpointFiles) : Prop :=
  files.registry = before ∨ files.registry = after

theorem preserves_answered {before after : RegistryFile}
    {answer : PublicationEnv → WriteAnswer String} {change : EndpointFiles → EndpointFiles}
    (h : ∀ env files, OneOf before after env files → OneOf before after env (change files)) :
    Preserves (OneOf before after) (answered answer change) := by
  refine triple_write fun env files hfiles => ?_
  cases answer env with
  | done => exact h env files hfiles
  | failed _ => exact hfiles
  | failedLate _ => exact h env files hfiles
  | crash => exact hfiles

theorem preserves_bestEffort {before after : RegistryFile}
    {answer : PublicationEnv → WriteAnswer String} {change : EndpointFiles → EndpointFiles}
    (h : ∀ env files, OneOf before after env files → OneOf before after env (change files)) :
    Preserves (OneOf before after) (bestEffort (answered answer change)) :=
  preserves_tryCatch (preserves_answered h) fun _ => preserves_pure ()

theorem preserves_onlyIf {before after : RegistryFile} {condition : Bool}
    {p : EndpointProgram Unit} (h : Preserves (OneOf before after) p) :
    Preserves (OneOf before after) (onlyIf condition p) := by
  cases condition with
  | true => exact h
  | false => exact preserves_pure ()

theorem preserves_guarded {α : Type} {after : RegistryFile}
    {registryWritten manifestWritten : Bool} {p : EndpointProgram α}
    (h : Preserves (OneOf original.registry after) p) :
    Preserves (OneOf original.registry after)
      (guarded original plan registryWritten manifestWritten p) := by
  refine preserves_tryCatch h fun error => ?_
  refine preserves_bind (preserves_onlyIf (preserves_bestEffort ?_)) fun _ => ?_
  · exact fun _ _ _ => Or.inl rfl
  refine preserves_bind (preserves_onlyIf (preserves_bestEffort ?_)) fun _ => ?_
  · exact fun _ _ h => h
  refine preserves_bind (preserves_onlyIf (preserves_bestEffort ?_)) fun _ => ?_
  · exact fun _ _ h => h
  refine preserves_bind (preserves_onlyIf (preserves_bestEffort ?_)) fun _ => ?_
  · exact fun _ _ h => h
  exact preserves_raise _

theorem preserves_orRaiseAs {α : Type} {before after : RegistryFile} {error : String}
    (result : Except String α) :
    Preserves (OneOf before after) (orRaiseAs error result) := by
  cases result with
  | ok value => exact preserves_pure value
  | error _ => exact preserves_raise error

theorem preserves_writePublication (promotion : EndpointPromotion) (now : Int) :
    Preserves (OneOf original.registry (.v3 now plan.brokers))
      (writePublication unicode promotion original now plan) := by
  refine preserves_bind (preserves_guarded (preserves_onlyIf (preserves_answered ?_))) fun _ => ?_
  · exact fun _ _ h => h
  refine preserves_bind (preserves_guarded (preserves_onlyIf (preserves_answered ?_))) fun _ => ?_
  · exact fun _ _ h => h
  refine preserves_bind (preserves_guarded (preserves_answered ?_)) fun _ => ?_
  · exact fun _ _ h => h
  refine preserves_bind (preserves_guarded (preserves_answered ?_)) fun _ => ?_
  · exact fun _ _ _ => Or.inr rfl
  refine preserves_guarded (preserves_bind (preserves_answered ?_) fun _ => ?_)
  · exact fun _ _ h => h
  exact preserves_bind preserves_getWorld fun files => preserves_orRaiseAs _

/-- A program about which nothing is known but that it ended. -/
theorem triple_trivial {α : Type} {pre : PublicationEnv → EndpointFiles → Prop}
    (p : EndpointProgram α) :
    Triple pre p (returning (fun _ _ _ => True) fun _ _ => True) := by
  intro env files _
  cases (p env files).1 with
  | returned value => exact True.intro
  | raised error => exact True.intro
  | crashed => exact True.intro

/-- A step that returns has not been rolled back. -/
theorem triple_guarded_returned {α : Type} {pre : PublicationEnv → EndpointFiles → Prop}
    {mid : α → PublicationEnv → EndpointFiles → Prop} {registryWritten manifestWritten : Bool}
    {p : EndpointProgram α} (h : Triple pre p (returning mid fun _ _ => True)) :
    Triple pre (guarded original plan registryWritten manifestWritten p)
      (returning mid fun _ _ => True) := by
  refine triple_tryCatch h (fun _ _ _ h => h) (fun error => ?_) (fun _ _ h => h)
  refine triple_returning (triple_trivial _) fun _ => ?_
  refine triple_returning (triple_trivial _) fun _ => ?_
  refine triple_returning (triple_trivial _) fun _ => ?_
  refine triple_returning (triple_trivial _) fun _ => ?_
  exact triple_raise _ fun _ _ _ => True.intro

theorem triple_answered_returned {answer : PublicationEnv → WriteAnswer String}
    {change : EndpointFiles → EndpointFiles} {pre mid : EndpointFiles → Prop}
    (h : ∀ files, pre files → mid (change files)) :
    Triple (fun _ => pre) (answered answer change)
      (returning (fun _ _ => mid) fun _ _ => True) := by
  refine triple_write fun env files hfiles => ?_
  cases answer env with
  | done => exact h files hfiles
  | failed _ => exact True.intro
  | failedLate _ => exact True.intro
  | crash => exact True.intro

/-- A publication that returns has written its registry, and the resolver has found there what is
returned. -/
theorem triple_writePublication_returned (promotion : EndpointPromotion) (now : Int) :
    Triple (fun _ _ => True) (writePublication unicode promotion original now plan)
      (returning (fun endpoint _ files => files.registry = .v3 now plan.brokers ∧
        resolveEndpoint unicode files (some plan.canonicalBroker)
          (stripText promotion.serverName) = .ok endpoint) fun _ _ => True) := by
  refine triple_returning (triple_trivial _) fun _ => ?_
  refine triple_returning (triple_trivial _) fun _ => ?_
  refine triple_returning (triple_trivial _) fun _ => ?_
  have hwritten : Triple (fun _ _ => True)
      (guarded original plan false true (answered PublicationEnv.registryWrite fun files =>
        { files with registry := .v3 now plan.brokers }))
      (returning (fun _ _ files => files.registry = .v3 now plan.brokers) fun _ _ => True) :=
    triple_guarded_returned (triple_answered_returned fun _ _ => rfl)
  have hanswer : Triple (fun _ files => files.registry = .v3 now plan.brokers)
      (answered PublicationEnv.resolution id)
      (returning (fun _ _ files => files.registry = .v3 now plan.brokers) fun _ _ => True) :=
    triple_answered_returned fun _ h => h
  refine triple_returning hwritten fun _ => triple_guarded_returned ?_
  refine triple_returning hanswer fun _ => triple_read fun files => ?_
  intro env world hworld
  obtain ⟨hregistry, rfl⟩ := hworld
  cases hresolved : resolveEndpoint unicode world (some plan.canonicalBroker)
      (stripText promotion.serverName) with
  | ok endpoint => exact ⟨hregistry, hresolved⟩
  | error error => exact True.intro

theorem publishEndpoint_of_error {promotion : EndpointPromotion} {env : PublicationEnv}
    {files : EndpointFiles} {error : String}
    (h : preparePublication unicode env.now files promotion = .error error) :
    publishEndpoint unicode promotion env files = (.raised error, env, files) := by
  unfold publishEndpoint
  rw [Program.run_bind_returned (Program.run_getEnv _ _),
    Program.run_bind_returned (Program.run_getWorld _ _), h]
  rfl

theorem publishEndpoint_of_ok {promotion : EndpointPromotion} {env : PublicationEnv}
    {files : EndpointFiles} (h : preparePublication unicode env.now files promotion = .ok plan) :
    publishEndpoint unicode promotion env files =
      writePublication unicode promotion files env.now plan env files := by
  unfold publishEndpoint
  rw [Program.run_bind_returned (Program.run_getEnv _ _),
    Program.run_bind_returned (Program.run_getWorld _ _), h]

/-- What a call of `publish` leaves of the registry, however it ends. -/
theorem publish_registry (unicode : Unicode) (promotion : EndpointPromotion)
    (env : PublicationEnv) (files : EndpointFiles) :
    (publishEndpoint unicode promotion env files).2.2.registry = files.registry ∨
      ∃ plan, preparePublication unicode env.now files promotion = .ok plan ∧
        (publishEndpoint unicode promotion env files).2.2.registry = .v3 env.now plan.brokers := by
  cases hprepared : preparePublication unicode env.now files promotion with
  | error error =>
    rw [publishEndpoint_of_error hprepared]
    exact Or.inl rfl
  | ok plan =>
    rw [publishEndpoint_of_ok hprepared]
    have hends : OneOf files.registry (.v3 env.now plan.brokers) env
        (writePublication unicode promotion files env.now plan env files).2.2 :=
      preserves_writePublication promotion env.now env files (Or.inl rfl)
    obtain hkept | hwritten := hends
    · exact Or.inl hkept
    · exact Or.inr ⟨plan, rfl, hwritten⟩

theorem publish_returned {promotion : EndpointPromotion} {env : PublicationEnv}
    {files : EndpointFiles} {endpoint : VerifiedBrokerEndpoint}
    (h : (publishEndpoint unicode promotion env files).1 = .returned endpoint) :
    ∃ plan, preparePublication unicode env.now files promotion = .ok plan ∧
      (publishEndpoint unicode promotion env files).2.2.registry = .v3 env.now plan.brokers ∧
      resolveEndpoint unicode (publishEndpoint unicode promotion env files).2.2
        (some plan.canonicalBroker) (stripText promotion.serverName) = .ok endpoint := by
  cases hprepared : preparePublication unicode env.now files promotion with
  | error error =>
    rw [publishEndpoint_of_error hprepared] at h
    cases h
  | ok plan =>
    rw [publishEndpoint_of_ok hprepared] at h ⊢
    have hpost := @triple_writePublication_returned unicode files plan promotion env.now env files
      True.intro
    rw [h] at hpost
    exact ⟨plan, rfl, hpost⟩

section Invalidation

variable {invalidation : EndpointInvalidation} {env : PublicationEnv} {files : EndpointFiles}

/-- The writes of an invalidation that was prepared. -/
theorem invalidateEndpoint_of_ok {registry : Registry} {label : String} {target : EndpointRecord}
    (h : prepareInvalidation unicode env.now files invalidation = .ok (registry, label, target)) :
    invalidateEndpoint unicode invalidation env files =
      Program.tryCatch
        (answered PublicationEnv.registryWrite (fun files =>
          { files with registry := .v3 registry.updatedAt registry.brokers }) >>= fun _ =>
            readBack unicode invalidation label target)
        (fun error => bestEffort (answered PublicationEnv.restoreRegistry fun written =>
            { written with registry := files.registry }) >>= fun _ =>
          Program.raise
            (if error = invalidationFailure then error else "endpoint invalidation failed"))
        env files := by
  unfold invalidateEndpoint
  rw [Program.run_bind_returned (Program.run_getEnv _ _),
    Program.run_bind_returned (Program.run_getWorld _ _), h]

theorem invalidateEndpoint_of_error {error : String}
    (h : prepareInvalidation unicode env.now files invalidation = .error error) :
    invalidateEndpoint unicode invalidation env files = (.raised error, env, files) := by
  unfold invalidateEndpoint
  rw [Program.run_bind_returned (Program.run_getEnv _ _),
    Program.run_bind_returned (Program.run_getWorld _ _), h]
  rfl

theorem preserves_readBack {before after : RegistryFile} {label : String}
    {target : EndpointRecord} :
    Preserves (OneOf before after) (readBack unicode invalidation label target) := by
  refine preserves_bind (preserves_answered fun _ _ h => h) fun _ => ?_
  refine preserves_bind preserves_getEnv fun env => ?_
  refine preserves_bind preserves_getWorld fun files => ?_
  split
  · split
    · exact preserves_pure ()
    · exact preserves_raise _
  · exact preserves_raise _

/-- The same postcondition for the return and for the two other exits. -/
theorem preserves_returning {α : Type} {inv : PublicationEnv → EndpointFiles → Prop}
    {p : EndpointProgram α} (h : Preserves inv p) :
    Triple inv p (returning (fun _ => inv) inv) := by
  refine Triple.weaken h (fun _ _ h => h) fun exit env world hinv => ?_
  cases exit with
  | returned value => exact hinv
  | raised error => exact hinv
  | crashed => exact hinv

theorem triple_invalidation (original : RegistryFile) (registry : Registry) (label : String)
    (target : EndpointRecord) :
    Triple (fun _ files => files.registry = original)
      (Program.tryCatch
        (answered PublicationEnv.registryWrite (fun files =>
          { files with registry := .v3 registry.updatedAt registry.brokers }) >>= fun _ =>
            readBack unicode invalidation label target)
        (fun error => bestEffort (answered PublicationEnv.restoreRegistry fun written =>
            { written with registry := original }) >>= fun _ =>
          Program.raise
            (if error = invalidationFailure then error else "endpoint invalidation failed")))
      (returning (fun _ _ files => files.registry = .v3 registry.updatedAt registry.brokers)
        (OneOf original (.v3 registry.updatedAt registry.brokers))) := by
  have hwrite : Triple (fun _ files => files.registry = original)
      (answered PublicationEnv.registryWrite (fun files =>
        { files with registry := .v3 registry.updatedAt registry.brokers }))
      (returning (fun _ _ files => files.registry = .v3 registry.updatedAt registry.brokers)
        (OneOf original (.v3 registry.updatedAt registry.brokers))) := by
    refine triple_write fun env files hfiles => ?_
    cases PublicationEnv.registryWrite env with
    | done => exact rfl
    | failed _ => exact Or.inl hfiles
    | failedLate _ => exact Or.inr rfl
    | crash => exact Or.inl hfiles
  have hread : Triple (fun _ files => files.registry = .v3 registry.updatedAt registry.brokers)
      (readBack unicode invalidation label target)
      (returning (fun _ _ files => files.registry = .v3 registry.updatedAt registry.brokers)
        (OneOf original (.v3 registry.updatedAt registry.brokers))) := by
    have hkept : Preserves (OneOf (.v3 registry.updatedAt registry.brokers)
        (.v3 registry.updatedAt registry.brokers)) (readBack unicode invalidation label target) :=
      preserves_readBack
    refine (preserves_returning hkept).weaken (fun _ _ h => Or.inr h) ?_
    exact returning_mono (fun _ _ _ h => h.elim id id) fun _ _ h => Or.inr (h.elim id id)
  refine triple_tryCatch (triple_returning hwrite fun _ => hread) (fun _ _ _ h => h)
    (fun error => ?_) (fun _ _ h => h)
  refine triple_returning (preserves_returning (preserves_bestEffort fun _ _ _ => Or.inl rfl))
    fun _ => ?_
  exact triple_raise _ fun _ _ h => h

/-- What a call of `invalidate` leaves of the registry: the old one or the one with the target
closed, and the latter if it returns. -/
theorem invalidate_registry (unicode : Unicode) (invalidation : EndpointInvalidation)
    (env : PublicationEnv) (files : EndpointFiles) :
    ((invalidateEndpoint unicode invalidation env files).1 ≠ .returned () ∧
        (invalidateEndpoint unicode invalidation env files).2.2.registry = files.registry) ∨
      ∃ registry label target,
        prepareInvalidation unicode env.now files invalidation = .ok (registry, label, target) ∧
        (invalidateEndpoint unicode invalidation env files).2.2.registry =
          .v3 registry.updatedAt registry.brokers := by
  cases hprepared : prepareInvalidation unicode env.now files invalidation with
  | error error =>
    rw [invalidateEndpoint_of_error hprepared]
    exact Or.inl ⟨(fun h => by cases h), rfl⟩
  | ok prepared =>
    obtain ⟨registry, label, target⟩ := prepared
    have hends := @triple_invalidation unicode invalidation files.registry registry label target
      env files rfl
    rw [← invalidateEndpoint_of_ok hprepared] at hends
    cases hexit : (invalidateEndpoint unicode invalidation env files).1 with
    | returned value =>
      rw [hexit] at hends
      exact Or.inr ⟨registry, label, target, rfl, hends⟩
    | raised error =>
      rw [hexit] at hends
      obtain hkept | hwritten := hends
      · exact Or.inl ⟨(fun h => by cases h), hkept⟩
      · exact Or.inr ⟨registry, label, target, rfl, hwritten⟩
    | crashed =>
      rw [hexit] at hends
      obtain hkept | hwritten := hends
      · exact Or.inl ⟨(fun h => by cases h), hkept⟩
      · exact Or.inr ⟨registry, label, target, rfl, hwritten⟩

end Invalidation

end Exits

end TradeJournalWorker
