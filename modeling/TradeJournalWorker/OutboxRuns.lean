import TradeJournalWorker.EventNormalizer
import TradeJournalWorker.OutboxTriples

namespace TradeJournalWorker

open FaultProgram FirstOccurrences

variable {π : Type} [Identified π]

inductive OutboxOperation (π : Type) where
  | enqueueMany (payloads : List π)
  | drain
  | reload

/-- One call on the outbox with what the file system and the sender do during it. -/
structure OutboxStep (π : Type) where
  operation : OutboxOperation π
  env : OutboxEnv := {}

def perform : OutboxOperation π → OutboxProgram π Unit
  | .enqueueMany payloads => do
    let _ ← enqueueMany payloads
  | .drain => do
    let _ ← drain
  | .reload => reload

/-- A crashed process comes back with what it reads from disk. -/
def runStep (world : OutboxWorld π) (step : OutboxStep π) : OutboxWorld π :=
  match perform step.operation step.env world with
  | (.crashed, _, world') => (reload {} world').2.2
  | (_, _, world') => world'

def runOutbox (world : OutboxWorld π) (steps : List (OutboxStep π)) : OutboxWorld π :=
  steps.foldl runStep world

/-- An outbox on a path that does not exist yet. -/
def freshOutbox : OutboxWorld π :=
  { state := emptyState, file := none, accepted := [], attempts := [] }

/-- What the users of an outbox rely on after every operation. -/
structure OrderedOutbox (world : OutboxWorld π) : Prop where
  pendingUnique : (pendingIds world.state).Nodup
  disjoint : ∀ id ∈ pendingIds world.state, id ∉ deadLetterIds world.state
  memoryIsDisk : load world.file = .ok world.state
  noLoss : ∀ id ∈ world.accepted,
    id ∈ pendingIds world.state ∨ id ∈ deadLetterIds world.state ∨ id ∈ sentIds world
  noOvertaking : firsts (sentIds world) <+: firsts world.accepted
  barrier : ∀ attempt ∈ world.attempts, attempt.deadLetters = 0

theorem OutboxInvariant.fresh : OutboxInvariant (freshOutbox : OutboxWorld π) := by
  refine ⟨⟨?_, ?_, ?_, ?_⟩, rfl, rfl, ?_⟩
  · exact fun p hp => absurd hp List.not_mem_nil
  · exact List.nodup_nil
  · exact fun entry he => absurd he List.not_mem_nil
  · exact fun key hk => absurd hk List.not_mem_nil
  · exact fun attempt ha => absurd ha List.not_mem_nil

theorem OutboxInvariant.ordered {world : OutboxWorld π} (inv : OutboxInvariant world) :
    OrderedOutbox world := by
  have hhead : firsts (sentIds world) <+: firsts world.accepted :=
    ⟨undelivered world, inv.order.symm⟩
  refine ⟨inv.valid.pendingNodup, ?_, inv.reloads, ?_, hhead, inv.barrier⟩
  · intro id hpending hdead
    exact inv.valid.disjoint id hdead hpending
  · intro id hid
    have hmem : id ∈ firsts (sentIds world) ++ undelivered world := by
      rw [← inv.order]
      exact mem_firsts.mpr hid
    rcases List.mem_append.mp hmem with hsent | hleft
    · exact Or.inr (Or.inr (mem_firsts.mp hsent))
    · have hstate := (List.mem_filter.mp hleft).1
      rcases List.mem_append.mp hstate with hdead | hpending
      · exact Or.inr (Or.inl hdead)
      · exact Or.inl hpending

theorem perform_safe (operation : OutboxOperation π) :
    Triple Safe (perform operation) (fun _ => Safe) := by
  cases operation with
  | enqueueMany payloads =>
    exact preserves_bind (enqueueMany_safe payloads) (fun _ => preserves_pure ())
  | drain => exact preserves_bind drain_safe (fun _ => preserves_pure ())
  | reload => exact reload_safe

theorem runStep_invariant {world : OutboxWorld π} (inv : OutboxInvariant world)
    {step : OutboxStep π} (hlate : step.env.NoLateFailure) :
    OutboxInvariant (runStep world step) := by
  have hsafe := perform_safe step.operation step.env world ⟨hlate, inv⟩
  unfold runStep
  rcases he : perform step.operation step.env world with ⟨exit, env', world'⟩
  rw [he] at hsafe
  cases exit with
  | returned value => exact hsafe.2
  | raised error => exact hsafe.2
  | crashed =>
    have hnone : ({} : OutboxEnv).NoLateFailure := fun error hmem => absurd hmem List.not_mem_nil
    exact (reload_safe {} world' ⟨hnone, hsafe.2⟩).2

theorem runOutbox_invariant {steps : List (OutboxStep π)} {world : OutboxWorld π}
    (inv : OutboxInvariant world) (hlate : ∀ step ∈ steps, step.env.NoLateFailure) :
    OutboxInvariant (runOutbox world steps) := by
  induction steps generalizing world with
  | nil => exact inv
  | cons step rest ih =>
    have hstep := runStep_invariant inv (hlate step List.mem_cons_self)
    exact ih hstep (fun later hmem => hlate later (List.mem_cons_of_mem _ hmem))

/-- A run in which no state replacement fails after its rename keeps the outbox ordered. -/
theorem ordered_of_no_late_failure (steps : List (OutboxStep π))
    (hlate : ∀ step ∈ steps, step.env.NoLateFailure) :
    OrderedOutbox (runOutbox freshOutbox steps) :=
  (runOutbox_invariant OutboxInvariant.fresh hlate).ordered

section LateFailure

/-- The close of position 7 on account 1. -/
def closePayload : Payload :=
  normalizedPayload (fun _ => "0") { login := some "1", server := some "demo" } "now"
    { eventType := .tradeClosed, ticket := "7" }

theorem ordered_of_no_late_failure_close :
    (∀ step ∈ [({ operation := .enqueueMany [closePayload] } : OutboxStep Payload),
        { operation := .drain, env := { persists := [.failed .persistence] } }],
      step.env.NoLateFailure) ∧
    OrderedOutbox (runOutbox freshOutbox
      [({ operation := .enqueueMany [closePayload] } : OutboxStep Payload),
        { operation := .drain, env := { persists := [.failed .persistence] } }]) := by
  have hlate : ∀ step ∈ [({ operation := .enqueueMany [closePayload] } : OutboxStep Payload),
      { operation := .drain, env := { persists := [.failed .persistence] } }],
      step.env.NoLateFailure := by
    intro step hmem error
    simp only [List.mem_cons, List.not_mem_nil, or_false] at hmem
    rcases hmem with rfl | rfl <;> simp
  exact ⟨hlate, ordered_of_no_late_failure _ hlate⟩

/-- The directory sync after the rename fails: the event is on disk and not in memory. -/
theorem not_ordered_after_late_failure :
    ¬ ∀ steps : List (OutboxStep Payload), OrderedOutbox (runOutbox freshOutbox steps) := by
  intro h
  have hmemory := (h [{ operation := .enqueueMany [closePayload]
                        env := { persists := [.failedLate .persistence] } }]).memoryIsDisk
  have hdisk : load (runOutbox freshOutbox
      [{ operation := .enqueueMany [closePayload]
         env := { persists := [.failedLate .persistence] } }]).file =
      .ok ⟨[closePayload], []⟩ := by decide
  rw [hdisk] at hmemory
  exact absurd (congrArg List.length (OutboxState.mk.inj (Except.ok.inj hmemory)).1) (by decide)

end LateFailure

end TradeJournalWorker
