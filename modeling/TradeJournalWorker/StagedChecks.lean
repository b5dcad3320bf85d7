import TradeJournalWorker.ExceptRules

namespace StagedChecks

variable {ε α β : Type}

/-- Ends a procedure with a verdict as soon as a condition holds. -/
def settle (condition : Prop) [Decidable condition] (verdict : ε) : Except ε Unit :=
  if condition then .error verdict else .ok ()

theorem settle_eq_ok {condition : Prop} [Decidable condition] {verdict : ε} :
    settle condition verdict = .ok () ↔ ¬ condition := by
  unfold settle
  split
  next h =>
    refine iff_of_false (fun heq => ?_) (not_not_intro h)
    cases heq
  next h => exact iff_of_true rfl h

theorem settle_of_not {condition : Prop} [Decidable condition] (h : ¬ condition)
    (verdict : ε) : settle condition verdict = .ok () := settle_eq_ok.mpr h

/-- A step that has been passed: its condition does not hold and the rest has run. -/
theorem of_settle_bind {condition : Prop} [Decidable condition] {verdict : ε}
    {f : Unit → Except ε β} {value : β} (h : (settle condition verdict >>= f) = .ok value) :
    ¬ condition ∧ f () = .ok value := by
  obtain ⟨_, hsettle, hrest⟩ := TradeJournalWorker.except_bind_eq_ok h
  exact ⟨settle_eq_ok.mp hsettle, hrest⟩

section Verdicts

variable (P : ε → Prop)

/-- The procedure ends early, and with a verdict that satisfies `P`. -/
def Ends (procedure : Except ε α) : Prop := ∃ verdict, procedure = .error verdict ∧ P verdict

/-- Should the procedure end early, its verdict satisfies `P`. -/
def EndsOnly (procedure : Except ε α) : Prop := ∀ verdict, procedure = .error verdict → P verdict

variable {P}

theorem EndsOnly.ok (value : α) : EndsOnly P (.ok value) := by
  intro verdict h
  cases h

theorem EndsOnly.error {verdict : ε} (h : P verdict) : EndsOnly P (.error verdict : Except ε α) := by
  intro other heq
  cases heq
  exact h

theorem EndsOnly.settle {condition : Prop} [Decidable condition] {verdict : ε} (h : P verdict) :
    EndsOnly P (settle condition verdict) := by
  unfold StagedChecks.settle
  split
  next => exact EndsOnly.error h
  next => exact EndsOnly.ok ()

theorem Ends.settle {condition : Prop} [Decidable condition] {verdict : ε} (hcondition : condition)
    (h : P verdict) : Ends P (settle condition verdict) := by
  unfold StagedChecks.settle
  rw [if_pos hcondition]
  exact ⟨verdict, rfl, h⟩

theorem EndsOnly.bind {first : Except ε α} {next : α → Except ε β} (hfirst : EndsOnly P first)
    (hnext : ∀ a, EndsOnly P (next a)) : EndsOnly P (first >>= next) := by
  cases first with
  | error verdict =>
    intro other h
    cases h
    exact hfirst verdict rfl
  | ok a => exact hnext a

theorem EndsOnly.settle_bind {condition : Prop} [Decidable condition] {verdict : ε}
    {next : Unit → Except ε β} (h : P verdict) (hnext : EndsOnly P (next ())) :
    EndsOnly P (StagedChecks.settle condition verdict >>= next) :=
  EndsOnly.bind (EndsOnly.settle h) fun _ => hnext

theorem EndsOnly.weaken {Q : ε → Prop} {procedure : Except ε α} (h : EndsOnly P procedure)
    (hweaker : ∀ verdict, P verdict → Q verdict) : EndsOnly Q procedure :=
  fun verdict hend => hweaker verdict (h verdict hend)

/-- A step that ends ends the whole. -/
theorem Ends.bind {first : Except ε α} (h : Ends P first) (next : α → Except ε β) :
    Ends P (first >>= next) := by
  obtain ⟨verdict, hfirst, hverdict⟩ := h
  rw [hfirst]
  exact ⟨verdict, rfl, hverdict⟩

/-- What stands before a step that ends cannot hide it when it has no other verdict to give. -/
theorem Ends.after {first : Except ε α} {next : α → Except ε β} (hfirst : EndsOnly P first)
    (hnext : ∀ a, Ends P (next a)) : Ends P (first >>= next) := by
  cases first with
  | error verdict => exact ⟨verdict, rfl, hfirst verdict rfl⟩
  | ok a => exact hnext a

theorem Ends.settle_bind {condition : Prop} [Decidable condition] {verdict : ε}
    {next : Unit → Except ε β} (h : P verdict) (hnext : condition ∨ Ends P (next ())) :
    Ends P (StagedChecks.settle condition verdict >>= next) := by
  by_cases hcondition : condition
  · exact (Ends.settle hcondition h).bind next
  · exact Ends.after (EndsOnly.settle h) fun _ => hnext.resolve_left hcondition

end Verdicts

end StagedChecks
