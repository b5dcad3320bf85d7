import Mathlib.Data.List.Forall2

namespace ExceptAgreement

variable {ε α β γ δ : Type}

/-- Both computations raise, or both return and their values are related. -/
inductive Agree (S : α → β → Prop) : Except ε α → Except ε β → Prop where
  | ok {a : α} {b : β} (h : S a b) : Agree S (.ok a) (.ok b)
  | error (e e' : ε) : Agree S (.error e) (.error e')

variable {S : α → β → Prop} {T : γ → δ → Prop}

theorem Agree.of_ok {p : Except ε α} {q : Except ε β} {a : α} (h : Agree S p q) (hp : p = .ok a) :
    ∃ b, q = .ok b ∧ S a b := by
  cases h with
  | ok hab =>
    cases hp
    exact ⟨_, rfl, hab⟩
  | error => cases hp

theorem Agree.of_error {p : Except ε α} {q : Except ε β} {e : ε} (h : Agree S p q)
    (hp : p = .error e) : ∃ e', q = .error e' := by
  cases h with
  | ok => cases hp
  | error e e' => exact ⟨e', rfl⟩

theorem Agree.same {S : α → α → Prop} (hrefl : ∀ a, S a a) (p : Except ε α) : Agree S p p := by
  cases p with
  | ok a => exact .ok (hrefl a)
  | error e => exact .error e e

theorem Agree.weaken {S' : α → β → Prop} {p : Except ε α} {q : Except ε β} (h : Agree S p q)
    (hweaker : ∀ a b, S a b → S' a b) : Agree S' p q := by
  cases h with
  | ok hab => exact .ok (hweaker _ _ hab)
  | error e e' => exact .error e e'

theorem Agree.trans {U : β → γ → Prop} {p : Except ε α} {q : Except ε β} {r : Except ε γ}
    (h : Agree S p q) (hnext : Agree U q r) : Agree (fun a c => ∃ b, S a b ∧ U b c) p r := by
  cases h with
  | ok hab =>
    cases hnext with
    | ok hbc => exact .ok ⟨_, hab, hbc⟩
  | error e e' =>
    cases hnext with
    | error _ e'' => exact .error e e''

theorem Agree.bind {p : Except ε α} {q : Except ε β} {f : α → Except ε γ} {g : β → Except ε δ}
    (h : Agree S p q) (hnext : ∀ a b, S a b → Agree T (f a) (g b)) :
    Agree T (p >>= f) (q >>= g) := by
  cases h with
  | ok hab => exact hnext _ _ hab
  | error e e' => exact .error e e'

theorem agree_mapM {R : γ → δ → Prop} {f : γ → Except ε α} {g : δ → Except ε β} {xs : List γ}
    {ys : List δ} (h : List.Forall₂ R xs ys) (hstep : ∀ x y, R x y → Agree S (f x) (g y)) :
    Agree (List.Forall₂ S) (xs.mapM f) (ys.mapM g) := by
  induction h with
  | nil => exact .ok List.Forall₂.nil
  | cons hxy hrest ih =>
    rw [List.mapM_cons, List.mapM_cons]
    refine (hstep _ _ hxy).bind fun a b hab => ih.bind fun as bs hall => ?_
    exact .ok (List.Forall₂.cons hab hall)

theorem agree_mapM_perm {f : γ → Except ε α} {xs ys : List γ} (h : xs.Perm ys) :
    Agree List.Perm (xs.mapM f) (ys.mapM f) := by
  induction h with
  | nil => exact .ok (List.Perm.refl _)
  | cons x hrest ih =>
    rw [List.mapM_cons, List.mapM_cons]
    refine (Agree.same (S := Eq) (fun a => rfl) (f x)).bind fun a b hab => ih.bind fun as bs hall => ?_
    rw [hab]
    exact .ok (hall.cons b)
  | swap x y rest =>
    simp only [List.mapM_cons]
    cases hy : f y with
    | error e =>
      cases hx : f x with
      | error e' => exact .error e e'
      | ok a => exact .error e e
    | ok b =>
      cases hx : f x with
      | error e => exact .error e e
      | ok a =>
        cases hrest : rest.mapM f with
        | error e => exact .error e e
        | ok others => exact .ok (List.Perm.swap a b others)
  | trans _ _ ihleft ihright =>
    refine (ihleft.trans ihright).weaken ?_
    rintro as cs ⟨bs, hleft, hright⟩
    exact hleft.trans hright

end ExceptAgreement
