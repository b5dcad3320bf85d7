import Mathlib.Data.List.Forall2

namespace TradeJournalWorker

/-- A check that raises. -/
def demand (condition : Prop) [Decidable condition] (error : String) : Except String Unit :=
  if condition then .ok () else .error error

theorem demand_eq_ok {condition : Prop} [Decidable condition] {error : String} :
    demand condition error = .ok () ↔ condition := by
  unfold demand
  split
  next h => exact ⟨fun _ => h, fun _ => rfl⟩
  next h =>
    refine ⟨fun heq => ?_, fun hc => absurd hc h⟩
    cases heq

def orRaise {α : Type} (value : Option α) (error : String) : Except String α :=
  match value with
  | some a => .ok a
  | none => .error error

theorem orRaise_eq_ok {α : Type} {value : Option α} {error : String} {a : α} :
    orRaise value error = .ok a ↔ value = some a := by
  cases value with
  | none => simp [orRaise]
  | some b => simp [orRaise]

def theOnly {α : Type} (values : List α) (error : String) : Except String α :=
  match values with
  | [value] => .ok value
  | _ => .error error

theorem theOnly_eq_ok {α : Type} {values : List α} {error : String} {value : α}
    (h : theOnly values error = .ok value) : values = [value] := by
  unfold theOnly at h
  split at h
  next => cases h; rfl
  next => cases h

theorem except_bind_eq_ok {ε α β : Type} {p : Except ε α} {f : α → Except ε β} {value : β}
    (h : (p >>= f) = .ok value) : ∃ a, p = .ok a ∧ f a = .ok value := by
  cases p with
  | error e => cases h
  | ok a => exact ⟨a, rfl, h⟩

theorem except_ok_bind {ε α β : Type} (a : α) (f : α → Except ε β) :
    ((.ok a : Except ε α) >>= f) = f a := rfl

theorem demand_bind {β : Type} {condition : Prop} [Decidable condition] {error : String}
    (h : condition) (f : Unit → Except String β) : (demand condition error >>= f) = f () := by
  rw [demand_eq_ok.mpr h]
  rfl

theorem orRaise_bind {α β : Type} {value : Option α} {a : α} {error : String}
    (h : value = some a) (f : α → Except String β) : (orRaise value error >>= f) = f a := by
  rw [orRaise_eq_ok.mpr h]
  rfl

theorem theOnly_bind {α β : Type} {values : List α} {a : α} {error : String}
    (h : values = [a]) (f : α → Except String β) : (theOnly values error >>= f) = f a := by
  rw [h]
  rfl

theorem mapM_eq_self {α ε : Type} {f : α → Except ε α} {xs : List α}
    (h : ∀ x ∈ xs, f x = .ok x) : xs.mapM f = .ok xs := by
  induction xs with
  | nil => rfl
  | cons x rest ih =>
    have hx := h x (by simp)
    have hrest := ih fun y hy => h y (List.mem_cons_of_mem _ hy)
    rw [List.mapM_cons, hx, hrest]
    rfl

theorem forall₂_of_mapM {α β ε : Type} {f : α → Except ε β} {xs : List α} {ys : List β}
    (h : xs.mapM f = .ok ys) : List.Forall₂ (fun x y => f x = .ok y) xs ys := by
  induction xs generalizing ys with
  | nil =>
    cases h
    exact List.Forall₂.nil
  | cons x rest ih =>
    rw [List.mapM_cons] at h
    cases hx : f x with
    | error error =>
      rw [hx] at h
      cases h
    | ok y =>
      rw [hx] at h
      cases hrest : rest.mapM f with
      | error error =>
        rw [hrest] at h
        cases h
      | ok others =>
        rw [hrest] at h
        cases h
        exact List.Forall₂.cons hx (ih hrest)

theorem exists_of_mem_right {α β : Type} {related : α → β → Prop} {xs : List α} {ys : List β}
    (h : List.Forall₂ related xs ys) {y : β} (hy : y ∈ ys) : ∃ x ∈ xs, related x y := by
  induction h with
  | nil => exact absurd hy List.not_mem_nil
  | cons hhead _ ih =>
    rcases List.mem_cons.mp hy with rfl | hy
    · exact ⟨_, List.mem_cons_self, hhead⟩
    · obtain ⟨x, hx, hrelated⟩ := ih hy
      exact ⟨x, List.mem_cons_of_mem _ hx, hrelated⟩

theorem exists_of_mem_left {α β : Type} {related : α → β → Prop} {xs : List α} {ys : List β}
    (h : List.Forall₂ related xs ys) {x : α} (hx : x ∈ xs) : ∃ y ∈ ys, related x y :=
  exists_of_mem_right h.flip hx

theorem mapM_eq_ok {α β ε : Type} {f : α → Except ε β} {g : α → β} {xs : List α}
    (h : ∀ x ∈ xs, f x = .ok (g x)) : xs.mapM f = .ok (xs.map g) := by
  induction xs with
  | nil => rfl
  | cons x rest ih =>
    rw [List.mapM_cons, h x List.mem_cons_self, ih fun y hy => h y (List.mem_cons_of_mem _ hy)]
    rfl

theorem mapM_of_forall₂ {α β ε : Type} {f : α → Except ε β} {xs : List α} {ys : List β}
    (h : List.Forall₂ (fun x y => f x = .ok y) xs ys) : xs.mapM f = .ok ys := by
  induction h with
  | nil => rfl
  | cons hx _ ih =>
    rw [List.mapM_cons, hx, ih]
    rfl

theorem exists_mapM_eq_ok {α β ε : Type} {f : α → Except ε β} {xs : List α}
    (h : ∀ x ∈ xs, ∃ y, f x = .ok y) : ∃ ys, xs.mapM f = .ok ys := by
  induction xs with
  | nil => exact ⟨[], rfl⟩
  | cons x rest ih =>
    obtain ⟨y, hy⟩ := h x List.mem_cons_self
    obtain ⟨ys, hys⟩ := ih fun other hother => h other (List.mem_cons_of_mem _ hother)
    refine ⟨y :: ys, ?_⟩
    rw [List.mapM_cons, hy, hys]
    rfl

theorem forM_ok_iff {α ε : Type} {f : α → Except ε Unit} {xs : List α} :
    xs.forM f = .ok () ↔ ∀ x ∈ xs, f x = .ok () := by
  induction xs with
  | nil => exact iff_of_true rfl fun x hx => absurd hx List.not_mem_nil
  | cons x rest ih =>
    rw [List.forall_mem_cons, ← ih]
    show (f x >>= fun _ => rest.forM f) = .ok () ↔ _
    constructor
    · intro h
      obtain ⟨unit, hx, hrest⟩ := except_bind_eq_ok h
      exact ⟨hx, hrest⟩
    · intro h
      rw [h.1]
      exact h.2

/-- The results of a list in another order are the results in another order. -/
theorem mapM_perm {α β ε : Type} {f : α → Except ε β} {xs others : List α} {ys : List β}
    (h : xs.mapM f = .ok ys) (hperm : others.Perm xs) :
    ∃ results, others.mapM f = .ok results ∧ results.Perm ys := by
  induction hperm generalizing ys with
  | nil =>
    cases h
    exact ⟨[], rfl, List.Perm.nil⟩
  | cons x _ ih =>
    obtain ⟨y, hx, h⟩ := except_bind_eq_ok ((List.mapM_cons).symm.trans h)
    obtain ⟨rest, hrest, h⟩ := except_bind_eq_ok h
    cases h
    obtain ⟨results, hresults, hsame⟩ := ih hrest
    refine ⟨y :: results, ?_, hsame.cons y⟩
    rw [List.mapM_cons, hx, hresults]
    rfl
  | swap x y rest =>
    have hpairs := forall₂_of_mapM h
    cases hpairs with
    | cons hx hpairs =>
      cases hpairs with
      | cons hy hrest =>
        exact ⟨_, mapM_of_forall₂ (.cons hy (.cons hx hrest)), List.Perm.swap _ _ _⟩
  | trans _ _ ihfirst ihsecond =>
    obtain ⟨middle, hmiddle, hsame⟩ := ihsecond h
    obtain ⟨results, hresults, hagain⟩ := ihfirst hmiddle
    exact ⟨results, hresults, hagain.trans hsame⟩

end TradeJournalWorker
