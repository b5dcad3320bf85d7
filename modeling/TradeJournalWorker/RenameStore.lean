import Mathlib.Logic.Function.Basic

namespace RenameStore

/-- An item under a place; a move takes its identity along. -/
structure Item (ι κ : Type) where
  identity : Option ι
  content : κ

def Store (π ι κ : Type) := π → Option (Item ι κ)

inductive Action (π ι κ : Type) where
  | keep
  | rewrite (place : π) (content : κ)
  | remove (place : π)
  | move (source target : π)
  | create (place : π) (item : Item ι κ)

variable {π ι κ : Type}

namespace Action

/-- The store after the action. -/
def apply [DecidableEq π] (store : Store π ι κ) : Action π ι κ → Store π ι κ
  | keep => store
  | rewrite place content =>
    Function.update store place ((store place).map fun item => { item with content := content })
  | remove place => Function.update store place none
  | move source target => Function.update (Function.update store target (store source)) source none
  | create place item => Function.update store place (some item)

/-- A target is vacant, and a new item has a new identity. -/
def Permitted (issued : ι → Prop) (store : Store π ι κ) : Action π ι κ → Prop
  | move source target => source ≠ target ∧ store target = none
  | create place item => store place = none ∧ ∀ id, item.identity = some id → ¬ issued id
  | _ => True

/-- The identities given out so far. -/
def issue (issued : ι → Prop) : Action π ι κ → ι → Prop
  | create _ item => fun id => issued id ∨ item.identity = some id
  | _ => issued

/-- The places that the action changes. -/
def Touches : Action π ι κ → π → Prop
  | keep => fun _ => False
  | rewrite place _ => fun other => other = place
  | remove place => fun other => other = place
  | move source target => fun other => other = source ∨ other = target
  | create place _ => fun other => other = place

theorem issue_mono {issued : ι → Prop} {id : ι} (action : Action π ι κ) (h : issued id) :
    action.issue issued id := by
  cases action with
  | create place item => exact Or.inl h
  | keep => exact h
  | rewrite place content => exact h
  | remove place => exact h
  | move source target => exact h

variable [DecidableEq π]

/-- Everything else is unchanged. -/
theorem apply_of_not_touches {store : Store π ι κ} {action : Action π ι κ} {place : π}
    (h : ¬ action.Touches place) : action.apply store place = store place := by
  cases action with
  | keep => rfl
  | rewrite other content => exact Function.update_of_ne h _ _
  | remove other => exact Function.update_of_ne h _ _
  | move source target =>
    have hsource : place ≠ source := fun heq => h (Or.inl heq)
    have htarget : place ≠ target := fun heq => h (Or.inr heq)
    exact (Function.update_of_ne hsource _ _).trans (Function.update_of_ne htarget _ _)
  | create other item => exact Function.update_of_ne h _ _

theorem apply_rewrite {store : Store π ι κ} {place : π} {item : Item ι κ} {content : κ}
    (h : store place = some item) :
    (rewrite place content).apply store place = some { item with content := content } := by
  have hself : (rewrite place content).apply store place =
      (store place).map fun item => { item with content := content } :=
    Function.update_self place _ store
  rw [hself, h]
  rfl

theorem apply_move {store : Store π ι κ} {source target : π} (h : source ≠ target) :
    (move source target).apply store target = store source := by
  have hkept : (move source target).apply store target =
      Function.update store target (store source) target :=
    Function.update_of_ne (Ne.symm h) _ _
  exact hkept.trans (Function.update_self target _ _)

/-- Where an item comes from: its own place, the source of a move, or nowhere. -/
theorem apply_origin {store : Store π ι κ} {action : Action π ι κ} {place : π} {item : Item ι κ}
    (h : action.apply store place = some item) :
    (∃ old, store place = some old ∧ old.identity = item.identity ∧
        ∀ target, action ≠ move place target) ∨
      (∃ source, action = move source place ∧ store source = some item) ∨
      action = create place item := by
  cases action with
  | keep => exact Or.inl ⟨item, h, rfl, fun _ heq => by cases heq⟩
  | rewrite other content =>
    by_cases hplace : place = other
    · subst hplace
      have hmap := (Function.update_self place _ store).symm.trans h
      obtain ⟨old, hold, rfl⟩ := Option.map_eq_some_iff.mp hmap
      exact Or.inl ⟨old, hold, rfl, fun _ heq => by cases heq⟩
    · have hsame := (Function.update_of_ne hplace _ store).symm.trans h
      exact Or.inl ⟨item, hsame, rfl, fun _ heq => by cases heq⟩
  | remove other =>
    by_cases hplace : place = other
    · subst hplace
      cases (Function.update_self place _ store).symm.trans h
    · have hsame := (Function.update_of_ne hplace _ store).symm.trans h
      exact Or.inl ⟨item, hsame, rfl, fun _ heq => by cases heq⟩
  | move source target =>
    by_cases hsource : place = source
    · subst hsource
      cases (Function.update_self place _ _).symm.trans h
    · have hrest := (Function.update_of_ne hsource _ _).symm.trans h
      by_cases htarget : place = target
      · subst htarget
        exact Or.inr (Or.inl ⟨source, rfl, (Function.update_self place _ store).symm.trans hrest⟩)
      · have hsame := (Function.update_of_ne htarget _ store).symm.trans hrest
        refine Or.inl ⟨item, hsame, rfl, fun _ heq => ?_⟩
        cases heq
        exact hsource rfl
  | create other created =>
    by_cases hplace : place = other
    · subst hplace
      have hcreated := (Function.update_self place _ store).symm.trans h
      cases hcreated
      exact Or.inr (Or.inr rfl)
    · have hsame := (Function.update_of_ne hplace _ store).symm.trans h
      exact Or.inl ⟨item, hsame, rfl, fun _ heq => by cases heq⟩

end Action

/-- No two places hold items of one identity, and every identity was given out. -/
structure Unique (issued : ι → Prop) (store : Store π ι κ) : Prop where
  one : ∀ place other item twin id, store place = some item → store other = some twin →
    item.identity = some id → twin.identity = some id → place = other
  known : ∀ place item id, store place = some item → item.identity = some id → issued id

theorem Unique.apply [DecidableEq π] {issued : ι → Prop} {store : Store π ι κ}
    {action : Action π ι κ} (h : Unique issued store) (hpermitted : action.Permitted issued store) :
    Unique (action.issue issued) (action.apply store) := by
  have hstays : ∀ {place other : π} {item twin : Item ι κ} {id : ι},
      (∃ old, store place = some old ∧ old.identity = item.identity ∧
        ∀ target, action ≠ .move place target) →
      action.apply store other = some twin → item.identity = some id → twin.identity = some id →
      place = other := by
    intro place other item twin id hplace hother hitem htwin
    obtain ⟨old, hold, hsame, hunmoved⟩ := hplace
    have hidentity := hsame.trans hitem
    obtain ⟨old', hold', hsame', _⟩ | ⟨source, hmove, hsource⟩ | hcreate :=
      Action.apply_origin hother
    · exact h.one place other old old' id hold hold' hidentity (hsame'.trans htwin)
    · have heq := h.one place source old twin id hold hsource hidentity htwin
      exact absurd hmove (heq ▸ hunmoved other)
    · rw [hcreate] at hpermitted
      exact absurd (h.known place old id hold hidentity) (hpermitted.2 id htwin)
  constructor
  · intro place other item twin id hplace hother hitem htwin
    obtain hold | hmoved | hcreate := Action.apply_origin hplace
    · exact hstays hold hother hitem htwin
    · obtain hold' | hmoved' | hcreate' := Action.apply_origin hother
      · exact (hstays hold' hplace htwin hitem).symm
      · obtain ⟨_, hmove, _⟩ := hmoved
        obtain ⟨_, hmove', _⟩ := hmoved'
        rw [hmove] at hmove'
        injection hmove'
      · obtain ⟨_, hmove, _⟩ := hmoved
        rw [hmove] at hcreate'
        cases hcreate'
    · obtain hold' | ⟨_, hmove', _⟩ | hcreate' := Action.apply_origin hother
      · exact (hstays hold' hplace htwin hitem).symm
      · rw [hcreate] at hmove'
        cases hmove'
      · rw [hcreate] at hcreate'
        injection hcreate'
  · intro place item id hplace hitem
    obtain ⟨old, hold, hsame, _⟩ | ⟨source, _, hsource⟩ | hcreate := Action.apply_origin hplace
    · exact Action.issue_mono action (h.known place old id hold (hsame.trans hitem))
    · exact Action.issue_mono action (h.known source item id hsource hitem)
    · rw [hcreate]
      exact Or.inr hitem

end RenameStore
