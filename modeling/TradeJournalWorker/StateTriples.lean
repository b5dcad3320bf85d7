import Mathlib.Logic.Basic

namespace StateTriples

variable {σ α β : Type}

/-- From every state satisfying `pre` the program's value and final state satisfy `post`. -/
def Ensures (pre : σ → Prop) (p : StateM σ α) (post : α → σ → Prop) : Prop :=
  ∀ s, pre s → post (p.run s : α × σ).1 (p.run s : α × σ).2

theorem Ensures.weaken {pre pre' : σ → Prop} {p : StateM σ α} {post post' : α → σ → Prop}
    (h : Ensures pre p post) (hpre : ∀ s, pre' s → pre s)
    (hpost : ∀ value s, post value s → post' value s) : Ensures pre' p post' := by
  intro s hs
  exact hpost _ _ (h s (hpre s hs))

theorem ensures_pure {pre : σ → Prop} {post : α → σ → Prop} (value : α)
    (h : ∀ s, pre s → post value s) : Ensures pre (pure value) post := h

theorem ensures_bind {pre : σ → Prop} (mid : α → σ → Prop) {post : β → σ → Prop}
    {p : StateM σ α} {f : α → StateM σ β} (first : Ensures pre p mid)
    (second : ∀ value, Ensures (mid value) (f value) post) : Ensures pre (p >>= f) post := by
  intro s hs
  exact second _ _ (first s hs)

/-- What is read satisfies the precondition, which the continuation starts from. -/
theorem ensures_read {pre : σ → Prop} {post : β → σ → Prop} {f : σ → StateM σ β}
    (h : ∀ start, pre start → Ensures pre (f start) post) : Ensures pre (get >>= f) post := by
  intro s hs
  exact h s hs s hs

theorem ensures_modify {pre : σ → Prop} {post : Unit → σ → Prop} (f : σ → σ)
    (h : ∀ s, pre s → post () (f s)) : Ensures pre (modify f) post := h

theorem ensures_modifyGet {pre : σ → Prop} {post : α → σ → Prop} (f : σ → α × σ)
    (h : ∀ s, pre s → post (f s).1 (f s).2) : Ensures pre (modifyGet f) post := h

end StateTriples
