import Mathlib.Order.Basic
import Mathlib.Order.Lattice

/-- A half-open interval: its start is in it, its stop is not. -/
structure HalfOpen (τ : Type) where
  start : τ
  stop : τ
  deriving DecidableEq, Repr

namespace HalfOpen

variable {τ : Type} [LinearOrder τ]

/-- How many of the intervals a point lies in. -/
def hits (x : τ) (windows : List (HalfOpen τ)) : Nat :=
  windows.countP fun window => window.start ≤ x ∧ x < window.stop

/-- Non-empty intervals, each of which starts where the one before stops. -/
def Consecutive : τ → List (HalfOpen τ) → τ → Prop
  | start, [], stop => start = stop
  | start, window :: rest, stop =>
    window.start = start ∧ window.start < window.stop ∧ Consecutive window.stop rest stop

@[simp] theorem hits_nil (x : τ) : hits x [] = 0 := rfl

theorem hits_append (x : τ) (windows others : List (HalfOpen τ)) :
    hits x (windows ++ others) = hits x windows + hits x others := List.countP_append

theorem hits_cons (x : τ) (window : HalfOpen τ) (rest : List (HalfOpen τ)) :
    hits x (window :: rest) =
      hits x rest + if window.start ≤ x ∧ x < window.stop then 1 else 0 := by
  unfold hits
  rw [List.countP_cons]
  simp only [decide_eq_true_eq]

theorem Consecutive.le {start stop : τ} {windows : List (HalfOpen τ)}
    (h : Consecutive start windows stop) : start ≤ stop := by
  induction windows generalizing start with
  | nil => exact le_of_eq h
  | cons window rest ih =>
    obtain ⟨hstart, hless, hrest⟩ := h
    rw [← hstart]
    exact hless.le.trans (ih hrest)

/-- Consecutive intervals have every point between their ends once and no other point. -/
theorem Consecutive.hits_eq {start stop : τ} {windows : List (HalfOpen τ)}
    (h : Consecutive start windows stop) (x : τ) :
    hits x windows = if start ≤ x ∧ x < stop then 1 else 0 := by
  induction windows generalizing start with
  | nil =>
    have hsame : start = stop := h
    rw [hits_nil, if_neg]
    intro hx
    rw [hsame] at hx
    exact absurd (hx.1.trans_lt hx.2) (lt_irrefl _)
  | cons window rest ih =>
    obtain ⟨hstart, hless, hrest⟩ := h
    have hle := Consecutive.le hrest
    rw [hits_cons, ih hrest]
    rw [← hstart]
    by_cases hlow : x < window.stop
    · have hnot : ¬ (window.stop ≤ x ∧ x < stop) := fun hx => absurd hlow (not_lt.mpr hx.1)
      rw [if_neg hnot, Nat.zero_add]
      by_cases hin : window.start ≤ x
      · rw [if_pos ⟨hin, hlow⟩, if_pos ⟨hin, hlow.trans_le hle⟩]
      · rw [if_neg fun hx => hin hx.1, if_neg fun hx => hin hx.1]
    · have hhigh := not_lt.mp hlow
      rw [if_neg fun hx : window.start ≤ x ∧ x < window.stop => hlow hx.2, Nat.add_zero]
      by_cases hstop : x < stop
      · rw [if_pos ⟨hhigh, hstop⟩, if_pos ⟨hless.le.trans hhigh, hstop⟩]
      · rw [if_neg fun hx => hstop hx.2, if_neg fun hx => hstop hx.2]

theorem Consecutive.stop_mem {start stop : τ} {windows : List (HalfOpen τ)}
    (h : Consecutive start windows stop) (hne : windows ≠ []) :
    start < stop ∧ ∃ window ∈ windows, window.stop = stop := by
  induction windows generalizing start with
  | nil => exact absurd rfl hne
  | cons window rest ih =>
    obtain ⟨hstart, hless, hrest⟩ := h
    rw [← hstart]
    cases rest with
    | nil =>
      have hsame : window.stop = stop := hrest
      exact ⟨hsame ▸ hless, window, List.mem_cons_self, hsame⟩
    | cons next others =>
      obtain ⟨hlater, last, hlast, hstop⟩ := ih hrest (List.cons_ne_nil _ _)
      exact ⟨hless.trans hlater, last, List.mem_cons_of_mem _ hlast, hstop⟩

theorem Consecutive.stop_le {start stop : τ} {windows : List (HalfOpen τ)}
    (h : Consecutive start windows stop) {window : HalfOpen τ} (hmem : window ∈ windows) :
    window.stop ≤ stop := by
  induction windows generalizing start with
  | nil => exact absurd hmem List.not_mem_nil
  | cons head rest ih =>
    obtain ⟨-, -, hrest⟩ := h
    rcases List.mem_cons.mp hmem with rfl | hlater
    · exact Consecutive.le hrest
    · exact ih hrest hlater

theorem hits_eq_zero {x : τ} {windows : List (HalfOpen τ)} (h : ∀ window ∈ windows,
    window.stop ≤ x) : hits x windows = 0 := by
  unfold hits
  rw [List.countP_eq_zero]
  intro window hmem hin
  have hboth : window.start ≤ x ∧ x < window.stop := by simpa using hin
  exact absurd hboth.2 (not_lt.mpr (h window hmem))

/-- The last of a point and the ends of the intervals. -/
def lastStop (start : τ) (windows : List (HalfOpen τ)) : τ :=
  windows.foldl (fun last window => max last window.stop) start

theorem lastStop_append (start : τ) (windows others : List (HalfOpen τ)) :
    lastStop start (windows ++ others) = lastStop (lastStop start windows) others :=
  List.foldl_append

theorem le_lastStop (start : τ) (windows : List (HalfOpen τ)) : start ≤ lastStop start windows := by
  induction windows generalizing start with
  | nil => exact le_rfl
  | cons window rest ih => exact (le_max_left _ _).trans (ih _)

theorem stop_le_lastStop (start : τ) {windows : List (HalfOpen τ)} {window : HalfOpen τ}
    (hmem : window ∈ windows) : window.stop ≤ lastStop start windows := by
  induction windows generalizing start with
  | nil => exact absurd hmem List.not_mem_nil
  | cons head rest ih =>
    rcases List.mem_cons.mp hmem with rfl | hlater
    · exact (le_max_right _ _).trans (le_lastStop _ rest)
    · exact ih _ hlater

theorem lastStop_le {start bound : τ} {windows : List (HalfOpen τ)} (hstart : start ≤ bound)
    (h : ∀ window ∈ windows, window.stop ≤ bound) : lastStop start windows ≤ bound := by
  induction windows generalizing start with
  | nil => exact hstart
  | cons window rest ih =>
    have hfirst := max_le hstart (h window List.mem_cons_self)
    exact ih hfirst fun other hmem => h other (List.mem_cons_of_mem _ hmem)

theorem Consecutive.lastStop_eq {start stop : τ} {windows : List (HalfOpen τ)}
    (h : Consecutive start windows stop) (hne : windows ≠ []) (origin : τ) :
    lastStop origin windows = max origin stop := by
  obtain ⟨-, window, hmem, hstop⟩ := h.stop_mem hne
  refine le_antisymm (lastStop_le (le_max_left _ _) fun other hother => ?_) ?_
  · exact (h.stop_le hother).trans (le_max_right _ _)
  · refine max_le (le_lastStop _ _) ?_
    rw [← hstop]
    exact stop_le_lastStop _ hmem

end HalfOpen
