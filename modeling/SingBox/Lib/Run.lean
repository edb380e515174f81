import Mathlib.Logic.Basic

/-!
# Runs

`Run step ok start s`: `s` is reached from `start` by actions that satisfied `ok` when they were
taken.
-/

/-- The states reached by actions that satisfy a condition. -/
inductive Run {σ α : Type*} (step : σ → α → σ) (ok : σ → α → Prop) (start : σ) : σ → Prop
  | start : Run step ok start start
  | step {s : σ} {a : α} : Run step ok start s → ok s a → Run step ok start (step s a)

/-- What holds at the start and is kept by actions always holds. -/
lemma Run.invariant {σ α : Type*} {step : σ → α → σ} {ok : σ → α → Prop} {start s : σ}
    {I : σ → Prop} (h : Run step ok start s) (hst : I start)
    (hstep : ∀ s a, I s → ok s a → I (step s a)) : I s := by
  induction h with
  | start => exact hst
  | step _ hok ih => exact hstep _ _ ih hok

def Run.Allowed {σ α : Type*} (step : σ → α → σ) (ok : σ → α → Prop) : σ → List α → Prop
  | _, [] => True
  | s, a :: actions => ok s a ∧ Run.Allowed step ok (step s a) actions

instance Run.decidableAllowed {σ α : Type*} (step : σ → α → σ) (ok : σ → α → Prop)
    [∀ s a, Decidable (ok s a)] : ∀ s actions, Decidable (Run.Allowed step ok s actions)
  | _, [] => inferInstanceAs (Decidable True)
  | s, a :: actions =>
    have := Run.decidableAllowed step ok (step s a) actions
    inferInstanceAs (Decidable (ok s a ∧ Run.Allowed step ok (step s a) actions))

lemma Run.foldl {σ α : Type*} {step : σ → α → σ} {ok : σ → α → Prop} {start s : σ}
    (h : Run step ok start s) {actions : List α} (hactions : Run.Allowed step ok s actions) :
    Run step ok start (actions.foldl step s) := by
  induction actions generalizing s with
  | nil => exact h
  | cons a actions ih => exact ih (h.step hactions.1) hactions.2
