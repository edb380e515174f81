import Mathlib.Data.List.Basic

/-!
# Overrides

A record is a function `∀ i, β i`. An override sets some fields; of several ones the last wins in
each field.
-/

variable {ι : Type*} {β : ι → Type*}

def Override (β : ι → Type*) := ∀ i, Option (β i)

namespace Override

def apply (u : Override β) (s : ∀ i, β i) : ∀ i, β i := fun i => (u i).getD (s i)

def applyAll (us : List (Override β)) (s : ∀ i, β i) : ∀ i, β i :=
  us.foldl (fun s u => u.apply s) s

def Sets (us : List (Override β)) (i : ι) : Prop := ∃ u ∈ us, (u i).isSome

lemma applyAll_append (us vs : List (Override β)) (s : ∀ i, β i) :
    applyAll (us ++ vs) s = applyAll vs (applyAll us s) :=
  List.foldl_append

variable {i : ι} {us : List (Override β)}

lemma apply_congr (u : Override β) {s t : ∀ i, β i} (h : s i = t i) :
    u.apply s i = u.apply t i := by
  unfold apply
  rw [h]

lemma applyAll_congr (us : List (Override β)) {s t : ∀ i, β i} (h : s i = t i) :
    applyAll us s i = applyAll us t i := by
  induction us generalizing s t with
  | nil => exact h
  | cons u us ih => exact ih (u.apply_congr h)

lemma applyAll_eq_of_sets (h : Sets us i) (s t : ∀ i, β i) : applyAll us s i = applyAll us t i := by
  induction us generalizing s t with
  | nil =>
    obtain ⟨u, hu, _⟩ := h
    cases hu
  | cons u us ih =>
    by_cases hu : (u i).isSome
    · obtain ⟨value, hval⟩ := Option.isSome_iff_exists.1 hu
      apply applyAll_congr us
      simp [apply, hval]
    · obtain ⟨v, hv, hset⟩ := h
      rcases List.mem_cons.1 hv with rfl | hv
      · exact absurd hset hu
      · exact ih ⟨v, hv, hset⟩ _ _

lemma applyAll_eq_of_not_sets (h : ¬ Sets us i) (s : ∀ i, β i) : applyAll us s i = s i := by
  induction us generalizing s with
  | nil => rfl
  | cons u us ih =>
    have hu : u i = none := by
      by_contra hne
      exact h ⟨u, List.mem_cons_self, Option.isSome_iff_ne_none.2 hne⟩
    have hus : ¬ Sets us i := fun ⟨v, hv, hset⟩ => h ⟨v, List.mem_cons_of_mem u hv, hset⟩
    calc applyAll (u :: us) s i = u.apply s i := ih hus _
      _ = s i := by simp [apply, hu]

/-- The first overrides only change a field that the others do not set. -/
lemma applyAll_append_eq_iff (us vs : List (Override β)) (s : ∀ i, β i) :
    applyAll vs s i = applyAll (us ++ vs) s i ↔ Sets vs i ∨ applyAll us s i = s i := by
  rw [applyAll_append]
  by_cases h : Sets vs i
  · simp only [h, true_or, iff_true]
    exact applyAll_eq_of_sets h _ _
  · rw [applyAll_eq_of_not_sets h, applyAll_eq_of_not_sets h]
    simp only [h, false_or]
    exact eq_comm

end Override
