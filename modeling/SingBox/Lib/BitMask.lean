import Mathlib.Data.BitVec

/-!
# Finite sets coded as machine words

A word `m : BitVec w` codes the set of the indices whose bit is set; bitwise or is the union.
-/

namespace BitMask
open BitVec
variable {w : ℕ} {α : Type*}

lemma getLsbD_one_shiftLeft (i j : ℕ) (hi : i < w) : (1#w <<< i).getLsbD j = decide (j = i) := by
  rw [getLsbD_shiftLeft, getLsbD_one]
  by_cases h : j = i
  · subst h
    simp [hi]
    omega
  · by_cases hlt : j < i
    · simp [h, hlt]
    · have hne : ¬ j - i = 0 := by omega
      simp [h, hne]

lemma and_one_shiftLeft_ne_zero (m : BitVec w) (i : ℕ) (hi : i < w) :
    (m &&& 1#w <<< i != 0#w) = m.getLsbD i := by
  cases h : m.getLsbD i with
  | true =>
    have hne : m &&& 1#w <<< i ≠ 0#w := by
      intro h0
      have hbit := congrArg (fun x : BitVec w => x.getLsbD i) h0
      simp [getLsbD_one_shiftLeft i i hi, h] at hbit
    simpa using hne
  | false =>
    have h0 : m &&& 1#w <<< i = 0#w := by
      apply eq_of_getLsbD_eq
      intro j _
      rw [getLsbD_and, getLsbD_one_shiftLeft i j hi]
      by_cases hj : j = i
      · subst hj
        simp [h]
      · simp [hj]
    simp [h0]

lemma getLsbD_or_one_shiftLeft (m : BitVec w) (i j : ℕ) (hi : i < w) :
    (m ||| 1#w <<< i).getLsbD j = (m.getLsbD j || decide (j = i)) := by
  rw [getLsbD_or, getLsbD_one_shiftLeft i j hi]

lemma ne_zero_iff (m : BitVec w) : m ≠ 0#w ↔ ∃ i < w, m.getLsbD i := by
  constructor
  · intro h
    by_contra hnone
    push Not at hnone
    apply h
    apply eq_of_getLsbD_eq
    intro i hi
    have hfalse : m.getLsbD i = false := by simpa using hnone i hi
    simp [hfalse]
  · rintro ⟨i, -, hi⟩ rfl
    simp at hi

/-- If a round adds the bit `j` exactly when `q` holds of it, the loop does when `q` holds of some
round. -/
lemma getLsbD_foldl (step : BitVec w → α → BitVec w) (q : α → Bool) (j : ℕ)
    (hstep : ∀ m a, (step m a).getLsbD j = (m.getLsbD j || q a)) (l : List α) (m : BitVec w) :
    (l.foldl step m).getLsbD j = (m.getLsbD j || l.any q) := by
  induction l generalizing m with
  | nil => simp
  | cons a l ih => rw [List.foldl_cons, ih, hstep, List.any_cons, Bool.or_assoc]

end BitMask
