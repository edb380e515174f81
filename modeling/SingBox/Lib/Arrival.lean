import Mathlib.Data.List.Infix

/-!
# Readers of data that has arrived in parts

A reader that runs out of data fails with `more`, and its caller tries again from the start when
there is more.
-/

namespace Arrival
open List
variable {α ε β γ : Type}

abbrev Reader (α ε β : Type) := StateT (List (List α)) (Except ε) β

/-- The first `n` elements, or all, and the parts that are left. -/
def takeFull : ℕ → List (List α) → List α × List (List α)
  | _, [] => ([], [])
  | n, part :: parts =>
    if n ≤ part.length then (part.take n, part.drop n :: parts)
    else (part ++ (takeFull (n - part.length) parts).1, (takeFull (n - part.length) parts).2)

def takeOnce : ℕ → List (List α) → List α × List (List α)
  | _, [] => ([], [])
  | n, part :: parts =>
    if part.isEmpty then takeOnce n parts else (part.take n, part.drop n :: parts)

def readFull (more : ε) (n : ℕ) : Reader α ε (List α) := fun parts =>
  if (takeFull n parts).1.length < n then .error more else .ok (takeFull n parts)

variable (n : ℕ) (parts : List (List α))

lemma takeFull_fst : (takeFull n parts).1 = parts.flatten.take n := by
  induction parts generalizing n with
  | nil => simp [takeFull]
  | cons part parts ih =>
    rw [takeFull, flatten_cons, List.take_append]
    split
    case isTrue h => rw [Nat.sub_eq_zero_of_le h, take_zero, append_nil]
    case isFalse h => rw [ih, take_of_length_le (show part.length ≤ n by omega)]

lemma takeFull_snd : (takeFull n parts).2.flatten = parts.flatten.drop n := by
  induction parts generalizing n with
  | nil => simp [takeFull]
  | cons part parts ih =>
    rw [takeFull, flatten_cons, drop_append]
    split
    case isTrue h => rw [Nat.sub_eq_zero_of_le h, drop_zero, flatten_cons]
    case isFalse h =>
      rw [ih, drop_of_length_le (show part.length ≤ n by omega), nil_append]

lemma takeOnce_fst_append :
    (takeOnce n parts).1 ++ (takeOnce n parts).2.flatten = parts.flatten := by
  induction parts with
  | nil => rfl
  | cons part parts ih =>
    rw [takeOnce]
    split
    case isTrue h => rw [ih, List.isEmpty_iff.1 h, flatten_cons, nil_append]
    case isFalse h =>
      rw [flatten_cons, flatten_cons, ← append_assoc, take_append_drop]

lemma bind_ok {p : Reader α ε β} {parts rest : List (List α)} {b : β}
    (h : p parts = .ok (b, rest)) (k : β → Reader α ε γ) : (p >>= k) parts = k b rest := by
  change Except.bind (p parts) _ = _
  rw [h]
  rfl

lemma readFull_of_append {more : ε} {parts : List (List α)} {data tail : List α}
    (h : parts.flatten = data ++ tail) :
    ∃ rest, readFull more data.length parts = .ok (data, rest) ∧ rest.flatten = tail := by
  have hfst : (takeFull data.length parts).1 = data := by
    rw [takeFull_fst, h, take_left]
  refine ⟨(takeFull data.length parts).2, ?_, ?_⟩
  · rw [readFull, if_neg (by rw [hfst]; exact lt_irrefl _)]
    exact congrArg Except.ok (Prod.ext hfst rfl)
  · rw [takeFull_snd, h, drop_left]

end Arrival
