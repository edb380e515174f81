import Mathlib.Data.Nat.Notation

/-!
# Channels

Closing a closed channel and sending on one panic, which is the missing result here.
-/

structure Channel (α : Type) where
  capacity : ℕ := 0
  buffer : List α := []
  closed : Bool := false

namespace Channel
variable {α : Type} (ch : Channel α)

def close : Option (Channel α) := if ch.closed then none else some { ch with closed := true }

def trySend (a : α) : Option (Channel α × Bool) :=
  if ch.closed then none
  else if ch.buffer.length < ch.capacity then
    some ({ ch with buffer := ch.buffer ++ [a] }, true)
  else some (ch, false)

variable {ch}

lemma close_eq_some (h : ch.closed = false) : ch.close = some { ch with closed := true } := by
  rw [close, h]
  rfl

lemma trySend_of_lt (h : ch.closed = false) (hroom : ch.buffer.length < ch.capacity) (a : α) :
    ch.trySend a = some ({ ch with buffer := ch.buffer ++ [a] }, true) := by
  rw [trySend, if_neg (by rw [h]; exact Bool.false_ne_true), if_pos hroom]

lemma trySend_eq_some (h : ch.closed = false) (a : α) :
    ∃ ch' sent, ch.trySend a = some (ch', sent) ∧ ch'.closed = false := by
  rw [trySend, h, if_neg Bool.false_ne_true]
  split
  · exact ⟨_, _, rfl, rfl⟩
  · exact ⟨_, _, rfl, h⟩

end Channel
