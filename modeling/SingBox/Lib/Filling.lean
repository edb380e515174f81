import Mathlib.Data.List.Basic

/-!
# Filling a buffer of fixed size

`Fills m bytes`: `m` writes exactly these bytes, over old ones, if there is room for them.
-/

namespace Filling
open List

structure Region where
  written : List UInt8
  old : List UInt8

abbrev Filler (ε α : Type) := StateT Region (Except ε) α

variable {ε : Type}

def write (full : ε) (data : List UInt8) : Filler ε Unit := fun region =>
  if data.isEmpty then .ok ((), region)
  else if region.old.isEmpty then .error full
  else .ok ((), ⟨region.written ++ data.take region.old.length, region.old.drop data.length⟩)

def Fills (m : Filler ε Unit) (bytes : List UInt8) : Prop :=
  ∀ written old, bytes.length ≤ old.length →
    m ⟨written, old⟩ = .ok ((), ⟨written ++ bytes, old.drop bytes.length⟩)

lemma fills_write (full : ε) (data : List UInt8) : Fills (write full data) data := by
  intro written old hle
  unfold write
  split_ifs with hdata hold
  · rw [isEmpty_iff.1 hdata, append_nil]
    rfl
  · have hnil : old = [] := isEmpty_iff.1 hold
    rw [hnil, length_nil, Nat.le_zero, length_eq_zero_iff] at hle
    exact absurd (isEmpty_iff.2 hle) hdata
  · rw [take_of_length_le hle]

lemma Fills.bind {m m' : Filler ε Unit} {bytes bytes' : List UInt8} (h : Fills m bytes)
    (h' : Fills m' bytes') : Fills (m >>= fun _ => m') (bytes ++ bytes') := by
  intro written old hle
  rw [length_append] at hle
  have hrest : bytes'.length ≤ (old.drop bytes.length).length := by
    rw [length_drop]
    omega
  show (m ⟨written, old⟩).bind (fun p => m' p.2) = _
  rw [h written old (by omega)]
  show m' _ = _
  rw [h' _ _ hrest, append_assoc, drop_drop, length_append]

lemma bind_ok {m : Filler ε Unit} {m' : Unit → Filler ε Unit} {region region' : Region}
    (h : (m >>= m') region = .ok ((), region')) :
    ∃ middle, m region = .ok ((), middle) ∧ m' () middle = .ok ((), region') := by
  change (m region).bind (fun p => m' p.1 p.2) = _ at h
  cases hm : m region with
  | error e =>
    rw [hm] at h
    cases h
  | ok p =>
    rw [hm] at h
    exact ⟨p.2, rfl, h⟩

end Filling
