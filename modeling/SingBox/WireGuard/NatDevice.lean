import Mathlib.Data.List.Basic

/-!
# The NAT device of WireGuard

Packets are collected in a field of the wrapper, which is emptied only after a write that succeeds.
-/

namespace SingBox.WireGuard
open List
variable {P ε : Type}

structure Packet (P ε : Type) where
  buffer : P
  handled : Bool
  err : Option ε

/-- A call of `Write`, with the error of the device below. -/
structure Call (P ε : Type) where
  bufs : List (Packet P ε)
  deviceErr : Option ε

/-- The field after the loop, and the error that ends the call. -/
def offer : List P → List (Packet P ε) → List P × Option ε
  | buffer, [] => (buffer, none)
  | buffer, packet :: bufs =>
    if packet.handled then
      match packet.err with
      | some err => (buffer, some err)
      | none => offer buffer bufs
    else offer (buffer ++ [packet.buffer]) bufs

/-- The field after a call, what the device gets, and the error. -/
def write (buffer : List P) (call : Call P ε) : List P × List P × Option ε :=
  match offer buffer call.bufs with
  | (buffer, some err) => (buffer, [], some err)
  | (buffer, none) =>
    if 0 < buffer.length then
      match call.deviceErr with
      | some err => (buffer, buffer, some err)
      | none => ([], buffer, none)
    else (buffer, [], none)

def passed : List P → List (Call P ε) → List (List P)
  | _, [] => []
  | buffer, call :: calls => (write buffer call).2.1 :: passed (write buffer call).1 calls

def Call.unhandled (call : Call P ε) : List P :=
  (call.bufs.filter (!·.handled)).map Packet.buffer

def Call.Succeeds (call : Call P ε) : Prop :=
  (∀ packet ∈ call.bufs, packet.handled → packet.err = none) ∧ call.deviceErr = none

lemma offer_eq (buffer : List P) (bufs : List (Packet P ε)) :
    (offer buffer bufs).2 = none →
    (offer buffer bufs).1 = buffer ++ (bufs.filter (!·.handled)).map Packet.buffer := by
  induction bufs generalizing buffer with
  | nil => simp [offer]
  | cons packet bufs ih =>
    rw [offer]
    split_ifs with hhandled
    · cases packet.err with
      | some err => exact nofun
      | none => simpa [hhandled] using ih buffer
    · simpa [hhandled] using ih (buffer ++ [packet.buffer])

lemma offer_of_succeeds {call : Call P ε} (h : call.Succeeds) (buffer : List P) :
    (offer buffer call.bufs).2 = none := by
  obtain ⟨h, -⟩ := h
  generalize call.bufs = bufs at h
  induction bufs generalizing buffer with
  | nil => rfl
  | cons packet bufs ih =>
    have hrest := fun packet hmem => h packet (mem_cons_of_mem _ hmem)
    rw [offer]
    split_ifs with hhandled
    · rw [h packet mem_cons_self hhandled]
      exact ih buffer hrest
    · exact ih _ hrest

lemma write_passed (call : Call P ε) :
    (write [] call).2.1 = [] ∨ (write [] call).2.1 = call.unhandled := by
  have hoffer := offer_eq [] call.bufs
  unfold write
  generalize offer [] call.bufs = result at hoffer ⊢
  obtain ⟨buffer, _ | err⟩ := result
  · obtain rfl : buffer = call.unhandled := hoffer rfl
    dsimp only
    split_ifs
    · cases call.deviceErr <;> exact .inr rfl
    · exact .inl rfl
  · exact .inl rfl

lemma write_of_succeeds {call : Call P ε} (h : call.Succeeds) :
    write [] call = ([], call.unhandled, none) := by
  have hoffer : offer [] call.bufs = (call.unhandled, none) :=
    Prod.ext (offer_eq _ _ (offer_of_succeeds h [])) (offer_of_succeeds h [])
  unfold write
  simp only [hoffer, h.2]
  split_ifs with hpos
  · rfl
  · rw [length_eq_zero_iff.1 (Nat.eq_zero_of_not_pos hpos)]

/-- As long as no call fails, the device gets the unhandled packets of each call, once and in order,
and in the first that fails these or nothing. -/
theorem passed_append {calls : List (Call P ε)} (h : ∀ call ∈ calls, call.Succeeds)
    (last : Call P ε) :
    ∃ packets, (packets = [] ∨ packets = last.unhandled) ∧
      passed [] (calls ++ [last]) = calls.map Call.unhandled ++ [packets] := by
  induction calls with
  | nil => exact ⟨_, write_passed last, rfl⟩
  | cons call calls ih =>
    obtain ⟨packets, hpackets, heq⟩ := ih fun call hmem => h call (mem_cons_of_mem _ hmem)
    refine ⟨packets, hpackets, ?_⟩
    rw [cons_append, passed, write_of_succeeds (h call mem_cons_self), heq]
    rfl

/-- Two packets, one of which is handled, and then a write that fails. -/
theorem passed_append_two :
    ∃ packets : List ℕ, (packets = [] ∨ packets = [3]) ∧
      passed [] ([⟨[⟨1, false, none⟩, ⟨2, true, none⟩], none⟩] ++
        [(⟨[⟨3, false, none⟩], some ()⟩ : Call ℕ Unit)]) = [[1]] ++ [packets] :=
  passed_append (by simp [Call.Succeeds]) ⟨[⟨3, false, none⟩], some ()⟩

/-- The rewriter fails in the first call, or the device: the second call passes its packet on. -/
theorem passed_again :
    passed [] [⟨[⟨1, false, none⟩, ⟨2, true, some ()⟩], none⟩, ⟨[⟨3, false, none⟩], none⟩] =
        [[], [1, 3]] ∧
      passed [] [⟨[⟨1, false, none⟩], some ()⟩, ⟨[⟨3, false, none⟩], none⟩] = [[1], [1, 3]] :=
  ⟨rfl, rfl⟩

end SingBox.WireGuard
