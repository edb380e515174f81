import SingBox.Lib.Arrival
import SingBox.Lib.Codec

/-!
# Reading a connection to its end

If every call returns a part of what is owed, and fails only when nothing is, the calls together
return the payload.
-/

namespace Draining
open Arrival List
variable {σ α ε : Type}
variable (eof : ε) (n : ℕ)

def readOnce : Reader α ε (List α) := fun parts =>
  if n = 0 then .ok ([], parts)
  else if parts.flatten.isEmpty then .error eof
  else .ok (takeOnce n parts)

variable (parts : List (List α))

lemma takeOnce_fst_length : (takeOnce n parts).1.length ≤ n := by
  induction parts with
  | nil => exact Nat.zero_le n
  | cons part parts ih =>
    rw [takeOnce]
    split
    · exact ih
    · exact length_take_le n part

lemma takeOnce_fst_ne_nil {n : ℕ} {parts : List (List α)} (hn : n ≠ 0)
    (h : parts.flatten ≠ []) : (takeOnce n parts).1 ≠ [] := by
  induction parts with
  | nil => exact absurd rfl h
  | cons part parts ih =>
    rw [takeOnce]
    split
    case isTrue hemp =>
      rw [flatten_cons, isEmpty_iff.1 hemp] at h
      exact ih h
    case isFalse hpart =>
      intro hnil
      rcases take_eq_nil_iff.1 hnil with hzero | hnil
      · exact hn hzero
      · exact hpart (isEmpty_iff.2 hnil)

/-- A read fails at the end; otherwise it returns some of the front, and something if it has room.-/
lemma readOnce_cases : 0 < n ∧ parts.flatten = [] ∧ readOnce eof n parts = .error eof ∨
    ∃ out rest, readOnce eof n parts = .ok (out, rest) ∧ out ++ rest.flatten = parts.flatten ∧
    out.length ≤ n ∧ (0 < n → 0 < out.length) := by
  rw [readOnce]
  split_ifs with hzero hemp
  · exact .inr ⟨[], parts, rfl, rfl, Nat.zero_le n, fun hpos => absurd hzero hpos.ne'⟩
  · exact .inl ⟨Nat.pos_of_ne_zero hzero, isEmpty_iff.1 hemp, rfl⟩
  · have hdata : parts.flatten ≠ [] := fun hnil => hemp (isEmpty_iff.2 hnil)
    exact .inr ⟨_, _, rfl, takeOnce_fst_append n parts, takeOnce_fst_length n parts,
      fun _ => length_pos_iff.2 (takeOnce_fst_ne_nil hzero hdata)⟩

def readChunk (size : ℕ) (parts : List (List α)) : Except ε (List α × ℕ × List (List α)) := do
  let (out, parts) ← readOnce eof (min n size) parts
  return (out, size - out.length, parts)

lemma readChunk_of_append {parts : List (List α)} {data tail : List α}
    (h : parts.flatten = data ++ tail) :
    ∃ out data' rest, readChunk eof n data.length parts = .ok (out, data'.length, rest) ∧
    data = out ++ data' ∧ rest.flatten = data' ++ tail ∧
    rest.flatten.length + out.length = parts.flatten.length ∧
    (0 < n → 0 < data.length → 0 < out.length) := by
  rw [readChunk]
  rcases readOnce_cases eof (min n data.length) parts with
    ⟨hpos, hnil, -⟩ | ⟨out, rest, hread, hsplit, hlen, hpos⟩
  · rw [h, append_eq_nil_iff] at hnil
    simp [hnil.1] at hpos
  · rw [h] at hsplit
    obtain ⟨data', rfl⟩ := prefix_of_prefix_length_le ⟨_, hsplit⟩
      (prefix_append data tail) (hlen.trans (Nat.min_le_right ..))
    rw [append_assoc, append_cancel_left_eq] at hsplit
    have hleft : (out ++ data').length - out.length = data'.length := by
      rw [length_append, Nat.add_sub_cancel_left]
    refine ⟨out, data', rest, ?_, rfl, hsplit, ?_,
      fun hn hdata => hpos (Nat.lt_min.2 ⟨hn, hdata⟩)⟩
    · rw [hread, ← hleft]
      rfl
    · rw [h, hsplit, add_comm, append_assoc, ← length_append]

/-- A reader of bytes that takes what it needs and no more. -/
def readExactly {β : Type} (read : Codec.Reader β) : Reader UInt8 String β := fun parts =>
  (read parts.flatten).map fun (b, rest) =>
    (b, (takeFull (parts.flatten.length - rest.length) parts).2)

lemma readExactly_of_append {β : Type} {read : Codec.Reader β} {bytes tail : List UInt8} {b : β}
    {parts : List (List UInt8)} (hread : Codec.Decodes read bytes b)
    (h : parts.flatten = bytes ++ tail) :
    ∃ rest, readExactly read parts = .ok (b, rest) ∧ rest.flatten = tail := by
  refine ⟨(takeFull (parts.flatten.length - tail.length) parts).2, ?_, ?_⟩
  · rw [readExactly, h, hread tail]
    rfl
  · rw [takeFull_snd, h, length_append, Nat.add_sub_cancel, drop_left]

/-- Calls with buffers of these sizes, until one of them fails. -/
def reads (read : ℕ → σ → Except ε (List α × σ)) : σ → List ℕ → List α × Option ε
  | _, [] => ([], none)
  | s, n :: sizes =>
    match read n s with
    | .error e => ([], some e)
    | .ok (out, s') => (out ++ (reads read s' sizes).1, (reads read s' sizes).2)

/-- The calls return the payload; one fails only with `eof` after it, and does after `bound`
buffers. -/
def Drained (payload : List α) (bound : ℕ) (sizes : List ℕ) (result : List α × Option ε) : Prop :=
  result.1 <+: payload ∧ (result.2 = none ∨ result = (payload, some eof)) ∧
    (bound < sizes.countP (0 < ·) → result = (payload, some eof))

/-- A call fails when nothing is owed, or returns a front of it. -/
def Serves (read : ℕ → σ → Except ε (List α × σ)) (eof : ε) (left : σ → ℕ)
    (Owes : σ → List α → Prop) : Prop :=
  ∀ n s payload, Owes s payload →
    payload = [] ∧ read n s = .error eof ∨
    ∃ out s' rest, read n s = .ok (out, s') ∧ payload = out ++ rest ∧ Owes s' rest ∧
      left s' ≤ left s ∧ (0 < n → left s' < left s)

lemma drained_reads {read : ℕ → σ → Except ε (List α × σ)} {eof : ε} {left : σ → ℕ}
    {Owes : σ → List α → Prop} (step : Serves read eof left Owes)
    (s : σ) (payload : List α) (howes : Owes s payload) (sizes : List ℕ) :
    Drained eof payload (left s) sizes (reads read s sizes) := by
  induction sizes generalizing s payload with
  | nil => exact ⟨ nil_prefix, .inl rfl, fun h => absurd h (Nat.not_lt_zero _)⟩
  | cons n sizes ih =>
    rw [reads]
    rcases step n s payload howes with ⟨rfl, hread⟩ | ⟨out, s', rest, hread, rfl, howes', hle, hlt⟩
    · rw [hread]
      exact ⟨ nil_prefix, .inr rfl, fun _ => rfl⟩
    · obtain ⟨hpre, herror, hbd⟩ := ih s' rest howes'
      rw [hread]
      have hend (h : reads read s' sizes = (rest, some eof)) :
          (out ++ (reads read s' sizes).1, (reads read s' sizes).2) = (out ++ rest, some eof) := by
        rw [h]
      refine ⟨(prefix_append_right_inj out).2 hpre, herror.imp id hend, fun h => ?_⟩
      refine hend (hbd ?_)
      rw [countP_cons] at h
      split_ifs at h with hpos
      · have := hlt (of_decide_eq_true hpos)
        omega
      · omega

end Draining
