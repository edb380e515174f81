import SingBox.Adapter.Bytes
import SingBox.Lib.Draining

/-!
# Padding of naive connections

The first eight frames have a header with the sizes of the data and of the padding behind them.
-/

namespace SingBox
open Draining List

structure PaddingConn where
  readPadding : ℕ := 0
  readRemaining : ℕ := 0
  paddingRemaining : ℕ := 0
  reader : List (List UInt8)

namespace PaddingConn

def paddingCount : ℕ := 8

/-!
### Writing

`writePadding` is the number of frames so far. The size of the padding of a frame is `rand` of its
number.
-/

section
variable (rand : ℕ → UInt8)

def frame (data : List UInt8) (paddingSize : UInt8) : List UInt8 :=
  bytesOfNat 2 data.length ++ [paddingSize] ++ (data ++ replicate paddingSize.toNat 0)

def writeWithPadding (data : List UInt8) (writePadding : ℕ) : List UInt8 × ℕ :=
  if writePadding < paddingCount then (frame data (rand writePadding), writePadding + 1)
  else (data, writePadding)

def writeChunked (data : List UInt8) (writePadding : ℕ) : List UInt8 × ℕ :=
  if data.length = 0 then ([], writePadding)
  else if 65535 < data.length then
    let first := writeWithPadding rand (data.take 65535) writePadding
    let rest := writeChunked (data.drop 65535) first.2
    (first.1 ++ rest.1, rest.2)
  else writeWithPadding rand data writePadding
termination_by data.length

/-- An empty buffer is written as a frame, unlike an empty `Write`. -/
def writeBufferWithPadding (buffer : List UInt8) (writePadding : ℕ) : List UInt8 × ℕ :=
  if writePadding < paddingCount then
    if 65535 < buffer.length then writeChunked rand buffer writePadding
    else (frame buffer (rand writePadding), writePadding + 1)
  else (buffer, writePadding)

inductive Call
  | write (payload : List UInt8)
  | writeBuffer (payload : List UInt8)

def Call.payload : Call → List UInt8
  | .write p => p
  | .writeBuffer p => p

def Call.bytes : Call → ℕ → List UInt8 × ℕ
  | .write p => writeChunked rand p
  | .writeBuffer buffer => writeBufferWithPadding rand buffer

def written : List Call → ℕ → List UInt8
  | [], _ => []
  | call :: calls, writePadding =>
    (call.bytes rand writePadding).1 ++ written calls (call.bytes rand writePadding).2

end

/-- A header that does not fit is read into memory of its own. -/
def readWithPadding (n : ℕ) (p : PaddingConn) : Except String (List UInt8 × PaddingConn) :=
  if 0 < p.readRemaining then do
    let (buffer, readRemaining, reader) ← readChunk "EOF" n p.readRemaining p.reader
    return (buffer, { p with readRemaining, reader })
  else do
    let (_, reader) ← readExactly (Codec.readFull p.paddingRemaining) p.reader
    if p.readPadding < paddingCount then
      let (paddingHeader, reader) ← readExactly (Codec.readFull 3) reader
      let originalDataSize := Addr.natOfBytes (paddingHeader.take 2)
      let paddingSize := Addr.natOfBytes (paddingHeader.drop 2)
      let (buffer, readRemaining, reader) ← readChunk "EOF" n originalDataSize reader
      return (buffer, ⟨p.readPadding + 1, readRemaining, paddingSize, reader⟩)
    else
      let (buffer, reader) ← readOnce "EOF" n reader
      return (buffer, { p with paddingRemaining := 0, reader })

inductive Carries : ℕ → List UInt8 → List UInt8 → Prop
  | nil {k : ℕ} : Carries k [] []
  | frame {k : ℕ} {data bytes payload : List UInt8} {paddingSize : UInt8} (hk : k < paddingCount)
      (hdata : data.length ≤ 65535) (h : Carries (k + 1) bytes payload) :
      Carries k (frame data paddingSize ++ bytes) (data ++ payload)
  | raw {k : ℕ} {data : List UInt8} (hk : paddingCount ≤ k) : Carries k data data

lemma Carries.eq_of_le {k : ℕ} {bytes payload : List UInt8} (h : Carries k bytes payload)
    (hk : paddingCount ≤ k) : bytes = payload := by
  cases h with
  | nil => rfl
  | frame hlt => exact absurd hk (not_le.2 hlt)
  | raw => rfl

section
variable {rand : ℕ → UInt8} {bytes payload : List UInt8}

lemma carries_writeWithPadding {data : List UInt8} {k : ℕ} (hdata : data.length ≤ 65535)
    (h : Carries (writeWithPadding rand data k).2 bytes payload) :
    Carries k ((writeWithPadding rand data k).1 ++ bytes) (data ++ payload) := by
  rw [writeWithPadding] at h ⊢
  split_ifs at h ⊢ with hk
  · exact .frame hk hdata h
  · rw [h.eq_of_le (not_lt.1 hk)]
    exact .raw (not_lt.1 hk)

lemma carries_writeChunked {data : List UInt8} {k : ℕ}
    (h : Carries (writeChunked rand data k).2 bytes payload) :
    Carries k ((writeChunked rand data k).1 ++ bytes) (data ++ payload) := by
  induction data, k using writeChunked.induct rand with
  | case1 data k hnil =>
    rw [writeChunked, if_pos hnil] at h ⊢
    rwa [length_eq_zero_iff.1 hnil]
  | case2 data k hne hlong first ih =>
    rw [writeChunked, if_neg hne, if_pos hlong] at h ⊢
    have hfst := carries_writeWithPadding (length_take_le 65535 data) (ih h)
    rwa [← append_assoc, ← append_assoc, take_append_drop] at hfst
  | case3 data k hne hshort =>
    rw [writeChunked, if_neg hne, if_neg hshort] at h ⊢
    exact carries_writeWithPadding (not_lt.1 hshort) h

lemma carries_call {call : Call} {k : ℕ} (h : Carries (call.bytes rand k).2 bytes payload) :
    Carries k ((call.bytes rand k).1 ++ bytes) (call.payload ++ payload) := by
  cases call with
  | write p => exact carries_writeChunked h
  | writeBuffer buffer =>
    simp only [Call.bytes, Call.payload, writeBufferWithPadding] at h ⊢
    split_ifs at h ⊢ with hk hlong
    · exact carries_writeChunked h
    · exact .frame hk (not_lt.1 hlong) h
    · rw [h.eq_of_le (not_lt.1 hk)]
      exact .raw (not_lt.1 hk)

lemma carries_written (calls : List Call) (k : ℕ) :
    Carries k (written rand calls k) (calls.flatMap Call.payload) := by
  induction calls generalizing k with
  | nil => exact .nil
  | cons call calls ih =>
    rw [written, flatMap_cons]
    exact carries_call (ih _)

end

/-- The rest of the current frame, and what comes after it. -/
def Owes (p : PaddingConn) (payload : List UInt8) : Prop :=
  ∃ chunk padding bytes rest, p.reader.flatten = chunk ++ (padding ++ bytes) ∧
    chunk.length = p.readRemaining ∧ padding.length = p.paddingRemaining ∧
    Carries p.readPadding bytes rest ∧ payload = chunk ++ rest

def left (p : PaddingConn) : ℕ := p.reader.flatten.length

lemma natOfBytes_take_header {size : ℕ} (h : size ≤ 65535) (paddingSize : UInt8) :
    Addr.natOfBytes ((bytesOfNat 2 size ++ [paddingSize]).take 2) = size := by
  rw [take_left' (length_bytesOfNat 2 size), natOfBytes_bytesOfNat]
  exact Nat.mod_eq_of_lt (Nat.lt_succ_of_le h)

lemma natOfBytes_drop_header (size : ℕ) (paddingSize : UInt8) :
    Addr.natOfBytes ((bytesOfNat 2 size ++ [paddingSize]).drop 2) = paddingSize.toNat := by
  rw [drop_left' (length_bytesOfNat 2 size)]
  exact Nat.zero_add _

lemma serves_readWithPadding : Serves readWithPadding "EOF" left Owes := by
  rintro n p _ ⟨chunk, padding, bytes, payload, hrd, hchunk, hpadding, hcarries, rfl⟩
  rw [readWithPadding]
  by_cases hrem : 0 < p.readRemaining
  · rw [if_pos hrem, ← hchunk]
    obtain ⟨out, chunk', reader', hread, rfl, hrd', hleft, hpos⟩ := readChunk_of_append "EOF" n hrd
    refine .inr ⟨out, { p with readRemaining := chunk'.length, reader := reader' }, _, ?_,
      append_assoc .., ⟨chunk', padding, bytes, _, hrd', rfl, hpadding, hcarries, rfl⟩,
      (Nat.le_add_right ..).trans_eq hleft, fun hn => ?_⟩
    · rw [hread]
      rfl
    · exact (Nat.lt_add_of_pos_right (hpos hn (hchunk ▸ hrem))).trans_eq hleft
  · obtain rfl : chunk = [] := length_eq_zero_iff.1 (by omega)
    rw [nil_append] at hrd
    obtain ⟨reader₁, hskip, hrd₁⟩ :=
      readExactly_of_append (hpadding ▸ Codec.decodes_readFull padding) hrd
    have hskipped : bytes.length ≤ p.left := by
      rw [left, hrd, length_append]
      exact Nat.le_add_left ..
    simp only [if_neg hrem, hskip, bind, Except.bind]
    by_cases hk : p.readPadding < paddingCount
    · rw [if_pos hk]
      cases hcarries with
      | nil =>
        refine .inl ⟨rfl, ?_⟩
        rw [readExactly, hrd₁]
        rfl
      | @frame _ data bytes payload paddingSize _ hdata hrest =>
        rw [frame, append_assoc] at hrd₁
        have hlen : (bytesOfNat 2 data.length ++ [paddingSize]).length = 3 := by simp
        obtain ⟨reader₂, hhead, hrd₂⟩ :=
          readExactly_of_append (hlen ▸ Codec.decodes_readFull _) hrd₁
        rw [append_assoc] at hrd₂
        obtain ⟨out, chunk', reader', hread, hsplit, hrd', -, -⟩ := readChunk_of_append "EOF" n hrd₂
        have hless : reader'.flatten.length < p.left := by
          refine lt_of_lt_of_le ?_ hskipped
          rw [hrd', frame, hsplit]
          simp only [length_append, length_singleton]
          omega
        refine .inr ⟨out, ⟨p.readPadding + 1, chunk'.length, paddingSize.toNat, reader'⟩,
          chunk' ++ payload, ?_, ?_,
          ⟨chunk', _, bytes, payload, hrd', rfl, length_replicate, hrest, rfl⟩,
          hless.le, fun _ => hless⟩
        · simp only [hhead, natOfBytes_take_header hdata, natOfBytes_drop_header, hread]
          rfl
        · rw [nil_append, hsplit, append_assoc]
      | raw hge => exact absurd hk (not_lt.2 hge)
    · obtain rfl := hcarries.eq_of_le (not_lt.1 hk)
      rw [if_neg hk]
      rcases readOnce_cases "EOF" n reader₁ with
        ⟨-, hnil, hread⟩ | ⟨out, reader', hread, hsplit, -, hpos⟩
      · refine .inl ⟨hrd₁.symm.trans hnil, ?_⟩
        rw [hread]
      · rw [hrd₁] at hsplit
        have hleft : out.length + reader'.flatten.length ≤ p.left := by
          rwa [← length_append, hsplit]
        refine .inr ⟨out, { p with paddingRemaining := 0, reader := reader' }, reader'.flatten, ?_,
          hsplit.symm, ⟨[], [], _, _, rfl, hchunk, rfl, .raw (Nat.not_lt.1 hk), rfl⟩,
          (Nat.le_add_left ..).trans hleft, fun hn => ?_⟩
        · rw [hread]
          rfl
        · exact (Nat.lt_add_of_pos_left (hpos hn)).trans_le hleft

/-- The reads return the payloads, whatever the padding and cuts are. -/
theorem drained_naive {rand : ℕ → UInt8} {calls : List Call} {stream : List (List UInt8)}
    (hstream : stream.flatten = written rand calls 0) (sizes : List ℕ) :
    Drained "EOF" (calls.flatMap Call.payload) stream.flatten.length sizes
      (reads readWithPadding { reader := stream } sizes) :=
  drained_reads serves_readWithPadding { reader := stream } _
    ⟨[], [], _, _, hstream, rfl, rfl, carries_written calls 0, rfl⟩ sizes

theorem drained_naive_nine : (reads readWithPadding
      { reader := replicate 8 [0, 1, 1, 7, 0] ++ [[7]] } (replicate 10 1)) =
      (replicate 9 7, some "EOF") ∧
    Drained "EOF" (replicate 9 7) 41 (replicate 10 1) (reads readWithPadding
      { reader := replicate 8 [0, 1, 1, 7, 0] ++ [[7]] } (replicate 10 1)) :=
  have hstream : (replicate 8 [0, 1, 1, 7, 0] ++ [[7]] : List (List UInt8)).flatten =
      written (fun _ => 1) (replicate 9 (Call.writeBuffer [7])) 0 := by decide +kernel
  ⟨by decide +kernel, drained_naive hstream (replicate 10 1)⟩

end PaddingConn

end SingBox
