import SingBox.Adapter.Bytes
import SingBox.Lib.Draining
import SingBox.Lib.Run

/-!
# Frames of the gRPC-lite transport

A header is put before every payload; `Read` skips all of it but the length.
-/

namespace SingBox
open Draining List

structure GunConn where
  readRemaining : ℕ := 0
  reader : List (List UInt8)

namespace GunConn

def messageHeader (dataLen : ℕ) : List UInt8 :=
  let varLen := (Codec.writeUvarint dataLen).length
  0x00 :: bytesOfNat 4 (1 + varLen + dataLen) ++ [0x0A]

def write (b : List UInt8) : List UInt8 :=
  messageHeader b.length ++ Codec.writeUvarint b.length ++ b

def writeBuffer (buffer : List UInt8) : List UInt8 :=
  let header := messageHeader buffer.length ++ Codec.writeUvarint buffer.length
  header ++ buffer

inductive Call
  | write (payload : List UInt8)
  | writeBuffer (payload : List UInt8)

def Call.payload : Call → List UInt8
  | .write b => b
  | .writeBuffer b => b

def Call.bytes : Call → List UInt8
  | .write b => GunConn.write b
  | .writeBuffer b => GunConn.writeBuffer b

lemma Call.bytes_eq (call : Call) : call.bytes = messageHeader call.payload.length ++
    (Codec.writeUvarint call.payload.length ++ call.payload) := by
  cases call <;> exact append_assoc ..

lemma length_messageHeader (dataLen : ℕ) : (messageHeader dataLen).length = 6 := by
  simp [messageHeader, length_bytesOfNat]

def read (n : ℕ) (c : GunConn) : Except String (List UInt8 × GunConn) :=
  if 0 < c.readRemaining then do
    let (b, readRemaining, reader) ← readChunk "EOF" n c.readRemaining c.reader
    return (b, ⟨readRemaining, reader⟩)
  else do
    let (_, reader) ← readExactly (Codec.readFull 6) c.reader
    let (dataLen, reader) ← readExactly Codec.readUvarint reader
    let (b, readRemaining, reader) ← readChunk "EOF" n dataLen reader
    return (b, ⟨readRemaining, reader⟩)

def Owes (c : GunConn) (payload : List UInt8) : Prop :=
  ∃ (chunk : List UInt8) (calls : List Call), c.reader.flatten = chunk ++ calls.flatMap Call.bytes ∧
    chunk.length = c.readRemaining ∧ (∀ call ∈ calls, call.payload.length < 2 ^ 31) ∧
    payload = chunk ++ calls.flatMap Call.payload

def left (c : GunConn) : ℕ := c.reader.flatten.length

lemma serves_read : Serves read "EOF" left Owes := by
  rintro n c _ ⟨chunk, calls, hrd, hchunk, hcalls, rfl⟩
  rw [read]
  split_ifs with hrem
  · rw [← hchunk] at hrem ⊢
    obtain ⟨out, chunk', reader', hread, rfl, hrd', hleft, hpos⟩ := readChunk_of_append "EOF" n hrd
    refine .inr ⟨out, ⟨chunk'.length, reader'⟩, _, ?_, append_assoc ..,
      ⟨chunk', calls, hrd', rfl, hcalls, rfl⟩, ?_, fun hn => ?_⟩
    · rw [hread]
      rfl
    · exact (Nat.le_add_right ..).trans_eq hleft
    · exact (Nat.lt_add_of_pos_right (hpos hn hrem)).trans_eq hleft
  · obtain rfl : chunk = [] := length_eq_zero_iff.1 (by omega)
    cases calls with
    | nil =>
      refine .inl ⟨rfl, ?_⟩
      rw [readExactly, hrd]
      rfl
    | cons call calls =>
      rw [nil_append, flatMap_cons, call.bytes_eq, append_assoc,
        append_assoc] at hrd
      have hheader : Codec.Decodes (Codec.readFull 6) (messageHeader call.payload.length) _ :=
        length_messageHeader call.payload.length ▸ Codec.decodes_readFull _
      have hsmall : call.payload.length < 2 ^ 64 := (hcalls call mem_cons_self).trans (by decide)
      obtain ⟨reader₁, hskip, hrd₁⟩ := readExactly_of_append hheader hrd
      obtain ⟨reader₂, hlen, hrd₂⟩ := readExactly_of_append (Codec.decodes_readUvarint hsmall) hrd₁
      obtain ⟨out, chunk', reader', hread, hsplit, hrd', -, -⟩ := readChunk_of_append "EOF" n hrd₂
      have hless : reader'.flatten.length < c.left := by
        rw [left, hrd, hrd', hsplit]
        simp only [length_append, length_messageHeader]
        omega
      refine .inr ⟨out, ⟨chunk'.length, reader'⟩, chunk' ++ calls.flatMap Call.payload, ?_, ?_,
        ⟨chunk', calls, hrd', rfl, fun call h => hcalls call (mem_cons_of_mem _ h), rfl⟩,
        hless.le, fun _ => hless⟩
      · simp only [hskip, hlen, hread, bind, Except.bind]
        rfl
      · rw [nil_append, flatMap_cons, hsplit, append_assoc]

/-- The reads return the payloads, whatever the cuts and buffers are. -/
theorem drained_gun {calls : List Call} {stream : List (List UInt8)}
    (hcalls : ∀ call ∈ calls, call.payload.length < 2 ^ 31)
    (hstream : stream.flatten = calls.flatMap Call.bytes) (sizes : List ℕ) :
    Drained "EOF" (calls.flatMap Call.payload) stream.flatten.length sizes
      (reads read { reader := stream } sizes) :=
  drained_reads serves_read { reader := stream } _ ⟨[], calls, hstream, rfl, hcalls, rfl⟩ sizes

theorem drained_gun_two :
    (reads read { reader := [[0, 0], [0, 0, 5, 0x0A, 3, 1], [2, 3, 0, 0, 0, 0, 2, 0x0A, 0]] }
      [2, 0, 2, 1, 9]) = ([1, 2, 3], some "EOF") ∧
    Drained "EOF" [1, 2, 3] 17 [2, 0, 2, 1, 9]
      (reads read { reader := [[0, 0], [0, 0, 5, 0x0A, 3, 1], [2, 3, 0, 0, 0, 0, 2, 0x0A, 0]] }
        [2, 0, 2, 1, 9]) :=
  have hcalls : ∀ call ∈ [Call.write [1, 2, 3], .writeBuffer []], call.payload.length < 2 ^ 31 := by
    decide
  ⟨by decide +kernel, drained_gun hcalls (by decide +kernel) [2, 0, 2, 1, 9]⟩

/-! ### Lengths of any size

The length of a frame is a number of 64 bits that is converted to an `int`. -/

/-- The length of the current frame and what was delivered are no fields of the source. -/
structure Peer where
  readRemaining : ℤ := 0
  reader : List (List UInt8)
  announced : ℤ := 0
  delivered : ℕ := 0

def announcedLength (reader : List (List UInt8)) : Except String (ℕ × List (List UInt8)) := do
  let (_, reader) ← readExactly (Codec.readFull 6) reader
  readExactly Codec.readUvarint reader

def toInt (n : ℕ) : ℤ := if n < 2 ^ 63 then n else n - 2 ^ 64

/-- The length of a buffer of `n` bytes after `b = b[:size]`, which panics for a negative size. -/
def sliced (n : ℕ) (size : ℤ) : Option ℕ :=
  if size < n then if 0 ≤ size then some size.toNat else none else some n

def Peer.deliver (c : Peer) (n : ℕ) (size : ℤ) (reader : List (List UInt8)) :
    Option (List UInt8 × Peer) :=
  (sliced n size).map fun m =>
    match readOnce "EOF" m reader with
    | .error _ => ([], { c with readRemaining := size, reader })
    | .ok (b, reader) =>
      (b, { c with readRemaining := size - b.length, reader, delivered := c.delivered + b.length })

/-- `read` with a buffer of `n` bytes. After a header that cannot be read, `rest` is left. -/
def Peer.read (c : Peer) (n : ℕ) (rest : List (List UInt8)) : Option (List UInt8 × Peer) :=
  if 0 < c.readRemaining then c.deliver n c.readRemaining c.reader
  else
    match announcedLength c.reader with
    | .error _ => some ([], { c with reader := rest })
    | .ok (dataLen, reader) =>
      { c with announced := toInt dataLen, delivered := 0 }.deliver n (toInt dataLen) reader

def Peer.step (s : Option Peer) (a : ℕ × List (List UInt8)) : Option Peer :=
  s.bind fun c => (c.read a.1 a.2).map Prod.snd

/-- If the next read reads a header, the length in it is not negative as an `int`. -/
def Peer.Fits (c : Peer) : Prop :=
  c.readRemaining ≤ 0 → ∀ dataLen reader, announcedLength c.reader = .ok (dataLen, reader) →
    dataLen < 2 ^ 63

def Peer.Counts (c : Peer) : Prop :=
  0 ≤ c.readRemaining ∧ c.readRemaining + c.delivered = c.announced

lemma deliver_spec {c : Peer} {size : ℤ} (hsize : 0 ≤ size)
    (h : size + c.delivered = c.announced) (n : ℕ) (reader : List (List UInt8)) :
    ∃ b c', c.deliver n size reader = some (b, c') ∧ b.length ≤ n ∧ c'.Counts := by
  obtain ⟨m, hm, hn, hle⟩ : ∃ m, sliced n size = some m ∧ m ≤ n ∧ (m : ℤ) ≤ size := by
    unfold sliced
    split_ifs with hlt
    · exact ⟨size.toNat, rfl, by omega, by omega⟩
    · exact ⟨n, rfl, le_rfl, by omega⟩
  unfold Peer.deliver
  rw [hm, Option.map_some]
  rcases readOnce_cases "EOF" m reader with ⟨-, -, hread⟩ | ⟨b, reader', hread, -, hlen, -⟩
  · rw [hread]
    exact ⟨[], _, rfl, Nat.zero_le n, hsize, h⟩
  · rw [hread]
    refine ⟨b, _, rfl, hlen.trans hn, ?_, ?_⟩ <;> dsimp only <;> omega

lemma read_spec {c : Peer} (h : c.Counts) (hfits : c.Fits) (n : ℕ) (rest : List (List UInt8)) :
    ∃ b c', c.read n rest = some (b, c') ∧ b.length ≤ n ∧ c'.Counts := by
  unfold Peer.read
  split_ifs with hpos
  · exact deliver_spec h.1 h.2 n _
  · cases hlength : announcedLength c.reader with
    | error e => exact ⟨[], _, rfl, Nat.zero_le n, h⟩
    | ok result =>
      obtain ⟨dataLen, reader⟩ := result
      have hint : toInt dataLen = dataLen := if_pos (hfits (not_lt.1 hpos) dataLen reader hlength)
      exact deliver_spec (by omega) (by simp) n reader

/-- If every length is a positive `int`, no read panics or returns more than its buffer holds, and
no frame delivers more than its length. -/
theorem peer_counts {stream : List (List UInt8)} {s : Option Peer}
    (h : Run Peer.step (fun s _ => ∀ c ∈ s, c.Fits) (some { reader := stream }) s) :
    ∃ c, s = some c ∧ 0 ≤ c.readRemaining ∧ (c.delivered : ℤ) ≤ c.announced ∧
      (c.Fits → ∀ n rest, ∃ b c', c.read n rest = some (b, c') ∧ b.length ≤ n) := by
  obtain ⟨c, rfl, hc⟩ : ∃ c, s = some c ∧ c.Counts := by
    refine h.invariant (I := fun s => ∃ c, s = some c ∧ c.Counts) ⟨_, rfl, le_rfl, rfl⟩ ?_
    rintro _ ⟨n, rest⟩ ⟨c, rfl, hc⟩ hfits
    obtain ⟨b, c', hread, -, hc'⟩ := read_spec hc (hfits c rfl) n rest
    exact ⟨c', by simp [Peer.step, hread], hc'⟩
  refine ⟨c, rfl, hc.1, by have := hc.1; have := hc.2; omega, fun hfits n rest => ?_⟩
  obtain ⟨b, c', hread, hlen, -⟩ := read_spec hc hfits n rest
  exact ⟨b, c', hread, hlen⟩

theorem peer_counts_one :
    ∃ c, Peer.step (some { reader := [[0, 0, 0, 0, 0, 0, 1, 9]] }) (2, []) = some c ∧
      0 ≤ c.readRemaining ∧ (c.delivered : ℤ) ≤ c.announced ∧
      (c.Fits → ∀ n rest, ∃ b c', c.read n rest = some (b, c') ∧ b.length ≤ n) := by
  refine peer_counts (.step .start ?_)
  rintro c hc _ dataLen reader h
  obtain rfl : _ = c := Option.some.inj hc
  have hone : announcedLength [[0, 0, 0, 0, 0, 0, 1, 9]] = .ok (1, [[9]]) := by decide +kernel
  cases hone.symm.trans h
  decide

/-- The length 2 ^ 63 panics. -/
theorem peer_panics :
    Peer.read { reader := [List.replicate 6 0 ++ List.replicate 9 0x80 ++ [1]] } 1 [] = none := by
  decide +kernel

end GunConn

end SingBox
