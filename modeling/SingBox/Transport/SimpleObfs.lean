import SingBox.Adapter.Bytes
import SingBox.Lib.Draining

/-!
# Reading from a simple-obfs TLS connection

`Read` skips the reply to the handshake and the headers of the records.
-/

namespace SingBox
open Draining List

structure TLSObfs where
  remain : ℕ := 0
  firstResponse : Bool := true
  conn : List (List UInt8)

namespace TLSObfs

/-- A record without a length is no error. -/
def readRecord (n discardN : ℕ) (conn : List (List UInt8)) :
    Except String (List UInt8 × TLSObfs) := do
  let (_, conn) ← readExactly (Codec.readFull discardN) conn
  match readExactly (Codec.readFull 2) conn with
  | .error _ => return ([], ⟨0, false, []⟩)
  | .ok (sizeBuf, conn) =>
    let length := Addr.natOfBytes sizeBuf
    if n < length then
      let (b, remain, conn) ← readChunk "EOF" n length conn
      return (b, ⟨remain, false, conn⟩)
    else
      let (b, conn) ← readExactly (Codec.readFull length) conn
      return (b, ⟨0, false, conn⟩)

def read (n : ℕ) (c : TLSObfs) : Except String (List UInt8 × TLSObfs) :=
  if 0 < c.remain then do
    let (b, conn) ← readExactly (Codec.readFull (min n c.remain)) c.conn
    return (b, { c with remain := c.remain - b.length, conn })
  else readRecord n (if c.firstResponse then 105 else 3) c.conn

structure Record where
  header : List UInt8
  payload : List UInt8
  length_header : header.length = 3
  length_payload : payload.length < 2 ^ 16

open Record

def Record.bytes (r : Record) : List UInt8 :=
  r.header ++ (bytesOfNat 2 r.payload.length ++ r.payload)

def eof (first : Bool) (records : List Record) : String :=
  if first ∧ records.isEmpty then "unexpected EOF" else "EOF"

def Owes (e : String) (c : TLSObfs) (payload : List UInt8) : Prop :=
  ∃ (reply chunk : List UInt8) (records : List Record),
    c.conn.flatten = reply ++ (chunk ++ records.flatMap bytes) ∧
    reply.length = (if c.firstResponse then 102 else 0) ∧ chunk.length = c.remain ∧
    (0 < c.remain → c.firstResponse = false) ∧ e = eof c.firstResponse records ∧
    payload = chunk ++ records.flatMap Record.payload

def left (c : TLSObfs) : ℕ := c.conn.flatten.length

lemma readRecord_of_append (n : ℕ) {conn : List (List UInt8)} {skipped payload tail : List UInt8}
    (hpayload : payload.length < 2 ^ 16)
    (h : conn.flatten = skipped ++ (bytesOfNat 2 payload.length ++ (payload ++ tail))) :
    ∃ out rest conn', readRecord n skipped.length conn = .ok (out, ⟨rest.length, false, conn'⟩) ∧
    payload = out ++ rest ∧ conn'.flatten = rest ++ tail := by
  obtain ⟨conn₁, hskip, hconn₁⟩ := readExactly_of_append (Codec.decodes_readFull skipped) h
  have hsize : Codec.Decodes (Codec.readFull 2) (bytesOfNat 2 payload.length) _ :=
    length_bytesOfNat 2 payload.length ▸ Codec.decodes_readFull _
  obtain ⟨conn₂, hsize, hconn₂⟩ := readExactly_of_append hsize hconn₁
  have hlen : Addr.natOfBytes (bytesOfNat 2 payload.length) = payload.length := by
    rw [natOfBytes_bytesOfNat]
    omega
  by_cases hn : n < payload.length
  · obtain ⟨out, rest, conn', hread, hsplit, hconn', -, -⟩ := readChunk_of_append "EOF" n hconn₂
    refine ⟨out, rest, conn', ?_, hsplit, hconn'⟩
    simp only [readRecord, hskip, hsize, hlen, hn, hread, bind, Except.bind, if_true]
    rfl
  · obtain ⟨conn', hread, hconn'⟩ :=
      readExactly_of_append (Codec.decodes_readFull payload) hconn₂
    refine ⟨payload, [], conn', ?_, (append_nil payload).symm, hconn'⟩
    simp only [readRecord, hskip, hsize, hlen, hn, hread, bind, Except.bind, if_false]
    rfl

lemma serves_read {e : String} : Serves read e left (Owes e) := by
  rintro n c _ ⟨reply, chunk, records, hconn, hreply, hchunk, hfirst, rfl, rfl⟩
  by_cases hremain : 0 < c.remain
  · rw [read, if_pos hremain]
    have hlen : (chunk.take n).length = min n c.remain := by rw [length_take, hchunk]
    simp only [hfirst hremain, Bool.false_eq_true, if_false, length_eq_zero_iff] at hreply
    rw [hreply, nil_append, ← take_append_drop n chunk, append_assoc] at hconn
    obtain ⟨conn', hread, hconn'⟩ :=
      readExactly_of_append (hlen ▸ Codec.decodes_readFull (chunk.take n)) hconn
    have hleft : conn'.flatten.length + (chunk.take n).length = c.left := by
      rw [left, hconn, hconn']
      simp only [length_append]
      omega
    refine .inr ⟨chunk.take n, ⟨c.remain - (chunk.take n).length, c.firstResponse, conn'⟩,
      chunk.drop n ++ records.flatMap payload, ?_, ?_,
      ⟨[], chunk.drop n, records, hconn', ?_, ?_, fun _ => hfirst hremain, rfl, rfl⟩, ?_,
      fun hn => ?_⟩
    · rw [hread]
      rfl
    · rw [← append_assoc, take_append_drop]
    · simp [hfirst hremain]
    · rw [length_drop, hlen]
      dsimp only
      omega
    · exact hleft ▸ Nat.le_add_right ..
    · exact hleft ▸ Nat.lt_add_of_pos_right (by omega)
  · rw [read, if_neg hremain]
    obtain rfl : chunk = [] := length_eq_zero_iff.1 (by omega)
    rw [nil_append] at hconn ⊢
    cases records with
    | nil =>
      refine .inl ⟨rfl, ?_⟩
      rw [flatMap_nil, append_nil] at hconn
      rw [readRecord, readExactly, hconn, Codec.readFull, hreply]
      cases hresp : c.firstResponse with
      | false =>
        obtain rfl : reply = [] := by simpa [hresp] using hreply
        rfl
      | true =>
        have hne : reply.isEmpty = false := by
          cases reply with
          | nil => simp [hresp] at hreply
          | cons x reply => rfl
        rw [hne]
        rfl
    | cons r records =>
      have hdiscard : (reply ++ r.header).length = if c.firstResponse then 105 else 3 := by
        rw [length_append, r.length_header, hreply]
        split_ifs <;> rfl
      rw [flatMap_cons, bytes, append_assoc, append_assoc, ← append_assoc] at hconn
      obtain ⟨out, rest, conn', hread, hsplit, hconn'⟩ :=
        readRecord_of_append n r.length_payload hconn
      have hless : conn'.flatten.length < c.left := by
        rw [left, hconn, hconn', hsplit]
        simp only [length_append, length_bytesOfNat]
        omega
      refine .inr ⟨out, ⟨rest.length, false, conn'⟩, rest ++ records.flatMap payload,
        hdiscard ▸ hread, ?_, ⟨[], rest, records, hconn', rfl, rfl, fun _ => rfl, ?_, rfl⟩,
        hless.le, fun _ => hless⟩
      · rw [flatMap_cons, hsplit, append_assoc]
      · simp [eof]

/-- The reads return the payloads, whatever the cuts and buffers are. -/
theorem drained_simpleObfs {reply : List UInt8} {records : List Record} {conn : List (List UInt8)}
    (hreply : reply.length = 102) (hconn : conn.flatten = reply ++ records.flatMap bytes)
    (sizes : List ℕ) :
    Drained (eof true records) (records.flatMap payload) conn.flatten.length sizes
      (reads read { conn } sizes) :=
  drained_reads serves_read { conn } _
    ⟨reply, [], records, hconn, hreply, rfl, fun h => absurd h (lt_irrefl 0), rfl, rfl⟩ sizes

theorem drained_simpleObfs_two :
    (reads read { conn := [replicate 102 0 ++ [23, 3, 3, 0, 3, 1], [2, 3, 23, 3, 3], [0, 0]] }
      [2, 0, 2, 1, 9]) = ([1, 2, 3], some "EOF") ∧
    Drained "EOF" [1, 2, 3] 115 [2, 0, 2, 1, 9]
      (reads read { conn := [replicate 102 0 ++ [23, 3, 3, 0, 3, 1], [2, 3, 23, 3, 3], [0, 0]] }
        [2, 0, 2, 1, 9]) :=
  ⟨by decide +kernel, @drained_simpleObfs (replicate 102 0)
    [⟨[23, 3, 3], [1, 2, 3], rfl, by decide⟩, ⟨[23, 3, 3], [], rfl, by decide⟩] _ rfl
    (by decide +kernel) [2, 0, 2, 1, 9]⟩

end TLSObfs

end SingBox
