import SingBox.Adapter.Bytes
import SingBox.Lib.Arrival

/-!
# Messages on a stream

A message has its length in front, computed with `Len`. The DNS library is a parameter.
-/

namespace SingBox.Framing
open Arrival List
variable {M : Type}

structure Msg (M : Type) where
  id : UInt16
  compress : Bool
  content : M

structure Library (M : Type) where
  pack : Msg M → Option (List UInt8)
  unpack : List UInt8 → Option (Msg M)
  len : Msg M → ℕ
  /-- `PackBuffer` needs no other buffer than one of the given size. -/
  fits : Msg M → ℕ → Bool

structure Library.Documented (lib : Library M) : Prop where
  /-- `Unpack` does not set `Compress`. -/
  unpack_pack : ∀ m raw, lib.pack m = some raw → lib.unpack raw = some { m with compress := false }
  header : ∀ m raw, lib.pack m = some raw → 12 ≤ raw.length
  /-- `Len` is the size of an uncompressed message. -/
  len_eq : ∀ m raw, m.compress = false → lib.pack m = some raw → lib.len m = raw.length
  /-- `Len` is an upper bound of the size of a compressed one. -/
  length_le_len : ∀ m id raw, lib.pack { m with id, compress := true } = some raw →
    raw.length ≤ lib.len m
  /-- A new buffer only if the given one is too small. -/
  fits_of_len_lt : ∀ m size, lib.len { m with compress := false } < size → lib.fits m size

variable (lib : Library M)

def exMessage (messageId : UInt16) (message : Msg M) : Msg M :=
  { message with id := messageId, compress := true }

/-- If the message was packed elsewhere, old data of the buffer (`memory`) follow the length. -/
def writeMessage (memory : ℕ → UInt8) (messageId : UInt16) (message : Msg M) :
    Option (List UInt8) := do
  let requestLen := lib.len message
  let rawMessage ← lib.pack (exMessage messageId message)
  let free := if lib.fits (exMessage messageId message) (1 + requestLen) then rawMessage
    else (range rawMessage.length).map fun i => memory (2 + i)
  -- The conversion to `uint16` takes the last two bytes.
  return bytesOfNat 2 requestLen ++ free

structure Query (M : Type) where
  id : UInt16
  message : Msg M

def Query.expected (query : Query M) : Msg M :=
  { query.message with id := query.id, compress := false }

def Query.pack (query : Query M) : Option (List UInt8) :=
  lib.pack (exMessage query.id query.message)

def writeMessages (memory : ℕ → ℕ → UInt8) : List (Query M) → Option (List UInt8)
  | [] => some []
  | query :: queries => do
    let frame ← writeMessage lib (memory queries.length) query.id query.message
    let rest ← writeMessages memory queries
    return frame ++ rest

inductive ReadError where
  | eof
  | shortRead
  | unpack
deriving DecidableEq

def readMessage : Reader UInt8 ReadError (Msg M) := do
  let head ← readFull .eof 2
  let responseLen := Addr.natOfBytes head
  if responseLen < 10 then throw .shortRead
  let data ← readFull .eof responseLen
  match lib.unpack data with
  | some message => pure message
  | none => throw .unpack

def readMessages : ℕ → Reader UInt8 ReadError (List (Msg M))
  | 0 => pure []
  | n + 1 => do
    let message ← readMessage lib
    let messages ← readMessages n
    return message :: messages

structure Correct (queries : List (Query M)) : Prop where
  /-- Each length is the number of the bytes of the message after it. -/
  framed : ∀ query ∈ queries, ∀ raw, query.pack lib = some raw → raw.length ≤ 65535 →
    ∀ memory, writeMessage lib memory query.id query.message = some (bytesOfNat 2 raw.length ++ raw)
  refused : ∀ query ∈ queries, ∀ raw, query.pack lib = some raw → 65535 < raw.length →
    ∀ memory, writeMessage lib memory query.id query.message = none
  /-- Messages are read back, in whatever parts the stream arrives. -/
  readBack : (∀ query ∈ queries, ∀ raw, query.pack lib = some raw → raw.length ≤ 65535) →
    ∀ memory, ∃ stream, writeMessages lib memory queries = some stream ∧
      ∀ parts, parts.flatten = stream →
        ∃ rest, readMessages lib queries.length parts = .ok (queries.map Query.expected, rest)

def Framed (query : Query M) : Prop := ∃ raw, query.pack lib = some raw ∧ raw.length ≤ 65535 ∧
    lib.len query.message % 65536 = raw.length ∧
    lib.fits (exMessage query.id query.message) (1 + lib.len query.message)

variable {lib} {query : Query M} {queries : List (Query M)} {raw : List UInt8}

lemma bytesOfNat_two_mod (n : ℕ) : bytesOfNat 2 (n % 65536) = bytesOfNat 2 n := by
  have hhigh : n % 65536 / 256 ^ 1 % 256 = n / 256 ^ 1 % 256 := by omega
  have hlow : n % 65536 / 256 ^ 0 % 256 = n / 256 ^ 0 % 256 := by omega
  rw [bytesOfNat, bytesOfNat, bytesOfNat, bytesOfNat, hhigh, hlow]
  rfl

lemma natOfBytes_two {n : ℕ} (h : n < 65536) : Addr.natOfBytes (bytesOfNat 2 n) = n :=
  (natOfBytes_bytesOfNat 2 n).trans (Nat.mod_eq_of_lt h)

lemma mod_eq_of_bytesOfNat {m n : ℕ} (h : bytesOfNat 2 m = bytesOfNat 2 n) :
    m % 65536 = n % 65536 := by
  have hread := congrArg Addr.natOfBytes h
  rwa [natOfBytes_bytesOfNat, natOfBytes_bytesOfNat] at hread

lemma writeMessage_eq_some (hraw : query.pack lib = some raw) (memory : ℕ → UInt8) :
    writeMessage lib memory query.id query.message = some (bytesOfNat 2 (lib.len query.message) ++
        if lib.fits (exMessage query.id query.message) (1 + lib.len query.message) then raw
        else (range raw.length).map fun i => memory (2 + i)) := by
  have hpack : lib.pack (exMessage query.id query.message) = some raw := hraw
  simp [writeMessage, hpack]

lemma Framed.writeMessage (h : Framed lib query) (hraw : query.pack lib = some raw)
    (memory : ℕ → UInt8) :
    writeMessage lib memory query.id query.message = some (bytesOfNat 2 raw.length ++ raw) := by
  obtain ⟨raw', hraw', -, hlen, hfits⟩ := h
  obtain rfl : raw' = raw := Option.some.inj (hraw'.symm.trans hraw)
  rw [writeMessage_eq_some hraw, if_pos hfits, ← hlen, bytesOfNat_two_mod]

lemma framed_of_writeMessage (hlib : lib.Documented) (hraw : query.pack lib = some raw)
    (hle : raw.length ≤ 65535) (h : ∀ memory, writeMessage lib memory query.id query.message =
      some (bytesOfNat 2 raw.length ++ raw)) : Framed lib query := by
  have hbytes := fun memory => (writeMessage_eq_some hraw memory).symm.trans (h memory)
  have hsplit := fun memory => append_inj (Option.some.inj (hbytes memory)) (by simp)
  refine ⟨raw, hraw, hle, ?_, ?_⟩
  · have hmod := mod_eq_of_bytesOfNat (hsplit fun _ => 0).1
    rwa [Nat.mod_eq_of_lt (Nat.lt_succ_of_le hle)] at hmod
  · by_contra hfits
    -- Old data that differ from the first byte of the message.
    obtain ⟨first, tail, rfl⟩ : ∃ first tail, raw = first :: tail :=
      exists_cons_of_length_pos (lt_of_lt_of_le (by decide) (hlib.header _ _ hraw))
    have hstale := (hsplit fun _ => first + 1).2
    rw [if_neg hfits] at hstale
    simp [range_succ_eq_map] at hstale

lemma readMessage_of_frame (hlib : lib.Documented) (hraw : query.pack lib = some raw)
    (hle : raw.length ≤ 65535) {parts : List (List UInt8)} {tail : List UInt8}
    (h : parts.flatten = bytesOfNat 2 raw.length ++ raw ++ tail) :
    ∃ rest, readMessage lib parts = .ok (query.expected, rest) ∧ rest.flatten = tail := by
  rw [append_assoc] at h
  obtain ⟨rest, hhead, hrest⟩ := @readFull_of_append _ _ ReadError.eof _ _ _ h
  obtain ⟨rest', hdata, hrest'⟩ := @readFull_of_append _ _ ReadError.eof _ _ _ hrest
  rw [length_bytesOfNat] at hhead
  have hlen := natOfBytes_two (Nat.lt_succ_of_le hle)
  have hshort : ¬raw.length < 10 := by
    have := hlib.header _ _ hraw
    omega
  have hunpack : lib.unpack raw = some query.expected := hlib.unpack_pack _ _ hraw
  refine ⟨rest', ?_, hrest'⟩
  rw [readMessage, bind_ok hhead]
  dsimp only
  rw [hlen, if_neg hshort, bind_ok hdata, hunpack]
  rfl

lemma readMessages_writeMessages (hlib : lib.Documented)
    (h : ∀ query ∈ queries, Framed lib query) (memory : ℕ → ℕ → UInt8) :
    ∃ stream, writeMessages lib memory queries = some stream ∧
    ∀ parts tail, parts.flatten = stream ++ tail →
    ∃ rest, readMessages lib queries.length parts = .ok (queries.map Query.expected, rest) ∧
    rest.flatten = tail := by
  induction queries with
  | nil => exact ⟨[], rfl, fun parts tail hparts => ⟨parts, rfl, hparts⟩⟩
  | cons query queries ih =>
    obtain ⟨hquery, hqueries⟩ := forall_mem_cons.1 h
    obtain ⟨stream, hstream, hread⟩ := ih hqueries
    obtain ⟨raw, hraw, hle, -⟩ := id hquery
    have hframe := hquery.writeMessage hraw (memory queries.length)
    refine ⟨bytesOfNat 2 raw.length ++ raw ++ stream, ?_, fun parts tail hparts => ?_⟩
    · simp [writeMessages, hframe, hstream]
    · rw [append_assoc] at hparts
      obtain ⟨rest, hfst, hrest⟩ := readMessage_of_frame hlib hraw hle hparts
      obtain ⟨rest', hothers, hrest'⟩ := hread rest tail hrest
      refine ⟨rest', ?_, hrest'⟩
      rw [length_cons, readMessages, bind_ok hfst, bind_ok hothers]
      rfl

def answer (compress : Bool) : List UInt8 :=
  (if compress then [0xc0, 0x0c] else [1, 0x61, 0]) ++ [0, 1, 0, 1, 0, 0, 0, 0, 0, 4, 0, 0, 0, 0]

def answers : Library ℕ where
  pack m := if m.content < 65536 then
      some (bytesOfNat 2 m.id.toNat ++ [0, 0, 0, 1] ++ bytesOfNat 2 m.content ++ [0, 0, 0, 0] ++
        [1, 0x61, 0, 0, 1, 0, 1] ++ (replicate m.content (answer m.compress)).flatten)
    else none
  unpack raw := some ⟨UInt16.ofNat (Addr.natOfBytes (raw.take 2)), false,
      Addr.natOfBytes ((raw.drop 6).take 2)⟩
  len m := 19 + m.content * (answer m.compress).length
  fits m size := 19 + m.content * (answer false).length < size

lemma exists_pack_answers (m : Msg ℕ) (h : m.content < 65536) : ∃ raw, answers.pack m = some raw :=
  ⟨_, if_pos h⟩

lemma length_answers {m : Msg ℕ} (h : answers.pack m = some raw) : raw.length = answers.len m := by
  simp only [answers, Option.ite_none_right_eq_some, Option.some.injEq] at h
  obtain ⟨-, rfl⟩ := h
  simp only [answers, length_append, length_bytesOfNat, length_flatten,
    map_replicate, sum_replicate_nat, length_cons, length_nil]

lemma documented_answers : answers.Documented where
  unpack_pack m raw h := by
    simp only [answers, Option.ite_none_right_eq_some, Option.some.injEq] at h
    obtain ⟨hlt, rfl⟩ := h
    have hid : UInt16.ofNat (Addr.natOfBytes (bytesOfNat 2 m.id.toNat)) = m.id := by
      rw [natOfBytes_two m.id.toNat_lt, UInt16.ofNat_toNat]
    have hcontent := natOfBytes_two hlt
    simp only [answers, bytesOfNat, cons_append, nil_append, take_succ_cons,
      take_zero, drop_succ_cons, drop_zero] at hid hcontent ⊢
    rw [hid, hcontent]
  header m raw h := by
    rw [length_answers h]
    exact Nat.le_add_right_of_le (by decide)
  len_eq m raw _ h := (length_answers h).symm
  length_le_len m id raw h := by
    rw [length_answers h]
    refine Nat.add_le_add_left (Nat.mul_le_mul_left _ ?_) _
    show (answer true).length ≤ (answer m.compress).length
    cases m.compress <;> decide
  fits_of_len_lt m size h := by simpa [answers] using h

def questions : List (Query ℕ) := [⟨1, ⟨0, false, 0⟩⟩, ⟨2, ⟨0, true, 0⟩⟩]

def oneAnswer : Query ℕ := ⟨1, ⟨0, false, 1⟩⟩

def manyAnswers : Query ℕ := ⟨1, ⟨0, false, 4096⟩⟩

/-- The framing is right exactly if `Len` is the compressed size and the message is packed into the
buffer written. -/
theorem framing_correct_iff (hlib : lib.Documented) (queries : List (Query M))
    (hpack : ∀ query ∈ queries, (query.pack lib).isSome = true) :
    Correct lib queries ↔ ∀ query ∈ queries, Framed lib query := by
  constructor
  · intro h query hquery
    obtain ⟨raw, hraw⟩ := Option.isSome_iff_exists.1 (hpack query hquery)
    rcases lt_or_ge 65535 raw.length with hlong | hle
    · -- Nothing refuses a message that is too long.
      have hnone := h.refused query hquery raw hraw hlong fun _ => 0
      rw [writeMessage_eq_some hraw] at hnone
      exact absurd hnone (Option.some_ne_none _)
    · exact framed_of_writeMessage hlib hraw hle (h.framed query hquery raw hraw hle)
  · intro h
    refine ⟨fun query hquery raw hraw _ => (h query hquery).writeMessage hraw,
      fun query hquery raw hraw hlong => ?_, fun _ memory => ?_⟩
    · obtain ⟨raw', hraw', hle, -⟩ := h query hquery
      obtain rfl : raw' = raw := Option.some.inj (hraw'.symm.trans hraw)
      omega
    · obtain ⟨stream, hstream, hread⟩ := readMessages_writeMessages hlib h memory
      refine ⟨stream, hstream, fun parts hparts => ?_⟩
      obtain ⟨rest, hrest, -⟩ := hread parts [] (by rw [hparts, append_nil])
      exact ⟨rest, hrest⟩

theorem framing_correct_iff_questions :
    (∀ query ∈ questions, Framed answers query) ∧ Correct answers questions := by
  have hframed : ∀ query ∈ questions, Framed answers query := by
    refine forall_mem_cons.2 ⟨⟨_, rfl, ?_⟩, forall_mem_singleton.2 ⟨_, rfl, ?_⟩⟩
    all_goals exact ⟨by decide, by decide, by decide⟩
  exact ⟨hframed, (framing_correct_iff documented_answers questions (by decide)).2 hframed⟩

/-- The length is of the uncompressed message; a long one is written. -/
theorem not_correct_oneAnswer_manyAnswers : answers.Documented ∧
      (oneAnswer.pack answers).map length = some 35 ∧
      (writeMessage answers (fun _ => 0) oneAnswer.id oneAnswer.message).map (take 2) =
        some (bytesOfNat 2 36) ∧
      (writeMessage answers (fun _ => 0) oneAnswer.id oneAnswer.message).map
        (fun stream => (readMessage answers [stream]).isOk) = some false ∧
      ¬Correct answers [oneAnswer] ∧ ¬Correct answers [manyAnswers] := by
  refine ⟨documented_answers, by decide +kernel, by decide +kernel, by decide +kernel,
    fun h => ?_, fun h => ?_⟩
  · have hframe := h.framed oneAnswer (mem_singleton_self _) _ rfl (by decide) fun _ => 0
    revert hframe
    decide +kernel
  · obtain ⟨raw, hraw⟩ : ∃ raw, manyAnswers.pack answers = some raw :=
      exists_pack_answers (exMessage manyAnswers.id manyAnswers.message) (by decide)
    have hlen : raw.length = 65555 := (length_answers hraw).trans (by decide)
    have hnone := h.refused manyAnswers (mem_singleton_self _) raw hraw (by omega) fun _ => 0
    rw [writeMessage_eq_some hraw] at hnone
    exact absurd hnone (Option.some_ne_none _)

end SingBox.Framing
