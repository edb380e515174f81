import SingBox.Transport.NaivePadding
import SingBox.Transport.Upgrade

/-!
# Connections that can be replaced by the one below

A relay asks a wrapper whether it is still needed, and reads from and writes to the connection below
if it is not. The padding connection of naive and the HTTP connection of v2ray say that their reader
is replaceable when the last header, or the response, has been read. By then padding of the last
frame may be left, or bytes that were read together with the response. This module says exactly in
which states the answer is right.
-/

namespace SingBox.Replaceable
open Draining PaddingConn Upgrade List

abbrev Bytes := Upgrade.Bytes

/-- With what the connection below will return. -/
structure HTTPConn where
  requestWritten : Bool := false
  responseRead : Bool := false
  responseCache : Option Bytes := none
  conn : List Bytes

namespace HTTPConn

/-- `failure` is the error of a response that cannot be read or has another status than 200. -/
def readResponse (response : Bytes) (failure : Option String) (c : HTTPConn) :
    Except String HTTPConn := do
  if c.responseRead then return c
  if let some err := failure then throw err
  let reader := Upgrade.readResponse response c.conn
  if 0 < reader.buffered.length then
    let cached ← httpConn reader
    return { c with responseRead := true, responseCache := some cached.buffer, conn := cached.conn }
  return { c with responseRead := true, conn := reader.conn }

def read (response : Bytes) (failure : Option String) (n : ℕ) (c : HTTPConn) :
    Except String (Bytes × HTTPConn) := do
  let c ← c.readResponse response failure
  let cache := c.responseCache.getD []
  if 0 < n ∧ cache ≠ [] then
    return (cache.take n, { c with responseCache := some (cache.drop n) })
  let c := if cache = [] then { c with responseCache := none } else c
  let (b, conn) ← readOnce "EOF" n c.conn
  return (b, { c with conn })

def readerReplaceable (c : HTTPConn) : Bool := c.responseRead

def writerReplaceable (c : HTTPConn) : Bool := c.requestWritten

def written (request : Bytes) : HTTPConn → List Bytes → Bytes
  | _, [] => []
  | c, b :: payloads =>
    if c.requestWritten then b ++ written request c payloads
    else request ++ b ++ written request { c with requestWritten := true } payloads

end HTTPConn

/-! ### What reading yields -/

section Yields
variable {σ : Type} {read : ℕ → σ → Except String (Bytes × σ)} {s : σ} {bytes bytes' : Bytes}

/-- The calls return these bytes in order, fail only with `EOF` behind them, and get there. -/
def Yields (read : ℕ → σ → Except String (Bytes × σ)) (s : σ) (bytes : Bytes) : Prop :=
  ∃ bound, ∀ sizes, Drained "EOF" bytes bound sizes (reads read s sizes)

/-- Reading the connection below directly yields what the wrapper would have yielded. -/
def Replaces (read : ℕ → σ → Except String (Bytes × σ)) (s : σ) (conn : List Bytes) : Prop :=
  ∀ bytes, Yields read s bytes ↔ Yields (readOnce "EOF") conn bytes

lemma Yields.exists_reads (h : Yields read s bytes) :
    ∃ bound, ∀ k, bound < k → reads read s (replicate k 1) = (bytes, some "EOF") := by
  obtain ⟨bound, hbound⟩ := h
  refine ⟨bound, fun k hk => (hbound (replicate k 1)).2.2 ?_⟩
  simpa [countP_replicate] using hk

lemma Yields.unique (h : Yields read s bytes) (h' : Yields read s bytes') : bytes = bytes' := by
  obtain ⟨bound, hbound⟩ := h.exists_reads
  obtain ⟨bound', hbound'⟩ := h'.exists_reads
  have hreads := hbound (bound + bound' + 1) (by omega)
  rw [hbound' (bound + bound' + 1) (by omega)] at hreads
  exact (Prod.mk.inj hreads).1.symm

lemma yields_of_serves {left : σ → ℕ} {Owes : σ → Bytes → Prop}
    (h : Serves read "EOF" left Owes) (howes : Owes s bytes) : Yields read s bytes :=
  ⟨left s, drained_reads h s bytes howes⟩

lemma serves_readOnce : Serves (readOnce "EOF") "EOF" (fun conn : List Bytes => conn.flatten.length)
    fun conn bytes => bytes = conn.flatten := by
  rintro n conn _ rfl
  rcases readOnce_cases "EOF" n conn with ⟨-, hnil, hread⟩ | ⟨out, rest, hread, hsplit, -, hpos⟩
  · exact .inl ⟨hnil, hread⟩
  · have hlen : out.length + rest.flatten.length = conn.flatten.length := by
      rw [← length_append, hsplit]
    refine .inr ⟨out, rest, rest.flatten, hread, hsplit.symm, rfl, ?_, fun hn => ?_⟩
    · exact Nat.le.intro (by rw [add_comm]; exact hlen)
    · exact (Nat.lt_add_of_pos_left (hpos hn)).trans_eq hlen

lemma yields_readOnce (conn : List Bytes) : Yields (readOnce "EOF") conn conn.flatten :=
  yields_of_serves serves_readOnce rfl

lemma replaces_iff {conn : List Bytes} : Replaces read s conn ↔ Yields read s conn.flatten := by
  constructor
  · intro h
    exact (h _).2 (yields_readOnce conn)
  · intro h bytes
    constructor
    · intro hbytes
      rw [hbytes.unique h]
      exact yields_readOnce conn
    · intro hbytes
      rw [hbytes.unique (yields_readOnce conn)]
      exact h

end Yields

/-! ### The padding connection -/

def readerReplaceable (p : PaddingConn) : Bool := p.readPadding == paddingCount

def writerReplaceable (writePadding : ℕ) : Bool := writePadding == paddingCount

section Padding
variable {p : PaddingConn} {n : ℕ}

/-- Behind the last header: the rest of the data, the padding, and then the connection itself. -/
lemma readWithPadding_eq (h : readerReplaceable p) : readWithPadding n p =
    if 0 < p.readRemaining then do
      let (buffer, readRemaining, reader) ← readChunk "EOF" n p.readRemaining p.reader
      return (buffer, { p with readRemaining, reader })
    else do
      let (_, reader) ← readExactly (Codec.readFull p.paddingRemaining) p.reader
      let (buffer, reader) ← readOnce "EOF" n reader
      return (buffer, { p with paddingRemaining := 0, reader }) := by
  have hpadding : ¬p.readPadding < paddingCount := by
    rw [beq_iff_eq.1 h]
    exact lt_irrefl _
  simp only [readWithPadding, if_neg hpadding]

/-- Reading within the data of the last frame. -/
lemma readWithPadding_of_pos (h : readerReplaceable p) (hpos : 0 < p.readRemaining) :
    p.reader.flatten = [] ∧ 0 < n ∧ readWithPadding n p = .error "EOF" ∨
    ∃ out reader, readWithPadding n p =
        .ok (out, { p with readRemaining := p.readRemaining - out.length, reader }) ∧
      out ++ reader.flatten = p.reader.flatten ∧ out.length ≤ p.readRemaining ∧
      (0 < n → 0 < out.length) := by
  rw [readWithPadding_eq h, if_pos hpos, readChunk]
  rcases readOnce_cases "EOF" (min n p.readRemaining) p.reader with
    ⟨hmin, hnil, hread⟩ | ⟨out, reader, hread, hsplit, hlen, hout⟩
  · rw [hread]
    exact .inl ⟨hnil, by omega, rfl⟩
  · rw [hread]
    exact .inr ⟨out, reader, rfl, hsplit, by omega, fun hn => hout (by omega)⟩

/-- Behind the data of the last frame the padding is skipped. -/
lemma readWithPadding_of_eq_zero (h : readerReplaceable p) (hzero : p.readRemaining = 0) :
    p.reader.flatten.length < p.paddingRemaining ∧
      (∃ err, readWithPadding n p = .error err ∧ (p.reader.flatten = [] → err = "EOF")) ∨
    ∃ reader, reader.flatten = p.reader.flatten.drop p.paddingRemaining ∧
      p.paddingRemaining ≤ p.reader.flatten.length ∧
      readWithPadding n p = (readOnce "EOF" n reader).map fun (b, reader) =>
        (b, { p with paddingRemaining := 0, reader }) := by
  rw [readWithPadding_eq h, if_neg (by omega), readExactly, Codec.readFull]
  split_ifs with hle hnil
  · refine .inr ⟨_, Arrival.takeFull_snd _ _, hle, ?_⟩
    have hlen : p.reader.flatten.length - (p.reader.flatten.drop p.paddingRemaining).length =
        p.paddingRemaining := by
      rw [length_drop]
      omega
    simp only [Except.map, bind, Except.bind, hlen]
    cases readOnce "EOF" n (Arrival.takeFull p.paddingRemaining p.reader).2 <;> rfl
  · exact .inl ⟨not_le.1 hle, "EOF", rfl, fun _ => rfl⟩
  · exact .inl ⟨not_le.1 hle, "unexpected EOF", rfl, fun h => absurd (isEmpty_iff.2 h) hnil⟩

/-- What is left of the stream has no padding in it. -/
def Unpadded (p : PaddingConn) : Prop :=
  p.paddingRemaining = 0 ∨ p.reader.flatten.length ≤ p.readRemaining

lemma serves_unpadded : Serves readWithPadding "EOF" (fun p => p.reader.flatten.length)
    fun p bytes => readerReplaceable p ∧ Unpadded p ∧ bytes = p.reader.flatten := by
  rintro n p _ ⟨hp, hunpadded, rfl⟩
  rcases Nat.eq_zero_or_pos p.readRemaining with hzero | hpos
  · rcases readWithPadding_of_eq_zero (n := n) hp hzero with
      ⟨hlt, err, hread, herr⟩ | ⟨reader, hdrop, hle, hread⟩
    · have hnil : p.reader.flatten = [] := by
        rcases hunpadded with hpad | hlen
        · omega
        · exact length_eq_zero_iff.1 (by omega)
      exact .inl ⟨hnil, by rw [hread, herr hnil]⟩
    · have hsame : reader.flatten = p.reader.flatten := by
        rw [hdrop]
        rcases hunpadded with hpad | hlen
        · rw [hpad, drop_zero]
        · rw [length_eq_zero_iff.1 (by omega : p.reader.flatten.length = 0), drop_nil]
      rcases readOnce_cases "EOF" n reader with
        ⟨-, hnil, honce⟩ | ⟨out, reader', honce, hsplit, -, hout⟩
      · exact .inl ⟨hsame ▸ hnil, by rw [hread, honce]; rfl⟩
      · have hlen : out.length + reader'.flatten.length = p.reader.flatten.length := by
          rw [← length_append, hsplit, hsame]
        refine .inr ⟨out, { p with paddingRemaining := 0, reader := reader' }, reader'.flatten, ?_,
          by rw [hsplit, hsame], ⟨hp, .inl rfl, rfl⟩, by dsimp only; omega, fun hn => ?_⟩
        · rw [hread, honce]
          rfl
        · exact (Nat.lt_add_of_pos_left (hout hn)).trans_eq hlen
  · rcases readWithPadding_of_pos (n := n) hp hpos with
      ⟨hnil, -, hread⟩ | ⟨out, reader, hread, hsplit, hle, hout⟩
    · exact .inl ⟨hnil, hread⟩
    · have hlen : out.length + reader.flatten.length = p.reader.flatten.length := by
        rw [← length_append, hsplit]
      refine .inr ⟨out, _, reader.flatten, hread, hsplit.symm, ⟨hp, ?_, rfl⟩,
        by dsimp only; omega, fun hn => (Nat.lt_add_of_pos_left (hout hn)).trans_eq hlen⟩
      exact hunpadded.imp id fun h => by dsimp only; omega

/-- If there is padding in the rest of the stream, the reads return less than the stream. -/
lemma length_reads_lt (hp : readerReplaceable p) (hpad : 0 < p.paddingRemaining)
    (hlen : p.readRemaining < p.reader.flatten.length) (sizes : List ℕ) :
    (reads readWithPadding p sizes).1.length < p.reader.flatten.length := by
  induction sizes generalizing p with
  | nil => exact Nat.zero_lt_of_lt hlen
  | cons n sizes ih =>
    rw [reads]
    rcases Nat.eq_zero_or_pos p.readRemaining with hzero | hpos
    · rcases readWithPadding_of_eq_zero (n := n) hp hzero with
        ⟨-, err, hread, -⟩ | ⟨reader, hdrop, hle, hread⟩
      · rw [hread]
        exact Nat.zero_lt_of_lt hlen
      · rcases readOnce_cases "EOF" n reader with
          ⟨-, -, honce⟩ | ⟨out, reader', honce, hsplit, -, -⟩
        · rw [hread, honce]
          exact Nat.zero_lt_of_lt hlen
        · rw [hread, honce]
          -- The padding has been skipped: the reads to come return at most what is left.
          have hrest := (drained_reads serves_unpadded
            { p with paddingRemaining := 0, reader := reader' } reader'.flatten
            ⟨hp, .inl rfl, rfl⟩ sizes).1.length_le
          have hskipped : reader.flatten.length + p.paddingRemaining = p.reader.flatten.length := by
            rw [hdrop, length_drop]
            omega
          rw [← hsplit, length_append] at hskipped
          simp only [Except.map, length_append]
          omega
    · rcases readWithPadding_of_pos (n := n) hp hpos with
        ⟨-, -, hread⟩ | ⟨out, reader, hread, hsplit, hle, -⟩
      · rw [hread]
        exact Nat.zero_lt_of_lt hlen
      · rw [hread]
        have hsum : out.length + reader.flatten.length = p.reader.flatten.length := by
          rw [← length_append, hsplit]
        have hrest : _ < reader.flatten.length :=
          @ih { p with readRemaining := p.readRemaining - out.length, reader } hp hpad
            (by dsimp only; omega)
        simp only [length_append]
        omega

lemma replaces_padding_iff (hp : readerReplaceable p) :
    Replaces readWithPadding p p.reader ↔ Unpadded p := by
  rw [replaces_iff]
  constructor
  · intro hyields
    by_contra hpadded
    obtain ⟨hpad, hlen⟩ := not_or.1 hpadded
    obtain ⟨bound, hbound⟩ := hyields.exists_reads
    have hlt := length_reads_lt hp (Nat.pos_of_ne_zero hpad) (not_le.1 hlen)
      (replicate (bound + 1) 1)
    rw [hbound (bound + 1) (by omega)] at hlt
    exact lt_irrefl _ hlt
  · intro hunpadded
    exact yields_of_serves serves_unpadded ⟨hp, hunpadded, rfl⟩

end Padding

/-! ### The HTTP connection -/

section HTTP
variable {response : Bytes} {failure : Option String}

lemma serves_http : Serves (HTTPConn.read response failure) "EOF"
    (fun c => (c.responseCache.getD []).length + c.conn.flatten.length)
    fun c bytes => c.readerReplaceable ∧ bytes = c.responseCache.getD [] ++ c.conn.flatten := by
  rintro n c _ ⟨hc, rfl⟩
  have hresponse : c.readResponse response failure = .ok c := by
    rw [HTTPConn.readResponse, if_pos (by exact hc)]
    rfl
  simp only [HTTPConn.read, hresponse, bind, Except.bind]
  by_cases hcache : c.responseCache.getD [] = []
  · simp only [hcache, ne_eq, not_true, and_false, if_false, if_true, nil_append, length_nil]
    rcases serves_readOnce n c.conn _ rfl with
      ⟨hnil, hread⟩ | ⟨out, conn, _, hread, hsplit, rfl, hle, hlt⟩
    · exact .inl ⟨hnil, by rw [hread]⟩
    · rw [hread]
      exact .inr ⟨out, { c with responseCache := none, conn }, conn.flatten, rfl, hsplit, ⟨hc, rfl⟩,
        by simpa using hle, by simpa using hlt⟩
  · rcases Nat.eq_zero_or_pos n with rfl | hn
    · simp only [lt_irrefl, false_and, if_false, if_neg hcache]
      exact .inr ⟨[], c, _, rfl, rfl, ⟨hc, rfl⟩, le_rfl, False.elim⟩
    · rw [if_pos ⟨hn, hcache⟩]
      have hpos := length_pos_iff.2 hcache
      refine .inr ⟨_, _, (c.responseCache.getD []).drop n ++ c.conn.flatten, rfl, ?_, ⟨hc, rfl⟩,
        ?_, fun _ => ?_⟩
      · rw [← append_assoc, take_append_drop]
      · simp
      · simp only [Option.getD_some, length_drop]
        omega

lemma replaces_http_iff {c : HTTPConn} (hc : c.readerReplaceable) :
    Replaces (HTTPConn.read response failure) c c.conn ↔ c.responseCache.getD [] = [] := by
  have hyields : Yields (HTTPConn.read response failure) c
      (c.responseCache.getD [] ++ c.conn.flatten) := yields_of_serves serves_http ⟨hc, rfl⟩
  rw [replaces_iff]
  constructor
  · intro h
    exact append_left_eq_self.1 (hyields.unique h)
  · intro hnil
    rwa [hnil, nil_append] at hyields

end HTTP

/-- A reader that says it is replaceable is so exactly if no padding is in the rest of the stream,
or nothing is left in the cache. A writer that says so always is. -/
theorem replaceable (rand : ℕ → UInt8) (response request : Bytes) (failure : Option String) :
    (∀ p, readerReplaceable p → (Replaces readWithPadding p p.reader ↔ Unpadded p)) ∧
    (∀ calls k, writerReplaceable k → written rand calls k = calls.flatMap Call.payload) ∧
    (∀ c : HTTPConn, c.readerReplaceable →
      (Replaces (HTTPConn.read response failure) c c.conn ↔ c.responseCache.getD [] = [])) ∧
    ∀ (c : HTTPConn) payloads, c.writerReplaceable →
      c.written request payloads = payloads.flatten := by
  refine ⟨fun p => replaces_padding_iff, fun calls k hk => ?_, fun c => replaces_http_iff,
    fun c payloads hwritten => ?_⟩
  · exact (carries_written calls k).eq_of_le (beq_iff_eq.1 hk).ge
  · induction payloads with
    | nil => rfl
    | cons b payloads ih => rw [HTTPConn.written, if_pos (by exact hwritten), ih, flatten_cons]

/-- A response with the status that the client expects. -/
def okResponse : Bytes := "HTTP/1.1 200 OK\r\n\r\n".toList.map fun c => UInt8.ofNat c.toNat

/-- After eight headers a byte of padding is left, and after the response a byte of its read. -/
theorem not_replaceable :
    ((replicate 8 1).foldlM (fun p n => (readWithPadding n p).map Prod.snd)
        { reader := replicate 8 (frame [7] 1) ++ [[9]] } = .ok ⟨8, 0, 1, [[0], [9]]⟩ ∧
      readerReplaceable ⟨8, 0, 1, [[0], [9]]⟩ ∧
      reads readWithPadding ⟨8, 0, 1, [[0], [9]]⟩ [1] = ([9], none) ∧
      reads (readOnce "EOF") [[0], [9]] [1] = ([0], none)) ∧
    ∃ c, HTTPConn.read okResponse none 1 { conn := [okResponse ++ [7, 8], [9]] } = .ok ([7], c) ∧
      c.readerReplaceable ∧ reads (HTTPConn.read okResponse none) c [1] = ([8], none) ∧
      reads (readOnce "EOF") c.conn [1] = ([9], none) :=
  ⟨⟨rfl, rfl, rfl, rfl⟩, ⟨false, true, some [8], [[9]]⟩, rfl, rfl, rfl, rfl⟩

end SingBox.Replaceable
