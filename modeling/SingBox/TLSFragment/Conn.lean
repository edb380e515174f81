import SingBox.Lib.Text
import SingBox.TLSFragment.Place

/-!
# Fragments of a ClientHello

The first write is cut within the labels of the server name, at random. The parts are sent one by
one, become TLS records, or both.
-/

namespace SingBox.TLSFragment
open Slice List Option

/-! ### Writing -/

def dot : UInt8 := 46

structure Conn where
  splitPacket : Bool
  splitRecord : Bool
  firstPacketWritten : Bool := false
  sent : List (List UInt8) := []

open Conn

/-- A random number below `n`. It panics if there is none. -/
def intn (choice n : ℕ) : Option ℕ := if n = 0 then none else some (choice % n)

def trimLabels (publicSuffix : GoString → GoString) (name : GoString) : Option (List GoString) :=
  let splits := name.splitOn dot
  if publicSuffix name ≠ [] then slice splits 0 (splits.length - name.count dot) else some splits

/-- A first label of three dots is left out. -/
def skipDots (currentIndex : ℕ) : List GoString → ℕ × List GoString
  | first :: second :: rest =>
    if first = [dot, dot, dot] then (currentIndex + (first.length + 1), second :: rest)
    else (currentIndex, first :: second :: rest)
  | splits => (currentIndex, splits)

/-- Where the payload is cut, from the `i`-th label on. -/
def splitIndexes (choices : ℕ → ℕ) : ℕ → ℕ → List GoString → Option (List ℕ)
  | _, _, [] => some []
  | i, currentIndex, split :: splits => do
    let splitAt ← intn (choices i) split.length
    let rest ← splitIndexes choices (i + 1)
      (currentIndex + split.length + if splits = [] then 0 else 1) splits
    some ((currentIndex + splitAt) :: rest)

def part (splitRecord : Bool) (b : List UInt8) (splitIndexes : List ℕ) (i : ℕ) :
    Option (List UInt8) :=
  if i = 0 then do
    let splitIndex ← splitIndexes[i]?
    let payload ← slice b 0 splitIndex
    if splitRecord then slice payload recordLayerHeaderLen payload.length else some payload
  else if i = splitIndexes.length then do
    let splitIndex ← splitIndexes[i - 1]?
    slice b splitIndex b.length
  else do
    let low ← splitIndexes[i - 1]?
    let high ← splitIndexes[i]?
    slice b low high

def writeRecord (b payload : List UInt8) : Option (List UInt8) := do
  let header ← slice b 0 3
  some (header ++ bytesOfNat 2 (payload.length % 2 ^ 16) ++ payload)

def Conn.sendPart (c : Conn) (b : List UInt8) (state : List UInt8 × List (List UInt8))
    (payload : List UInt8) : Option (List UInt8 × List (List UInt8)) :=
  if c.splitRecord then do
    let record ← writeRecord b payload
    let buffer := (if c.splitPacket then [] else state.1) ++ record
    some (buffer, if c.splitPacket then state.2 ++ [buffer] else state.2)
  else some (state.1, if c.splitPacket then state.2 ++ [payload] else state.2)

def Conn.writePart (c : Conn) (b : List UInt8) (splitIndexes : List ℕ)
    (state : List UInt8 × List (List UInt8)) (i : ℕ) :
    Option (List UInt8 × List (List UInt8)) := do
  let payload ← part c.splitRecord b splitIndexes i
  c.sendPart b state payload

def Conn.write (publicSuffix : GoString → GoString) (choices : ℕ → ℕ) (c : Conn)
    (b : List UInt8) : Option (ℕ × Conn) :=
  if !c.firstPacketWritten then do
    match ← indexTLSServerName b with
    | none => some (b.length, { c with firstPacketWritten := true, sent := c.sent ++ [b] })
    | some serverName => do
      let splits ← trimLabels publicSuffix serverName.serverName
      let (currentIndex, splits) := skipDots serverName.index splits
      let splitIndexes ← splitIndexes choices 0 currentIndex splits
      let (buffer, sent) ←
        (range (splitIndexes.length + 1)).foldlM (c.writePart b splitIndexes) ([], c.sent)
      let sent := if c.splitRecord ∧ !c.splitPacket then sent ++ [buffer] else sent
      some (b.length, { c with firstPacketWritten := true, sent })
  else some (b.length, { c with sent := c.sent ++ [b] })

/-! ### Where a record is cut -/

def usedLabels (publicSuffix : GoString → GoString) (name : GoString) : List GoString :=
  if publicSuffix name ≠ [] then (name.splitOn dot).take 1 else name.splitOn dot

variable {publicSuffix : GoString → GoString} {choices : ℕ → ℕ} (name : GoString)

lemma usedLabels_ne_nil : usedLabels publicSuffix name ≠ [] := by
  have hlen := Text.length_splitOn dot name
  have hne : name.splitOn dot ≠ [] := ne_nil_of_length_pos (by omega)
  unfold usedLabels
  split_ifs
  · obtain ⟨first, rest, hsplits⟩ := exists_cons_of_ne_nil hne
    rw [hsplits]
    exact cons_ne_nil _ _
  · exact hne

lemma trimLabels_eq : trimLabels publicSuffix name = some (usedLabels publicSuffix name) := by
  have hlen := Text.length_splitOn dot name
  unfold trimLabels usedLabels
  dsimp only
  split_ifs
  · rw [hlen, Nat.add_sub_cancel_left, slice_eq (Nat.zero_le 1) (by omega), drop_zero]
  · rfl

lemma skipDots_eq (currentIndex : ℕ) :
    skipDots currentIndex (usedLabels publicSuffix name) =
    (currentIndex, usedLabels publicSuffix name) := by
  have hlabel : ∀ label ∈ usedLabels publicSuffix name, label ≠ [dot, dot, dot] := by
    rintro _ hlabel rfl
    have hmem : [dot, dot, dot] ∈ name.splitOn dot := by
      unfold usedLabels at hlabel
      split_ifs at hlabel
      · exact mem_of_mem_take hlabel
      · exact hlabel
    exact Text.not_mem_of_mem_splitOn hmem (by simp)
  unfold skipDots
  split
  · rename_i first second rest hused
    rw [if_neg (hlabel first (by simp [hused])), hused]
  · rfl

lemma length_usedLabels_le :
    ((usedLabels publicSuffix name).flatMap (· ++ [dot])).length ≤ name.length + 1 := by
  have hall := congrArg length (Text.flatMap_splitOn dot name)
  rw [length_append, length_singleton] at hall
  unfold usedLabels
  split_ifs
  · rw [← hall]
    conv_rhs => rw [← take_append_drop 1 (name.splitOn dot), flatMap_append]
    rw [length_append]
    exact Nat.le_add_right _ _
  · exact hall.le

variable {i currentIndex : ℕ} {splits : List GoString} {splitRecord : Bool} {payload : List UInt8}
  {serverName : MyServerName}

lemma returns_splitIndexes (h : ∀ split ∈ splits, split ≠ []) :
    Returns (splitIndexes choices i currentIndex splits) fun indexes =>
    indexes.length = splits.length ∧ indexes.Pairwise (· < ·) ∧ ∀ x ∈ indexes,
    currentIndex ≤ x ∧ x + 1 < currentIndex + (splits.flatMap (· ++ [dot])).length := by
  induction splits generalizing i currentIndex with
  | nil => exact .of_some ⟨rfl, .nil, by simp⟩
  | cons split splits ih =>
    obtain ⟨hsplit, hsplits⟩ := forall_mem_cons.1 h
    have hpos : 0 < split.length := length_pos_of_ne_nil hsplit
    have hintn : Returns (intn (choices i) split.length) (· < split.length) := by
      rw [intn, if_neg hpos.ne']
      exact .of_some (Nat.mod_lt _ hpos)
    refine hintn.bind fun splitAt hsplitAt => (ih hsplits).bind fun rest hrest => .of_some ?_
    obtain ⟨hlen, hpairwise, hbds⟩ := hrest
    have hbds' : ∀ x ∈ rest, currentIndex + split.length + 1 ≤ x ∧
        x + 1 < currentIndex + split.length + 1 + (splits.flatMap (· ++ [dot])).length := by
      intro x hx
      have hne : splits ≠ [] := by
        rintro rfl
        rw [length_eq_zero_iff.1 hlen] at hx
        cases hx
      have hbd := hbds x hx
      rw [if_neg hne] at hbd
      exact hbd
    refine ⟨by rw [length_cons, hlen, length_cons], ?_, ?_⟩
    · refine pairwise_cons.2 ⟨fun x hx => ?_, hpairwise⟩
      have hbd := hbds' x hx
      omega
    · rw [flatMap_cons, length_append, length_append, length_singleton]
      intro x hx
      obtain rfl | hx := mem_cons.1 hx
      · omega
      · have hbd := hbds' x hx
        omega

variable {indexes : List ℕ}

lemma ne_nil_of_splitIndexes (h : splitIndexes choices i currentIndex splits = some indexes) :
    ∀ split ∈ splits, split ≠ [] := by
  induction splits generalizing i currentIndex indexes with
  | nil => simp
  | cons split splits ih =>
    obtain ⟨splitAt, hsplitAt, h⟩ := bind_eq_some_iff.1 h
    obtain ⟨rest, hrest, -⟩ := bind_eq_some_iff.1 h
    refine forall_mem_cons.2 ⟨?_, ih hrest⟩
    rintro rfl
    cases hsplitAt

def cutStart (splitRecord : Bool) : ℕ := if splitRecord then recordLayerHeaderLen else 0

variable {b : List UInt8}

lemma part_zero {x : ℕ} (hst : cutStart splitRecord < x) (hx : x < b.length) :
    part splitRecord b (x :: indexes) 0 = some ((b.take x).drop (cutStart splitRecord)) := by
  have hpay : slice b 0 x = some (b.take x) := by
    rw [slice_eq (Nat.zero_le x) hx.le, drop_zero]
  have hlen : (b.take x).length = x := by rw [length_take, Nat.min_eq_left hx.le]
  rw [part, if_pos rfl, getElem?_cons_zero, bind_eq_bind, bind_some, hpay, bind_eq_bind, bind_some]
  cases splitRecord with
  | false => rfl
  | true =>
    have hheader : recordLayerHeaderLen ≤ (b.take x).length := hst.le.trans hlen.ge
    rw [if_pos rfl, slice_eq hheader le_rfl, take_length]
    rfl

lemma part_eq (hne : indexes ≠ [])
    (hpairwise : (cutStart splitRecord :: indexes).Pairwise (· < ·))
    (hlt : ∀ x ∈ indexes, x < b.length) (hi : i ≤ indexes.length) :
    part splitRecord b indexes i = (cuts b (cutStart splitRecord) indexes)[i]? := by
  cases i with
  | zero =>
    obtain ⟨x, rest, rfl⟩ := exists_cons_of_ne_nil hne
    obtain ⟨hst, -⟩ := pairwise_cons.1 hpairwise
    rw [part_zero (hst x mem_cons_self) (hlt x mem_cons_self)]
    rfl
  | succ i =>
    have hlow := hlt indexes[i] (getElem_mem hi)
    rw [part, if_neg (Nat.succ_ne_zero i), getElem?_cuts_succ, Nat.add_sub_cancel,
      getElem?_eq_getElem hi, map_some]
    by_cases hlast : i + 1 = indexes.length
    · rw [if_pos hlast, bind_eq_bind, bind_some, slice_eq hlow.le le_rfl,
        take_length, getElem?_eq_none hlast.ge]
    · have hi' : i + 1 < indexes.length := by omega
      have hhigh := hlt indexes[i + 1] (getElem_mem hi')
      have hle : indexes[i] < indexes[i + 1] :=
        pairwise_iff_getElem.1 (pairwise_cons.1 hpairwise).2 i (i + 1) hi hi' (Nat.lt_succ_self i)
      rw [if_neg hlast, bind_eq_bind, bind_some, getElem?_eq_getElem hi',
        bind_some, slice_eq hle.le hhigh.le]

/-! ### What is sent -/

def record (b body : List UInt8) : List UInt8 := b.take 3 ++ bytesOfNat 2 body.length ++ body

def Conn.frame (c : Conn) (b payload : List UInt8) : List UInt8 :=
  if c.splitRecord then record b payload else payload

lemma writeRecord_eq (hb : 3 ≤ b.length)
    (hpay : payload.length < 2 ^ 16) : writeRecord b payload = some (record b payload) := by
  rw [writeRecord, slice_eq (Nat.zero_le 3) hb, Nat.mod_eq_of_lt hpay]
  rfl

variable {c : Conn} {b : List UInt8} {parts : List (List UInt8)}

lemma foldlM_sendPart_packets (hpkt : c.splitPacket) (hb : 3 ≤ b.length)
    (hparts : ∀ payload ∈ parts, c.splitRecord → payload.length < 2 ^ 16)
    (buffer : List UInt8) (sent : List (List UInt8)) :
    Returns (parts.foldlM (c.sendPart b) (buffer, sent)) fun state =>
    state.2 = sent ++ parts.map (c.frame b) := by
  induction parts generalizing buffer sent with
  | nil => exact .of_some (append_nil sent).symm
  | cons payload parts ih =>
    obtain ⟨hpay, hparts⟩ := forall_mem_cons.1 hparts
    have hstep : Returns (c.sendPart b (buffer, sent) payload) fun state =>
        state.2 = sent ++ [c.frame b payload] := by
      refine .ite (fun hrec => ?_) fun hrec => ?_
      · rw [writeRecord_eq hb (hpay hrec)]
        refine .of_some ?_
        rw [frame, if_pos hrec, if_pos hpkt, if_pos hpkt, nil_append]
      · refine .of_some ?_
        rw [frame, if_neg hrec, if_pos hpkt]
    rw [foldlM_cons]
    refine hstep.bind fun state hst => (ih hparts state.1 state.2).imp fun _ hrest => ?_
    rw [hrest, hst, append_assoc, map_cons, singleton_append]

lemma foldlM_sendPart_records (hpkt : ¬c.splitPacket) (hrec : c.splitRecord) (hb : 3 ≤ b.length)
    (hparts : ∀ payload ∈ parts, payload.length < 2 ^ 16)
    (buffer : List UInt8) (sent : List (List UInt8)) :
    parts.foldlM (c.sendPart b) (buffer, sent) =
    some (buffer ++ parts.flatMap (record b), sent) := by
  induction parts generalizing buffer with
  | nil => rw [flatMap_nil, append_nil]; rfl
  | cons payload parts ih =>
    obtain ⟨hpay, hparts⟩ := forall_mem_cons.1 hparts
    have hstep : c.sendPart b (buffer, sent) payload = some (buffer ++ record b payload, sent) := by
      rw [sendPart, if_pos hrec, writeRecord_eq hb hpay, if_neg hpkt, bind_eq_bind, bind_some]
      dsimp only
      rw [if_neg hpkt]
    rw [foldlM_cons, hstep, bind_eq_bind, bind_some, ih hparts, flatMap_cons, append_assoc]

lemma returns_sendParts (hsplit : c.splitPacket ∨ c.splitRecord) (hb : 3 ≤ b.length)
    (hparts : ∀ payload ∈ parts, c.splitRecord → payload.length < 2 ^ 16)
    (sent : List (List UInt8)) :
    Returns (parts.foldlM (c.sendPart b) ([], sent)) fun state =>
    ∃ chunks, chunks.flatten = parts.flatMap (c.frame b) ∧
    (if c.splitRecord ∧ !c.splitPacket then state.2 ++ [state.1] else state.2) =
    sent ++ chunks := by
  by_cases hpkt : c.splitPacket
  · refine (foldlM_sendPart_packets hpkt hb hparts [] sent).imp fun state hst => ?_
    refine ⟨parts.map (c.frame b), flatMap_def.symm, ?_⟩
    rw [if_neg (by simp [hpkt]), hst]
  · have hrec : c.splitRecord := hsplit.resolve_left hpkt
    have hframe : c.frame b = record b := funext fun payload => if_pos hrec
    have hparts' : ∀ payload ∈ parts, payload.length < 2 ^ 16 :=
      fun payload hpay => hparts payload hpay hrec
    rw [foldlM_sendPart_records hpkt hrec hb hparts' [] sent, hframe, nil_append]
    refine .of_some ⟨[parts.flatMap (record b)], flatten_singleton, ?_⟩
    rw [if_pos ⟨hrec, by simp [hpkt]⟩]

/-! ### The first write -/

structure ClientHello (payload : List UInt8) : Prop extends Complete payload where
  record : payload[0]? = some contentType
  handshake : payload[recordLayerHeaderLen]? = some handshakeType

def Fragments (c : Conn) (b : List UInt8) (sent : List (List UInt8)) : Prop :=
  if c.splitRecord then
    ∃ bodies : List (List UInt8), sent.flatten = bodies.flatMap (record b) ∧
      (∀ body ∈ bodies, body ≠ [] ∧ body.length < 2 ^ 16) ∧
      bodies.flatten = b.drop recordLayerHeaderLen
  else sent.flatten = b

/-- The first write sends fragments, later ones their payload. -/
def Fragmented (publicSuffix : GoString → GoString) (choices : ℕ → ℕ) (c : Conn)
    (b : List UInt8) : Prop :=
  ∃ c', c.write publicSuffix choices b = some (b.length, c') ∧
    (∃ sent, c'.sent = c.sent ++ sent ∧ Fragments c b sent) ∧
    ∀ b', c'.write publicSuffix choices b' = some (b'.length, { c' with sent := c'.sent ++ [b'] })

lemma ClientHello.length_gt (h : ClientHello b) : recordLayerHeaderLen < b.length := by
  by_contra hle
  have hnone := h.handshake
  rw [getElem?_eq_none (by omega)] at hnone
  cases hnone

lemma Complete.record_drop (h : Complete b) : record b (b.drop recordLayerHeaderLen) = b := by
  have hlen : bytesOfNat 2 (b.length - recordLayerHeaderLen) = (b.drop 3).take 2 :=
    bytesOfNat_uint16At h.segmentLen
  have htake : b.take 3 ++ (b.drop 3).take 2 = b.take recordLayerHeaderLen := take_add.symm
  rw [record, length_drop, hlen, htake, take_append_drop]

lemma Conn.write_later (hfst : c.firstPacketWritten) (b' : List UInt8) :
    c.write publicSuffix choices b' = some (b'.length, { c with sent := c.sent ++ [b'] }) := by
  rw [write, hfst]
  rfl

lemma Conn.write_found (hfst : ¬c.firstPacketWritten)
    (hname : indexTLSServerName b = some (some serverName)) :
    c.write publicSuffix choices b = (splitIndexes choices 0 serverName.index
        (usedLabels publicSuffix serverName.serverName)).bind fun indexes =>
      ((range (indexes.length + 1)).foldlM (c.writePart b indexes) ([], c.sent)).bind
        fun state => some (b.length, { c with
          firstPacketWritten := true
          sent := if c.splitRecord ∧ !c.splitPacket then state.2 ++ [state.1] else state.2 }) := by
  rw [write, if_pos (by simp [hfst]), hname]
  simp [trimLabels_eq, skipDots_eq]

lemma length_lt_of_mem_cuts (hb : Complete b)
    (hcuts : (recordLayerHeaderLen :: indexes).Pairwise (· < ·))
    (hpay : payload ∈ cuts b recordLayerHeaderLen indexes) : payload.length < 2 ^ 16 := by
  have hlen := hb.length_lt
  have hle := (sublist_flatten_of_mem hpay).length_le
  rw [flatten_cuts b hcuts, length_drop] at hle
  omega

lemma fragments_of_cuts (hb : Complete b)
    (hcuts : (cutStart c.splitRecord :: indexes).Pairwise (· < ·))
    (hlt : ∀ x ∈ cutStart c.splitRecord :: indexes, x < b.length) {chunks : List (List UInt8)}
    (hchunks : chunks.flatten = (cuts b (cutStart c.splitRecord) indexes).flatMap (c.frame b)) :
    Fragments c b chunks := by
  unfold Fragments
  split_ifs with hrec
  · have hframe : c.frame b = record b := funext fun payload => if_pos hrec
    have hst : cutStart c.splitRecord = recordLayerHeaderLen := if_pos hrec
    rw [hst] at hcuts hlt hchunks
    rw [hframe] at hchunks
    exact ⟨_, hchunks, fun body hbody =>
      ⟨ne_nil_of_mem_cuts hcuts hlt hbody, length_lt_of_mem_cuts hb hcuts hbody⟩,
      flatten_cuts b hcuts⟩
  · have hframe : c.frame b = id := funext fun payload => if_neg hrec
    have hst : cutStart c.splitRecord = 0 := if_neg hrec
    rw [hst] at hcuts hchunks
    rw [hchunks, hframe, flatMap_id, flatten_cuts b hcuts, drop_zero]

lemma returns_writeParts (hsplit : c.splitPacket ∨ c.splitRecord) (hb : Complete b)
    (hne : indexes ≠ []) (hpairwise : indexes.Pairwise (· < ·))
    (hbds : ∀ x ∈ indexes, recordLayerHeaderLen < x ∧ x < b.length) (sent : List (List UInt8)) :
    Returns ((range (indexes.length + 1)).foldlM (c.writePart b indexes) ([], sent))
    fun state => ∃ chunks, Fragments c b chunks ∧
    (if c.splitRecord ∧ !c.splitPacket then state.2 ++ [state.1] else state.2) =
    sent ++ chunks := by
  have hconst : recordLayerHeaderLen = 5 := rfl
  have hheader := hb.header
  have hst : cutStart c.splitRecord ≤ recordLayerHeaderLen := by
    unfold cutStart
    split_ifs <;> omega
  have hcuts : (cutStart c.splitRecord :: indexes).Pairwise (· < ·) :=
    pairwise_cons.2 ⟨fun x hx => hst.trans_lt (hbds x hx).1, hpairwise⟩
  have hlt : ∀ x ∈ indexes, x < b.length := fun x hx => (hbds x hx).2
  have hstart_lt : cutStart c.splitRecord < b.length := by
    obtain ⟨x, hx⟩ := exists_mem_of_ne_nil indexes hne
    have hbd := hbds x hx
    omega
  have hloop : (range (indexes.length + 1)).foldlM (c.writePart b indexes) ([], sent) =
      (cuts b (cutStart c.splitRecord) indexes).foldlM (c.sendPart b) ([], sent) := by
    rw [← length_cuts b (cutStart c.splitRecord) indexes]
    refine foldlM_range (fun state i payload hi => ?_) _
    have hi' : i < (cuts b (cutStart c.splitRecord) indexes).length :=
      (List.getElem?_eq_some_iff.1 hi).1
    rw [length_cuts] at hi'
    rw [writePart, part_eq hne hcuts hlt (Nat.le_of_lt_succ hi'), hi]
    rfl
  have hpart : ∀ payload ∈ cuts b (cutStart c.splitRecord) indexes, c.splitRecord →
      payload.length < 2 ^ 16 := by
    intro payload hpay hrec
    rw [cutStart, if_pos hrec] at hcuts hpay
    exact length_lt_of_mem_cuts hb hcuts hpay
  rw [hloop]
  refine (returns_sendParts hsplit (by omega) hpart sent).imp ?_
  rintro state ⟨chunks, hchunks, hsent⟩
  exact ⟨chunks, fragments_of_cuts hb hcuts (forall_mem_cons.2 ⟨hstart_lt, hlt⟩) hchunks, hsent⟩

lemma fragmented_of_none (hfst : ¬c.firstPacketWritten) (hb : ClientHello b)
    (hname : indexTLSServerName b = some none) : Fragmented publicSuffix choices c b := by
  have hwrite : c.write publicSuffix choices b =
      some (b.length, { c with firstPacketWritten := true, sent := c.sent ++ [b] }) := by
    rw [write, if_pos (by simp [hfst]), hname]
    rfl
  have hfrags : Fragments c b [b] := by
    unfold Fragments
    split_ifs
    · have hlen := hb.length_lt
      have hgt := hb.length_gt
      refine ⟨[b.drop recordLayerHeaderLen], ?_, ?_, flatten_singleton⟩
      · rw [flatMap_singleton, hb.record_drop, flatten_singleton]
      · refine forall_mem_singleton.2 ⟨ne_nil_of_length_pos ?_, ?_⟩
        all_goals
          rw [length_drop]
          omega
    · exact flatten_singleton
  exact ⟨_, hwrite, ⟨[b], rfl, hfrags⟩, write_later rfl⟩

lemma fragmented_of_found (hfst : ¬c.firstPacketWritten)
    (hsplit : c.splitPacket ∨ c.splitRecord) (hb : Complete b)
    (hname : indexTLSServerName b = some (some serverName))
    (hlabels : ∀ label ∈ usedLabels publicSuffix serverName.serverName, label ≠ []) :
    Fragmented publicSuffix choices c b := by
  have hin : Found (recordLayerHeaderLen + 1) b.length (some serverName) := by
    obtain ⟨found, hfound, hin⟩ := returns_indexTLSServerName hb
    exact Option.some.inj (hfound.symm.trans hname) ▸ hin
  obtain ⟨hlow, hhigh⟩ := hin serverName rfl
  have hreturns : Returns (splitIndexes choices 0 serverName.index
      (usedLabels publicSuffix serverName.serverName)) _ := returns_splitIndexes hlabels
  obtain ⟨indexes, hindexes, hlen, hpairwise, hbds⟩ := hreturns
  have hne : indexes ≠ [] := by
    rintro rfl
    exact usedLabels_ne_nil _ (length_eq_zero_iff.1 hlen.symm)
  have hbds' : ∀ x ∈ indexes, recordLayerHeaderLen < x ∧ x < b.length := by
    intro x hx
    have hbd := hbds x hx
    have hle : ((usedLabels publicSuffix serverName.serverName).flatMap (· ++ [dot])).length ≤
        serverName.serverName.length + 1 := length_usedLabels_le _
    omega
  obtain ⟨state, hst, chunks, hchunks, hsent⟩ :=
    returns_writeParts hsplit hb hne hpairwise hbds' c.sent
  have hwrite : c.write publicSuffix choices b =
      some (b.length, { c with firstPacketWritten := true, sent := c.sent ++ chunks }) := by
    rw [write_found hfst hname, hindexes, bind_some, hst, bind_some, hsent]
  exact ⟨_, hwrite, ⟨chunks, rfl, hchunks⟩, write_later rfl⟩

/-- It is sent in fragments exactly if no cut label is empty. -/
theorem write_clientHello_iff (hfirst : ¬c.firstPacketWritten)
    (hsplit : c.splitPacket ∨ c.splitRecord) (hb : ClientHello b) :
    Fragmented publicSuffix choices c b ↔
      ∀ serverName, indexTLSServerName b = some (some serverName) →
        ∀ label ∈ usedLabels publicSuffix serverName.serverName, label ≠ [] := by
  constructor
  · rintro ⟨c', hwrite, -, -⟩ serverName hname
    rw [write_found hfirst hname] at hwrite
    obtain ⟨indexes, hindexes, -⟩ := bind_eq_some_iff.1 hwrite
    exact ne_nil_of_splitIndexes hindexes
  · intro hlabels
    obtain ⟨found, hfound, -⟩ := returns_indexTLSServerName hb.toComplete
    cases found with
    | none => exact fragmented_of_none hfirst hb hfound
    | some serverName =>
      exact fragmented_of_found hfirst hsplit hb.toComplete hfound (hlabels serverName hfound)

def hello : List UInt8 :=
  let n := UInt8.ofNat name.length
  [22, 3, 1, 0, 56 + n, 1, 0, 0, 52 + n, 3, 3] ++ replicate 32 0 ++
    [0, 0, 2, 19, 1, 1, 0, 0, 9 + n, 0, 0, 0, 5 + n, 0, 3 + n, 0, 0, n] ++ name

theorem write_clientHello_iff_letters : ClientHello (hello [97, dot, 98]) ∧
      Fragmented (fun _ => []) id { splitPacket := true, splitRecord := true }
        (hello [97, dot, 98]) := by
  have hhello : ClientHello (hello [97, dot, 98]) :=
    { header := by decide, segmentLen := rfl, record := rfl, handshake := rfl }
  have hname : indexTLSServerName (hello [97, dot, 98]) = some (some {
      index := 61
      length := 3
      serverName := [97, dot, 98]
      extensionsListLengthIndex := 50 }) := by
    decide +kernel
  refine ⟨hhello, (write_clientHello_iff (by decide) (.inl rfl) hhello).2 ?_⟩
  intro serverName h
  obtain rfl := Option.some.inj (Option.some.inj (hname.symm.trans h))
  decide

/-- The first write panics if the server name is empty. -/
theorem write_clientHello_empty :
    ClientHello (hello []) ∧ ∀ (publicSuffix : GoString → GoString) (choices : ℕ → ℕ)
      (splitPacket splitRecord : Bool),
      write publicSuffix choices { splitPacket, splitRecord } (hello []) = none := by
  refine ⟨{ header := by decide, segmentLen := rfl, record := rfl, handshake := rfl }, ?_⟩
  intro publicSuffix choices splitPacket splitRecord
  have hlabels : usedLabels publicSuffix [] = [[]] := by
    unfold usedLabels
    split_ifs <;> rfl
  have hname : indexTLSServerName (hello []) = some (some {
      index := 61, length := 0, serverName := [], extensionsListLengthIndex := 50 }) := by
    decide +kernel
  rw [write_found (by simp) hname, hlabels]
  rfl

end SingBox.TLSFragment
