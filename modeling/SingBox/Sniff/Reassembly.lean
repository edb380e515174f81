import SingBox.JA3.Message
import SingBox.Sniff.Frames

/-!
# The reassembly of a ClientHello

A client may spread its ClientHello over CRYPTO frames and Initial packets in any order. The first
part says which bytes are assembled from given fragments, the second what the sniffer answers to the
packets of a flight one after the other.
-/

namespace SingBox.QUIC
open Codec Slice Tiling List QCryptoFragment InitialFrame Buffer JA3

lemma Buffer.write_write (b : Buffer) (data data' : List UInt8) :
    (b.write data).write data' = b.write (data ++ data') := by
  have hroom : b.capacity - (b.bytes.length + min (b.capacity - b.bytes.length) data.length) =
      b.capacity - b.bytes.length - data.length := by omega
  simp [write, take_append, hroom]

/-! ### Assembling fragments -/

section Record
variable {fragments : List QCryptoFragment}
section
variable (hexact : Exact fragments)
include hexact

lemma find_eq_follow (fuel index : ℕ) (buffer : Buffer) : find fragments fuel index buffer =
    (follow (fragments.map piece) fuel index).map buffer.write := by
  induction fuel generalizing index buffer with
  | zero => rfl
  | succ fuel ih =>
    rw [find, follow, find?_map]
    have hsame : (fun p : Piece UInt8 => decide (p.offset = index)) ∘ piece =
        fun fragment => decide (fragment.offset = index) := rfl
    rw [hsame]
    cases hfind : fragments.find? fun fragment => decide (fragment.offset = index) with
    | none =>
      have hnil : buffer.write [] = buffer := by
        simp [write]
      simp [hnil]
    | some fragment =>
      have hlen := hexact fragment (mem_of_find?_eq_some hfind)
      have hstop : fragment.offset + fragment.length = fragment.piece.stop := by
        rw [hlen, Piece.stop, ← fragment.payload.length_toList]
        rfl
      simp only [Option.map_some, hstop, ih, Option.map_map]
      congr 1
      funext data
      exact buffer.write_write _ data

lemma foldl_length (n : ℕ) :
    fragments.foldl (fun frameLen fragment => frameLen + fragment.length) n =
    n + total (fragments.map piece) := by
  induction fragments generalizing n with
  | nil => rfl
  | cons fragment fragments ih =>
    obtain ⟨hlen, hexact⟩ := forall_mem_cons.1 hexact
    rw [foldl_cons, ih hexact, map_cons, total_cons, hlen,
      ← fragment.payload.length_toList, add_assoc]
    rfl

lemma assemble_eq (fuel : ℕ) : assemble fuel fragments =
    (follow (fragments.map piece) fuel 0).map fun data =>
    record (total (fragments.map piece)) (data.take (total (fragments.map piece))) := by
  rw [assemble, foldl_length hexact, zero_add]
  generalize total (fragments.map piece) = n
  have hheader : ((write { capacity := 5 + n } [0x16]).write (bytesOfNat 2 0x0303)).write
      (bytesOfNat 2 (n % 2 ^ 16)) = write { capacity := 5 + n } (record n []) := by
    rw [write_write, write_write]
    simp [record, TLSFragment.contentType]
  have hrec (data : List UInt8) : (write { capacity := 5 + n } (record n [] ++ data)).bytes =
        record n (data.take n) := by
    have hlen : (record n []).length = 5 := by simp [record]
    rw [write]
    simp only [nil_append, length_nil, Nat.sub_zero]
    rw [take_append, hlen, Nat.add_sub_cancel_left, take_of_length_le (by omega)]
    simp [record]
  rw [hheader, find_eq_follow hexact, Option.map_map]
  congr 1
  funext data
  rw [Function.comp_apply, write_write, hrec]

variable {m : JA3.Message} {fuel : ℕ}

lemma assemble_rejected {missing : List (Piece UInt8)}
    (h : IsPartition m.encode (fragments.map piece ++ missing))
    (hmissing : missing ≠ [] ∨ 2 ^ 16 ≤ m.encode.length) (hfuel : fragments.length < fuel) :
    ∃ buffer, assemble fuel fragments = some buffer ∧ Returns (compute buffer) JA3.Rejected := by
  obtain ⟨n, hfollow, -, hle, -⟩ := follow_zero h.toParts.left (by rwa [length_map])
  rw [assemble_eq hexact, hfollow]
  refine ⟨_, rfl, ?_⟩
  dsimp only
  rw [take_take]
  refine rejected_compute m ?_
  obtain hne | hlong := hmissing
  · exact (Nat.mod_le _ _).trans_lt (h.total_lt hne)
  · exact (Nat.mod_lt _ (Nat.two_pow_pos 16)).trans_le hlong

lemma assemble_complete (h : IsPartition m.encode (fragments.map piece))
    (hfuel : fragments.length < fuel) :
    assemble fuel fragments = some (record m.encode.length m.encode) := by
  obtain ⟨n, hfollow, -, -, hall⟩ := follow_zero h.toParts (by rwa [length_map])
  rw [assemble_eq hexact, hfollow, hall h, h.total_eq, take_length, Option.map_some, take_length]

end

lemma record_injective {n : ℕ} {data data' : List UInt8} (h : record n data = record n data') :
    data = data' := by
  simpa [record] using h

/-- The loop ends with the data of a longest chain exactly if the fragments that come first with
their offset make a chain without empty ones, and no hidden fragment leads farther. -/
theorem assemble_longest (hexact : Exact fragments) :
    (∃ fuel chain, Tiling.Chain (fragments.map piece) 0 chain ∧
      assemble fuel fragments = some (record (total (fragments.map piece))
        (chain.flatMap Piece.data)) ∧
      ∀ chain', Tiling.Chain (fragments.map piece) 0 chain' →
        (chain'.flatMap Piece.data).length ≤ (chain.flatMap Piece.data).length) ↔
    ∃ chain, Leading (fragments.map piece) chain := by
  constructor
  · rintro ⟨fuel, longest, -, hsome, hlongest⟩
    rw [assemble_eq hexact, Option.map_eq_some_iff] at hsome
    obtain ⟨data, hfollow, hrecord⟩ := hsome
    obtain ⟨chain, rfl, hchain, hfirst, hgap⟩ := chain_of_follow hfollow
    rw [take_of_length_le hchain.length_le_total] at hrecord
    refine ⟨chain, hchain, hfirst, hgap, fun before p after h _ _ => ?_⟩
    rw [record_injective hrecord]
    exact hlongest _ h
  · rintro ⟨chain, h⟩
    refine ⟨chain.length + 1, chain, h.isChain, ?_, fun chain' => h.length_le⟩
    rw [assemble_eq hexact, h.isChain.follow (fun p hp => (h.first p hp).1) h.gap,
      Option.map_some, take_of_length_le h.isChain.length_le_total]

/-- A shorter fragment is hidden, and so is an empty one that begins where it ends. -/
theorem assemble_longest_hidden : ∃ fuel, ∃ chain : List (Piece UInt8),
      assemble fuel [⟨2, 1, .ofList [3]⟩, ⟨0, 2, .ofList [1, 2]⟩, ⟨0, 1, .ofList [1]⟩,
          ⟨1, 0, .ofList []⟩] =
        some (record 4 (chain.flatMap Piece.data)) ∧ 3 ≤ (chain.flatMap Piece.data).length := by
  have hchain : Tiling.Chain ([⟨2, 1, .ofList [3]⟩, ⟨0, 2, .ofList [1, 2]⟩, ⟨0, 1, .ofList [1]⟩,
      ⟨1, 0, .ofList []⟩].map piece) 0 [⟨0, [1, 2]⟩, ⟨2, [3]⟩] := by
    simp [Tiling.Chain, Piece.stop, piece, View.ofList, View.toList]
  obtain ⟨fuel, chain, -, hsome, hlongest⟩ := (@assemble_longest
    [⟨2, 1, .ofList [3]⟩, ⟨0, 2, .ofList [1, 2]⟩, ⟨0, 1, .ofList [1]⟩, ⟨1, 0, .ofList []⟩]
    (by simp [Exact, View.ofList, View.length])).2 ⟨[⟨0, [1, 2]⟩, ⟨2, [3]⟩], hchain,
      by simp [First, piece, View.ofList, View.toList],
      by simp [piece, View.ofList, View.toList],
      fun before p after h _ _ => by
        -- All fragments are parts of the bytes 1, 2, 3, so that no chain is longer.
        have hle := (h.take_append (show ∀ p ∈ _, Piece.Of [1, 2, 3] p by
          simp [Piece.Of, Piece.stop, piece, View.ofList, View.toList]) (Nat.zero_le _)).2
        rwa [zero_add] at hle⟩
  exact ⟨fuel, chain, hsome, hlongest _ hchain⟩

/-- An empty fragment; a fragment that hides a longer one. -/
theorem not_assemble_longest : (∀ fuel, assemble fuel [⟨0, 0, .ofList []⟩] = none) ∧
      assemble 3 [⟨0, 1, .ofList [1]⟩, ⟨0, 2, .ofList [1, 2]⟩] = some (record 3 [1]) ∧
      Tiling.Chain ([⟨0, 1, .ofList [1]⟩, ⟨0, 2, .ofList [1, 2]⟩].map piece) 0 [⟨0, [1, 2]⟩] := by
  refine ⟨fun fuel => ?_, rfl, ?_⟩
  · have hfind (index : ℕ) (buffer : Buffer) (h : index = 0) :
        find [⟨0, 0, .ofList []⟩] fuel index buffer = none := by
      induction fuel generalizing index buffer with
      | zero => rfl
      | succ fuel ih =>
        subst h
        exact ih _ _ rfl
    rw [assemble, hfind _ _ rfl, Option.map_none]
  · simp [Tiling.Chain, piece, View.ofList, View.toList]

end Record

/-! ### Packets of a flight -/

def Carries (ciphers : Ciphers) (packet : List UInt8) (initialFrames : List InitialFrame) : Prop :=
  ∃ decrypted, (decrypt ciphers packet).run = some (.ok decrypted) ∧
    decrypted.toList = initialFrames.flatMap encode

def pieces (initialFrames : List InitialFrame) : List (Piece UInt8) :=
  initialFrames.flatMap InitialFrame.pieces

variable {ciphers : Ciphers} {packet b : List UInt8} {initialFrames : List InitialFrame}
  {m : JA3.Message} {fuel : ℕ} {metadata : Metadata}

lemma Carries.quicClientHello (h : Carries ciphers packet initialFrames) (fuel : ℕ)
    (metadata : Metadata) :
    ∃ frames : Frames, frames.fragments.map piece = pieces initialFrames ∧
    Exact frames.fragments ∧ frames.frameTypeList.length = initialFrames.length ∧
    quicClientHello ciphers fuel metadata packet = finish fuel metadata frames := by
  obtain ⟨decrypted, hdecr, hpay⟩ := h
  obtain ⟨fragments, hfrags, hexact, hframes⟩ := readPayload_flatMap hpay
  refine ⟨{ frameTypeList := initialFrames.map InitialFrame.frameType, fragments },
    hfrags, hexact, length_map _, ?_⟩
  rw [QUIC.quicClientHello, hdecr]
  dsimp only
  rw [hframes]

/-- They are the whole message, and the rounds are enough. -/
structure Waiting (m : JA3.Message) (fuel : ℕ) (metadata : Metadata)
    (missing : List (Piece UInt8)) : Prop where
  exact : Exact (metadata.sniffContext.getD [])
  partition : IsPartition m.encode ((metadata.sniffContext.getD []).map piece ++ missing)
  lt_fuel : (metadata.sniffContext.getD []).length + missing.length < fuel

section Step
variable {ciphers : Ciphers} {m : JA3.Message} {fuel : ℕ} {metadata : Metadata}
  {packet : List UInt8} {initialFrames : List InitialFrame} {missing : List (Piece UInt8)}

lemma Waiting.arrive (h : Waiting m fuel metadata (pieces initialFrames ++ missing))
    {frames : Frames} (hpieces : frames.fragments.map piece = pieces initialFrames)
    (hexact : Exact frames.fragments) :
    Exact (frames.fragments ++ metadata.sniffContext.getD []) ∧
    IsPartition m.encode ((frames.fragments ++ metadata.sniffContext.getD []).map
        piece ++ missing) ∧
    (frames.fragments ++ metadata.sniffContext.getD []).length + missing.length < fuel := by
  refine ⟨hexact.append h.exact, h.partition.perm ?_, ?_⟩
  · rw [map_append, hpieces, ← append_assoc]
    exact perm_append_comm.append_right missing
  · have hlen := h.lt_fuel
    rw [length_append, ← hpieces, length_map] at hlen
    rw [length_append]
    omega

lemma Waiting.needMoreData (h : Waiting m fuel metadata (pieces initialFrames ++ missing))
    (hcarries : Carries ciphers packet initialFrames)
    (hmissing : missing ≠ [] ∨ 2 ^ 16 ≤ m.encode.length) :
    ∃ metadata', quicClientHello ciphers fuel metadata packet =
    .ok (.error .needMoreData, metadata') ∧ Waiting m fuel metadata' missing := by
  obtain ⟨frames, hpieces, hexact, -, hrun⟩ := hcarries.quicClientHello fuel metadata
  obtain ⟨hexact, hpart, hfuel⟩ := h.arrive hpieces hexact
  have hrounds : (frames.fragments ++ metadata.sniffContext.getD []).length < fuel := by omega
  obtain ⟨buffer, hasm, r, hcomp, error, rfl⟩ := assemble_rejected hexact hpart hmissing hrounds
  refine ⟨{ metadata with
    protocol := protocolQUIC
    sniffContext := some (frames.fragments ++ metadata.sniffContext.getD []) },
    ?_, hexact, hpart, hfuel⟩
  rw [hrun, finish, hasm]
  dsimp only
  rw [hcomp]

lemma Waiting.complete (h : Waiting m fuel metadata (pieces initialFrames))
    (hcarries : Carries ciphers packet initialFrames) (hne : pieces initialFrames ≠ [])
    (hlen : m.encode.length < 2 ^ 16) :
    ∃ metadata', quicClientHello ciphers fuel metadata packet = .ok (.ok (), metadata') ∧
    metadata'.protocol = protocolQUIC ∧ metadata'.domain = m.serverName := by
  obtain ⟨frames, hpieces, hexact, htypes, hrun⟩ := hcarries.quicClientHello fuel metadata
  rw [← append_nil (pieces initialFrames)] at h
  obtain ⟨hexact, hpart, hfuel⟩ := h.arrive hpieces hexact
  rw [append_nil] at hpart
  have hfuel : (frames.fragments ++ metadata.sniffContext.getD []).length < fuel := by omega
  have hasm := assemble_complete hexact hpart hfuel
  obtain ⟨r, hcomp, fingerprint, rfl, hname⟩ := names_compute m hlen
  have hpos : 0 < frames.frameTypeList.length := by
    rw [htypes]
    refine length_pos_iff.2 fun hnil => hne ?_
    rw [hnil]
    rfl
  obtain ⟨client, hclient, -⟩ := returns_detectClient hpos fingerprint
  rw [hrun, finish, hasm]
  dsimp only
  rw [hcomp]
  dsimp only
  split_ifs
  · rw [hclient]
    exact ⟨_, rfl, rfl, hname⟩
  · exact ⟨_, rfl, rfl, hname⟩

end Step

def arriving (packets : List (List UInt8 × List InitialFrame)) : List (Piece UInt8) :=
  packets.flatMap fun p => pieces p.2

structure Flight (ciphers : Ciphers) (m : JA3.Message) where
  packets : List (List UInt8 × List InitialFrame)
  carries : ∀ p ∈ packets, Carries ciphers p.1 p.2
  partition : IsPartition m.encode (arriving packets)

def sniffPackets (ciphers : Ciphers) (fuel : ℕ) :
    Metadata → List (List UInt8) → Except Stop (List (Except SniffError Unit) × Metadata)
  | metadata, [] => .ok ([], metadata)
  | metadata, packet :: packets =>
    match quicClientHello ciphers fuel metadata packet with
    | .error stop => .error stop
    | .ok (.error .needMoreData, metadata) =>
      (sniffPackets ciphers fuel metadata packets).map fun (answers, metadata) =>
        (.error .needMoreData :: answers, metadata)
    | .ok (answer, metadata) => .ok ([answer], metadata)

lemma Waiting.sniffPackets
    {packets : List (List UInt8 × List InitialFrame)} {missing : List (Piece UInt8)}
    (h : Waiting m fuel metadata (arriving packets ++ missing))
    (hcarries : ∀ p ∈ packets, Carries ciphers p.1 p.2)
    (hmissing : missing ≠ [] ∨ 2 ^ 16 ≤ m.encode.length) :
    ∃ metadata', sniffPackets ciphers fuel metadata (packets.map Prod.fst) =
    .ok (replicate packets.length (.error .needMoreData), metadata') ∧
    Waiting m fuel metadata' missing := by
  induction packets generalizing metadata with
  | nil => exact ⟨metadata, rfl, h⟩
  | cons p packets ih =>
    obtain ⟨hp, hpkts⟩ := forall_mem_cons.1 hcarries
    rw [arriving, flatMap_cons, append_assoc] at h
    obtain ⟨metadata', hans, h'⟩ :=
      h.needMoreData hp (hmissing.imp_left (append_ne_nil_of_right_ne_nil _))
    obtain ⟨metadata'', hanswers, h''⟩ := ih h' hpkts
    refine ⟨metadata'', ?_, h''⟩
    rw [map_cons, QUIC.sniffPackets, hans]
    dsimp only
    rw [hanswers]
    rfl

lemma Flight.waiting (flight : Flight ciphers m) (hfuel : (arriving flight.packets).length < fuel)
    (hst : metadata.sniffContext = none) :
    Waiting m fuel metadata (arriving flight.packets) := by
  have hnone : metadata.sniffContext.getD [] = [] := by
    rw [hst]
    rfl
  constructor
  · rw [hnone]
    exact .nil
  · rw [hnone]
    exact flight.partition
  · rw [hnone, length_nil, zero_add]
    exact hfuel

/-! ### Packets without protection -/

def longHeader : List UInt8 := [0xc0, 0, 0, 0, 1, 1, 7, 0, 0]

lemma decodes_discard (bytes : List UInt8) : Decodes (discard bytes.length) bytes () := by
  intro rest
  rw [discard, if_pos (by rw [length_append]; omega), drop_left]

lemma decodes_readLongHeader (v : Varint) : Decodes readLongHeader (longHeader ++ v.encode)
    { versionNumber := version1, destConnID := [7], packetLen := v.value } := by
  have hencode : Varint.encode ⟨0, 0, Nat.two_pow_pos _⟩ = [0] := by decide
  have htoken := decodes_readUvarint ⟨0, 0, Nat.two_pow_pos _⟩
  rw [hencode] at htoken
  unfold readLongHeader
  refine (decodes_readByte 0xc0).bind (.check (by decide) ?_)
  refine (decodes_readFull [0, 0, 0, 1]).bind (.check (by decide) (.check (by decide) ?_))
  refine (decodes_readByte 1).bind (.check (by decide) ?_)
  refine (decodes_readFull [7]).bind ((decodes_readByte 0).bind ((decodes_discard []).bind ?_))
  exact htoken.bind ((decodes_discard []).bind ((decodes_readUvarint v).bind_pure _))

def plainPacket (length : Varint) (payload : List UInt8) : List UInt8 :=
  (longHeader ++ length.encode) ++ (0 :: (payload ++ replicate overhead 0))

lemma returns_xorAt_zero {i : ℕ} (h : i < b.length) : Returns (xorAt b i 0) (b = ·) := by
  refine (returns_byteAt h).bind fun y hy => .of_some ?_
  obtain ⟨hi, rfl⟩ := List.getElem?_eq_some_iff.1 hy
  rw [UInt8.xor_zero, set_getElem_self]

lemma returns_unprotect_zero {hdrLen : ℕ} (hlen : hdrLen + 4 ≤ packet.length) :
    Returns (unprotect packet (replicate blockSize 0) hdrLen) (packet = ·) := by
  have hmask {i : ℕ} (hi : i < blockSize) : Returns (byteAt (replicate blockSize 0) i) (· = 0) :=
    ⟨0, by rw [byteAt, getElem?_replicate_of_lt hi], rfl⟩
  have hblock : blockSize = 16 := rfl
  refine (hmask (by omega)).bind fun first hfst => ?_
  subst hfst
  refine (returns_xorAt_zero (by omega)).bind fun newPacket hnew => ?_
  subst hnew
  refine (returns_slice (by omega) hlen).bind fun window hwin => ?_
  refine .foldlM rfl fun newPacket hnew i hi => ?_
  subst hnew
  have hi' : i < window.length := mem_range.1 hi
  refine (hmask (by omega)).bind fun x hx => ?_
  subst hx
  exact returns_xorAt_zero (by omega)

lemma copyAt_drop {low high : ℕ} (h : low ≤ high) (h' : high ≤ b.length) :
    copyAt b low high (b.drop low) = some b := by
  have hmin : min ((b.take high).drop low).length (b.drop low).length = high - low := by
    rw [length_drop, length_drop, length_take]
    omega
  rw [copyAt, slice_eq h h']
  show some _ = _
  rw [hmin, ← take_add, take_append_drop]

section PlainPacket
variable {length : Varint} {payload : List UInt8}

lemma length_plainPacket (length : Varint) (payload : List UInt8) :
    (plainPacket length payload).length =
    (longHeader ++ length.encode).length + (1 + payload.length + overhead) := by
  simp only [plainPacket, length_append, length_cons, length_replicate]
  omega

lemma readHeader_plainPacket (hlen : length.value = 1 + payload.length + overhead)
    (hlong : 3 ≤ payload.length) :
    ∃ pnBytes rest, readHeader (plainPacket length payload) (plainPacket length payload) = .ok ({
      versionNumber := version1
      destConnID := [7]
      packetLen := length.value
      hdrLen := (longHeader ++ length.encode).length
      pnBytes }, rest) := by
  have hpkt := length_plainPacket length payload
  have hover : overhead = 16 := rfl
  have hblock : blockSize = 16 := rfl
  have hlonghdr : readLongHeader (plainPacket length payload) =
      .ok (_, 0 :: (payload ++ replicate overhead 0)) := decodes_readLongHeader length _
  have hrest : (0 :: (payload ++ replicate overhead 0)).length = 1 + payload.length + overhead := by
    rw [length_cons, length_append, length_replicate]
    omega
  generalize 0 :: (payload ++ replicate overhead 0) = tail at hlonghdr hrest
  have hdisc : discard 4 tail = .ok ((), tail.drop 4) := if_pos (by omega)
  have hfull : readFull blockSize (tail.drop 4) =
      .ok ((tail.drop 4).take blockSize, (tail.drop 4).drop blockSize) :=
    if_pos (by rw [length_drop]; omega)
  have hhdr : (plainPacket length payload).length - tail.length =
      (longHeader ++ length.encode).length := by omega
  refine ⟨(tail.drop 4).take blockSize, (tail.drop 4).drop blockSize, ?_⟩
  show (readLongHeader (plainPacket length payload)).bind _ = _
  rw [hlonghdr]
  show (if (plainPacket length payload).length - tail.length + length.value >
    (plainPacket length payload).length then fail _ else _ : Reader Header) tail = _
  rw [hhdr, if_neg (by omega)]
  show (discard 4 tail).bind _ = _
  rw [hdisc]
  show (readFull blockSize (tail.drop 4)).bind _ = _
  rw [hfull]
  rfl

lemma ends_decrypt_plainPacket (hlen : length.value = 1 + payload.length + overhead)
    (hlong : 3 ≤ payload.length) :
    Ends (decrypt plainCiphers (plainPacket length payload)) fun r =>
    ∃ decrypted, r = .ok decrypted ∧ decrypted.toList = payload := by
  obtain ⟨pnBytes, rest, hheader⟩ := readHeader_plainPacket hlen hlong
  have hpkt := length_plainPacket length payload
  generalize hn : (longHeader ++ length.encode).length = n at *
  have hdata : slice (plainPacket length payload) (n + 1) (length.value + n) =
      some (payload ++ replicate overhead 0) := by
    have hend : length.value + n = (plainPacket length payload).length := by omega
    have hsplit : plainPacket length payload =
        (longHeader ++ length.encode ++ [0]) ++ (payload ++ replicate overhead 0) := by
      simp [plainPacket]
    rw [hend, hsplit]
    refine slice_append ?_
    rw [length_append, hn]
    rfl
  have hopen (nonce additionalData : List UInt8) :
      plainCiphers.openData version1 [7] nonce (payload ++ replicate overhead 0)
        additionalData = some payload := by
    simp [plainCiphers]
  unfold decrypt
  refine .bind (P := fun p => p.1 = {
    versionNumber := version1, destConnID := [7], packetLen := length.value, hdrLen := n,
    pnBytes }) ?_ ?_
  · rw [runReader, hheader]
    exact .pure ⟨_, rfl, rfl⟩
  rintro ⟨header, _⟩ rfl
  dsimp only
  refine .lift_bind (returns_unprotect_zero (by omega)) ?_
  rintro _ rfl
  refine .read (b := 0xc0) rfl ?_
  have hnum : ((0xc0 : UInt8) &&& 0x3).toNat + 1 = 1 := by decide
  rw [hnum, if_neg (by omega)]
  refine .bind (P := fun _ => True) ?_ fun packetNumber _ => ?_
  · exact .lift_bind (returns_byteAt (by omega)) fun _ _ => .pure ⟨_, rfl, trivial⟩
  have hsrc : slice (plainPacket length payload) (n + 1) (plainPacket length payload).length =
      some ((plainPacket length payload).drop (n + 1)) := by
    rw [slice_eq (by omega) le_rfl, take_length]
  refine .read hsrc (.read (copyAt_drop (by omega) (by omega)) (.read hdata ?_))
  refine .lift_bind (returns_putNonce packetNumber) fun nonce _ => ?_
  have hview : (View.ofList (plainPacket length payload)).length =
      (plainPacket length payload).length := rfl
  have hroom : n + 1 ≤ (View.ofList (plainPacket length payload)).length := by omega
  obtain ⟨out, hout, -⟩ := View.returns_slice le_rfl hroom
  refine .read hout ?_
  refine .lift_bind (returns_slice (Nat.zero_le _) (by omega)) fun additionalData _ => ?_
  rw [hopen]
  refine .pure ⟨_, rfl, ?_⟩
  rw [View.toList_append, View.toList_slice hout hroom, drop_take, Nat.sub_self,
    take_zero, nil_append]

end PlainPacket

lemma carries_plainPacket {length : Varint}
    (hlen : length.value = 1 + (initialFrames.flatMap encode).length + overhead)
    (hlong : 3 ≤ (initialFrames.flatMap encode).length) :
    Carries plainCiphers (plainPacket length (initialFrames.flatMap encode)) initialFrames := by
  obtain ⟨_, hrun, decrypted, rfl, hpay⟩ := ends_decrypt_plainPacket hlen hlong
  exact ⟨decrypted, hrun, hpay⟩

def cryptoFrame (offset : ℕ) (data : List UInt8) (hoffset : offset < 2 ^ 30)
    (hdata : data.length < 2 ^ 30) : InitialFrame :=
  .crypto ⟨2, offset, hoffset⟩ ⟨2, data.length, hdata⟩ data rfl

lemma length_encode_cryptoFrame (offset : ℕ) (data : List UInt8) (hoff : offset < 2 ^ 30)
    (hdata : data.length < 2 ^ 30) :
    ([cryptoFrame offset data hoff hdata].flatMap encode).length = 9 + data.length := by
  have hwidth : 2 ^ (2 : Fin 4).val = 4 := rfl
  rw [flatMap_singleton]
  simp only [cryptoFrame, InitialFrame.encode, InitialFrame.fields, InitialFrame.data,
    Varint.encode, length_cons, length_append, length_bytesOfNat, hwidth]
  omega

def cryptoPacket (offset : ℕ) (data : List UInt8) (hoffset : offset < 2 ^ 30)
    (hdata : data.length + 26 < 2 ^ 30) : List UInt8 × List InitialFrame :=
  let initialFrames := [cryptoFrame offset data hoffset (by omega)]
  (plainPacket ⟨2, 26 + data.length, by rwa [Nat.add_comm] at hdata⟩
    (initialFrames.flatMap encode), initialFrames)

lemma carries_cryptoPacket (offset : ℕ) (data : List UInt8) (hoff : offset < 2 ^ 30)
    (hdata : data.length + 26 < 2 ^ 30) :
    Carries plainCiphers (cryptoPacket offset data hoff hdata).1
    (cryptoPacket offset data hoff hdata).2 := by
  have hlen := length_encode_cryptoFrame offset data hoff (by omega)
  have hover : overhead = 16 := rfl
  refine carries_plainPacket ?_ ?_
  · rw [hlen]
    dsimp only
    omega
  · rw [hlen]
    omega

lemma length_encode_lt (m : JA3.Message) : m.encode.length + 26 < 2 ^ 30 := by
  have hbody := m.length_body_lt
  rw [m.length_encode]
  omega

def turnedFlight (m : JA3.Message) (n : ℕ) (hpos : 0 < n) (hlt : n < m.encode.length) :
    Flight plainCiphers m where
  packets := have hlength := length_encode_lt m
    [cryptoPacket n (m.encode.drop n) (by omega) (by rw [length_drop]; omega),
      cryptoPacket 0 (m.encode.take n) (by omega) (by rw [length_take]; omega)]
  carries p hp := by
    obtain rfl | hp := mem_cons.1 hp
    · exact carries_cryptoPacket ..
    · obtain rfl := mem_singleton.1 hp
      exact carries_cryptoPacket ..
  partition := isPartition_cut hpos hlt

/-- While fragments are missing, the sniffer asks for more data. With the last one it reports the
name. -/
theorem sniffPackets_flight {ciphers : Ciphers} {m : JA3.Message} (flight : Flight ciphers m)
    (hlength : m.encode.length < 2 ^ 16) {fuel : ℕ}
    (hfuel : (arriving flight.packets).length < fuel) {metadata : Metadata}
    (hstart : metadata.sniffContext = none) {before after : List (List UInt8 × List InitialFrame)}
    {packet : List UInt8} {initialFrames : List InitialFrame}
    (hpackets : flight.packets = before ++ (packet, initialFrames) :: after)
    (hmissing : arriving ((packet, initialFrames) :: after) ≠ []) :
    ∃ metadata' answer metadata'', sniffPackets ciphers fuel metadata (before.map Prod.fst) =
        .ok (replicate before.length (.error .needMoreData), metadata') ∧
      quicClientHello ciphers fuel metadata' packet = .ok (answer, metadata'') ∧
      (arriving after ≠ [] → answer = .error .needMoreData) ∧
      (arriving after = [] → answer = .ok () ∧ metadata''.protocol = protocolQUIC ∧
        metadata''.domain = m.serverName) := by
  have hcarries := flight.carries
  rw [hpackets] at hcarries
  have hall : arriving flight.packets =
      arriving before ++ arriving ((packet, initialFrames) :: after) := by
    rw [hpackets, arriving, flatMap_append]
    rfl
  have hwaiting := flight.waiting hfuel hstart
  rw [hall] at hwaiting
  obtain ⟨metadata', hbef, hwaiting'⟩ := hwaiting.sniffPackets
    (fun p hp => hcarries p (mem_append_left _ hp)) (.inl hmissing)
  have hpkt : Carries ciphers packet initialFrames := hcarries _ (mem_append_right _ mem_cons_self)
  have hsplit : arriving ((packet, initialFrames) :: after) =
      pieces initialFrames ++ arriving after := flatMap_cons
  rw [hsplit] at hwaiting' hmissing
  by_cases hafter : arriving after = []
  · rw [hafter, append_nil] at hwaiting' hmissing
    obtain ⟨metadata'', hans, hprotocol, hdom⟩ := hwaiting'.complete hpkt hmissing hlength
    exact ⟨metadata', _, metadata'', hbef, hans, fun hne => absurd hafter hne,
      fun _ => ⟨rfl, hprotocol, hdom⟩⟩
  · obtain ⟨metadata'', hans, -⟩ := hwaiting'.needMoreData hpkt (.inl hafter)
    exact ⟨metadata', _, metadata'', hbef, hans, fun _ => rfl, fun h => absurd h hafter⟩

def namedMessage : JA3.Message where
  minor := 3
  random := replicate 32 0
  sessionID := []
  cipherSuites := [0x1301]
  compressionMethods := [0]
  extensions := [.serverName [0x61] (by decide)]
  minor_le := by decide
  length_random := by decide
  length_sessionID := by decide
  length_cipherSuites := by decide
  length_compressionMethods := by decide
  length_extensions := by decide

theorem sniffPackets_namedMessage :
    ∃ metadata' answer metadata'' packet, sniffPackets plainCiphers 3 {} [packet] =
        .ok ([.error .needMoreData], metadata') ∧
      quicClientHello plainCiphers 3 metadata'
        (cryptoPacket 0 (namedMessage.encode.take 30) (by decide) (by decide)).1 =
          .ok (answer, metadata'') ∧
      answer = .ok () ∧ metadata''.domain = [0x61] := by
  obtain ⟨metadata', answer, metadata'', hbef, hans, -, hlast⟩ :=
    @sniffPackets_flight plainCiphers namedMessage
      (turnedFlight namedMessage 30 (by decide) (by decide)) (by decide) 3 (by decide) {} rfl
      [_] [] _ _ rfl (by decide)
  obtain ⟨hok, -, hdom⟩ := hlast rfl
  exact ⟨metadata', answer, metadata'', _, hbef, hans, hok, hdom⟩

def longMessage : JA3.Message where
  minor := 3
  random := replicate 32 0
  sessionID := []
  cipherSuites := replicate 32767 0x1301
  compressionMethods := [0]
  extensions := []
  minor_le := by decide
  length_random := by decide
  length_sessionID := by decide
  length_cipherSuites := by rw [length_replicate]; decide
  length_compressionMethods := by decide
  length_extensions := by decide

lemma length_longMessage : longMessage.encode.length = 65579 := by
  have hsuites : longMessage.cipherSuites.length = 32767 := length_replicate
  have hsessionID : longMessage.sessionID.length = 0 := rfl
  have hmethods : longMessage.compressionMethods.length = 1 := rfl
  have hexts : longMessage.extensionBytes.length = 0 := rfl
  rw [JA3.Message.length_encode, JA3.Message.length_body, JA3.Message.length_cipherSuiteBytes,
    hsuites, hsessionID, hmethods, hexts]

lemma length_longMessage_gt : 40000 < longMessage.encode.length := by
  rw [length_longMessage]
  decide

def longFlight : Flight plainCiphers longMessage :=
  turnedFlight longMessage 40000 (by decide) length_longMessage_gt

lemma length_cryptoPacket (offset : ℕ) (data : List UInt8) (hoff : offset < 2 ^ 30)
    (hdata : data.length + 26 < 2 ^ 30) :
    (cryptoPacket offset data hoff hdata).1.length = 39 + data.length := by
  have hlen := length_encode_cryptoFrame offset data hoff (by omega)
  have hheader : longHeader.length = 9 := rfl
  have hwidth : 2 ^ (2 : Fin 4).val = 4 := rfl
  have hover : overhead = 16 := rfl
  rw [cryptoPacket, length_plainPacket, hlen, length_append, hheader, Varint.encode,
    length_bytesOfNat, hwidth, hover]
  omega

/-- More data are asked for although both packets have arrived. Each of them fits in a datagram. -/
theorem sniffPackets_longMessage :
    (∀ packet ∈ longFlight.packets.map Prod.fst, packet.length ≤ 65507) ∧
    ∃ metadata, sniffPackets plainCiphers 3 {} (longFlight.packets.map Prod.fst) =
        .ok ([.error .needMoreData, .error .needMoreData], metadata) := by
  constructor
  · simp only [longFlight, turnedFlight, map_cons, map_nil, forall_mem_cons, length_cryptoPacket,
      length_drop, length_take, length_longMessage]
    decide
  · have hlong : 2 ^ 16 ≤ longMessage.encode.length := by
      rw [length_longMessage]
      decide
    have hwaiting : Waiting longMessage 3 {} (arriving longFlight.packets) :=
      Flight.waiting _ (by decide) rfl
    rw [← append_nil (arriving _)] at hwaiting
    obtain ⟨metadata', hanswers, -⟩ := hwaiting.sniffPackets longFlight.carries (.inr hlong)
    exact ⟨metadata', hanswers⟩

end SingBox.QUIC
