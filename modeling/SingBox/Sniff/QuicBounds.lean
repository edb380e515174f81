import SingBox.JA3.Bounds
import SingBox.Sniff.Quic

/-!
# The bounds of the QUIC sniffer

The length of a CRYPTO frame is not checked, and the parser of the fingerprint has gaps of its own.
`withinBuffers_iff` says for which packets the sniffer stays within its buffers.
-/

namespace SingBox.QUIC
open Codec Slice List

/-! ### Reading a packet -/

variable {n hdrLen : ℕ} {rest packet b : List UInt8} {decrypted : View UInt8}

lemma discard_ok {input : List UInt8} (h : discard n input = .ok ((), rest)) :
    n ≤ input.length ∧ rest = input.drop n := by
  unfold discard at h
  split_ifs at h with hle
  cases h
  exact ⟨hle, rfl⟩

lemma consumes_discard (n : ℕ) : Consumes (discard n) := by
  intro input _ rest h
  obtain ⟨-, rfl⟩ := discard_ok h
  rw [length_drop]
  exact Nat.sub_le _ _

lemma consumes_readUvarint : Consumes readUvarint := by
  refine consumes_readByte.bind fun firstByte => .ite (.pure _) ?_
  refine consumes_readByte.bind fun b2 => .ite (.pure _) ?_
  refine consumes_readByte.bind fun b3 => consumes_readByte.bind fun b4 => .ite (.pure _) ?_
  refine consumes_readByte.bind fun b5 => consumes_readByte.bind fun b6 => ?_
  exact consumes_readByte.bind fun b7 => consumes_readByte.bind fun b8 => .pure _

lemma consumes_readLongHeader : Consumes readLongHeader := by
  refine consumes_readByte.bind fun typeByte => .check ?_
  refine (consumes_readFull 4).bind fun version => .check (.check ?_)
  refine consumes_readByte.bind fun destConnIDLen => .check ?_
  refine (consumes_readFull _).bind fun destConnID => consumes_readByte.bind fun srcConnIDLen => ?_
  refine (consumes_discard _).bind fun _ => consumes_readUvarint.bind fun tokenLen => ?_
  exact (consumes_discard _).bind fun _ => consumes_readUvarint.bind fun packetLen => .pure _

lemma consumes_readAckRanges (n : ℕ) : Consumes (readAckRanges n) := by
  induction n with
  | zero => exact .pure _
  | succ n ih => exact consumes_readUvarint.bind fun _ => consumes_readUvarint.bind fun _ => ih

lemma consumes_readAck (frameType : UInt8) : Consumes (readAck frameType) := by
  refine consumes_readUvarint.bind fun _ => consumes_readUvarint.bind fun _ => ?_
  refine consumes_readUvarint.bind fun count => consumes_readUvarint.bind fun _ => ?_
  refine (consumes_readAckRanges count).bind fun _ => .ite ?_ (.pure _)
  refine consumes_readUvarint.bind fun _ => consumes_readUvarint.bind fun _ => ?_
  exact consumes_readUvarint.bind fun _ => .pure _

lemma consumes_readFrame (frameType : UInt8) : Consumes (readFrame frameType) := by
  have hcrypto : Consumes (do
      let offset ← readUvarint
      let length ← readUvarint
      pure (Frame.crypto offset length)) :=
    consumes_readUvarint.bind fun _ => consumes_readUvarint.bind fun _ => .pure _
  have hclose : Consumes (do
      let _ ← readUvarint
      let _ ← readUvarint
      let length ← readUvarint
      pure (Frame.connectionClose length)) :=
    consumes_readUvarint.bind fun _ => consumes_readUvarint.bind fun _ =>
      consumes_readUvarint.bind fun _ => .pure _
  exact .ite (.pure _) (.ite (.pure _) (.ite (consumes_readAck frameType)
    (.ite hcrypto (.ite hclose (.fail _)))))

lemma readHeader_ok {header : Header} (h : readHeader packet packet = .ok (header, rest)) :
    header.hdrLen + header.packetLen ≤ packet.length ∧
    header.hdrLen + 4 + blockSize ≤ packet.length := by
  obtain ⟨long, mid, hlong, hsample⟩ := bind_ok h
  obtain ⟨_, _, hget, hsample⟩ := bind_ok hsample
  cases hget
  have hle := consumes_readLongHeader _ _ _ hlong
  dsimp only at hsample
  split_ifs at hsample with hcheck
  · cases hsample
  obtain ⟨_, mid', hdisc, hread⟩ := bind_ok hsample
  obtain ⟨pnBytes, mid'', hfull, hpure⟩ := bind_ok hread
  obtain ⟨hfour, rfl⟩ := discard_ok hdisc
  obtain ⟨hblock, -, -⟩ := readFull_ok hfull
  cases hpure
  dsimp only
  rw [length_drop] at hblock
  omega

lemma returns_xorAt {i : ℕ} (x : UInt8) (h : i < b.length) :
    Returns (xorAt b i x) fun b' => b'.length = b.length := by
  refine (returns_byteAt h).bind fun y _ => .of_some ?_
  rw [length_set]

lemma returns_unprotect {mask : List UInt8} (hmask : mask.length = blockSize)
    (hlen : hdrLen + 4 ≤ packet.length) :
    Returns (unprotect packet mask hdrLen) fun newPacket => newPacket.length = packet.length := by
  have hconst : blockSize = 16 := rfl
  refine (returns_byteAt (by omega)).bind fun first _ => ?_
  refine (returns_xorAt _ (by omega)).bind fun newPacket hnew => ?_
  refine (returns_slice (by omega) (by omega)).bind fun window hwin => ?_
  refine .foldlM hnew fun newPacket hnew i hi => ?_
  have hi' : i < window.length := mem_range.1 hi
  refine (returns_byteAt (by omega)).bind fun x _ => ?_
  exact (returns_xorAt x (by omega)).imp fun newPacket' hnew' => hnew'.trans hnew

lemma returns_beUint (h : n ≤ b.length) : Returns (beUint b n) fun _ => True :=
  (returns_slice (Nat.zero_le n) h).bind fun _ _ => .of_some trivial

lemma total_readPacketNumber {newPacket : List UInt8} (h : hdrLen + 4 ≤ newPacket.length) (n : ℕ) :
    Total (readPacketNumber newPacket hdrLen n) fun _ => True := by
  unfold readPacketNumber
  split
  · exact (returns_byteAt (by omega)).lift_bind fun _ _ => .pure trivial
  · refine (returns_slice (by omega) le_rfl).lift_bind fun b hb => ?_
    exact .lift (returns_beUint (by omega))
  · refine (returns_byteAt (by omega)).lift_bind fun _ _ => ?_
    refine (returns_byteAt (by omega)).lift_bind fun _ _ => ?_
    exact (returns_byteAt (by omega)).lift_bind fun _ _ => .pure trivial
  · refine (returns_slice (by omega) le_rfl).lift_bind fun b hb => ?_
    exact .lift (returns_beUint (by omega))
  · exact .throw _

lemma returns_copyAt {source : List UInt8} {low high : ℕ} (h : low ≤ high) (h' : high ≤ b.length) :
    Returns (copyAt b low high source) fun b' => b'.length = b.length := by
  refine (returns_slice h h').bind fun target htarget => .of_some ?_
  rw [length_append, length_append, length_take, length_take, length_drop]
  omega

lemma returns_putNonce (packetNumber : ℕ) : Returns (putNonce packetNumber) fun _ => True := by
  have hconst : nonceSize = 8 := rfl
  refine (returns_slice (Nat.sub_le _ _) le_rfl).bind fun tail htail => ?_
  rw [length_replicate] at htail
  exact (returns_slice (Nat.zero_le 8) (by omega)).bind fun _ _ => .of_some trivial

lemma total_runReader {α : Type} (read : Reader α) (bytes : List UInt8) :
    Total (runReader read bytes) fun r => read bytes = .ok r := by
  unfold runReader
  cases hread : read bytes with
  | error message => exact .throw _
  | ok r => exact .pure rfl

lemma total_decrypt (ciphers : Ciphers) (packet : List UInt8) :
    Total (decrypt ciphers packet) fun _ => True := by
  refine (total_runReader _ packet).bind fun ⟨header, rest⟩ hheader => ?_
  obtain ⟨hpacketLen, hsample⟩ := readHeader_ok hheader
  have hmask := ciphers.length_encrypt header.versionNumber header.destConnID header.pnBytes
  refine (returns_unprotect hmask (by omega)).lift_bind fun newPacket hnew => ?_
  refine (returns_byteAt (by omega)).lift_bind fun first _ => ?_
  have hnum : (first &&& 0x3).toNat ≤ 3 := by
    rw [UInt8.toNat_and]
    exact Nat.and_le_right
  refine .ite (fun _ => .throw _) fun hcheck => ?_
  refine (total_readPacketNumber (by omega) _).bind fun packetNumber _ => ?_
  refine (returns_slice (by omega) le_rfl).lift_bind fun source _ => ?_
  refine (returns_copyAt (by omega) (by omega)).lift_bind fun newPacket' hnew' => ?_
  refine (returns_slice (by omega) (by omega)).lift_bind fun data _ => ?_
  refine (returns_putNonce packetNumber).lift_bind fun nonce _ => ?_
  have hlen : (View.ofList newPacket').length = newPacket'.length := rfl
  refine (View.returns_slice le_rfl (by omega)).lift_bind fun out _ => ?_
  refine (returns_slice (Nat.zero_le _) (by omega)).lift_bind fun additionalData _ => ?_
  split
  · exact .throw _
  · exact .pure trivial

/-! ### The frames -/

def Frame.skip : Frame → ℕ
  | .plain => 0
  | .crypto _ length => length
  | .connectionClose length => length

def frames : ℕ → List UInt8 → List (Frame × List UInt8)
  | 0, _ => []
  | _ + 1, [] => []
  | fuel + 1, frameType :: rest =>
    match readFrame frameType rest with
    | .error _ => []
    | .ok (frame, rest) => (frame, rest) :: frames fuel (rest.drop frame.skip)

def Fits (p : Frame × List UInt8) : Prop :=
  ∀ offset length, p.1 = .crypto offset length → length ≤ p.2.length

def CryptoFits (payload : List UInt8) : Prop := ∀ p ∈ frames (payload.length + 1) payload, Fits p

def AllInside (decrypted : View UInt8) (frames : Frames) : Prop :=
  ∀ fragment ∈ frames.fragments, fragment.payload.Inside decrypted

section Loop
variable {decrypted : View UInt8} {fuel : ℕ} {rest : List UInt8} {acc : Frames}

lemma length_drop_le_of_le {l l' : List UInt8} (h : l.length ≤ l'.length) (n : ℕ) :
    (l.drop n).length ≤ l'.length := by
  rw [length_drop]
  omega

lemma round_cases (decrypted : View UInt8) (fuel : ℕ) (frameType : UInt8) (rest : List UInt8)
    (acc : Frames) :
    (∃ message, frames (fuel + 1) (frameType :: rest) = [] ∧
      readFrames decrypted (fuel + 1) (frameType :: rest) acc = throw (.sniffer message)) ∨
    (∃ offset length rest', rest'.length ≤ rest.length ∧
      frames (fuel + 1) (frameType :: rest) =
        (.crypto offset length, rest') :: frames fuel (rest'.drop length) ∧
      readFrames decrypted (fuel + 1) (frameType :: rest) acc = (do
        let index := decrypted.length - rest'.length
        let payload ← decrypted.slice index (index + length)
        readFrames decrypted fuel (rest'.drop length) {
          frameTypeList := acc.frameTypeList ++ [frameType]
          fragments := acc.fragments ++ [{ offset, length, payload }] })) ∨
    ∃ p rest', rest'.length ≤ rest.length ∧ Fits p ∧
      frames (fuel + 1) (frameType :: rest) = p :: frames fuel rest' ∧
      readFrames decrypted (fuel + 1) (frameType :: rest) acc =
        readFrames decrypted fuel rest'
          { acc with frameTypeList := acc.frameTypeList ++ [frameType] } := by
  rw [frames, readFrames, runReader]
  cases hread : readFrame frameType rest with
  | error message => exact .inl ⟨message, rfl, rfl⟩
  | ok r =>
    obtain ⟨frame, rest'⟩ := r
    have hle : rest'.length ≤ rest.length := consumes_readFrame frameType _ _ _ hread
    cases frame with
    | plain => exact .inr (.inr ⟨_, rest', hle, fun _ _ => Frame.noConfusion, rfl, rfl⟩)
    | crypto offset length => exact .inr (.inl ⟨offset, length, rest', hle, rfl, rfl⟩)
    | connectionClose length =>
      exact .inr (.inr ⟨_, rest'.drop length, length_drop_le_of_le hle length,
        fun _ _ => Frame.noConfusion, rfl, rfl⟩)

lemma total_readFrames (hfuel : rest.length < fuel) (hrest : rest.length ≤ decrypted.length)
    (hfits : ∀ p ∈ frames fuel rest, Fits p) (hacc : AllInside decrypted acc)
    (hlen : acc.fragments.length ≤ acc.frameTypeList.length) :
    Total (readFrames decrypted fuel rest acc) fun frames =>
    AllInside decrypted frames ∧ frames.fragments.length ≤ frames.frameTypeList.length := by
  induction fuel generalizing rest acc with
  | zero => omega
  | succ fuel ih =>
    cases rest with
    | nil => exact .pure ⟨hacc, hlen⟩
    | cons frameType rest =>
      rw [length_cons] at hfuel hrest
      obtain ⟨message, -, hround⟩ | ⟨offset, length, rest', hle, hframes, hround⟩ |
          ⟨p, rest', hle, -, hframes, hround⟩ := round_cases decrypted fuel frameType rest acc
      · rw [hround]
        exact .throw _
      · rw [hframes] at hfits
        obtain ⟨hframe, hfits⟩ := forall_mem_cons.1 hfits
        have hbd : length ≤ rest'.length := hframe offset length rfl
        have hdrop := length_drop_le_of_le hle length
        rw [hround]
        refine (View.returns_slice (by omega) (by omega)).lift_bind
          fun payload hpay => ih (by omega) (by omega) hfits ?_ ?_
        · intro fragment hfrag
          obtain hfrag | hfrag := mem_append.1 hfrag
          · exact hacc fragment hfrag
          · obtain rfl := mem_singleton.1 hfrag
            exact hpay
        · rw [length_append, length_append, length_singleton, length_singleton]
          omega
      · rw [hframes] at hfits
        obtain ⟨-, hfits⟩ := forall_mem_cons.1 hfits
        rw [hround]
        refine ih (by omega) (by omega) hfits hacc ?_
        dsimp only
        rw [length_append]
        omega

lemma of_total_nil {P : Frames → Prop} (h : Total (readFrames decrypted fuel [] acc) P) :
    P acc := by
  obtain ⟨r, hr, hP⟩ := h
  cases fuel with
  | zero => cases hr
  | succ fuel => exact hP acc (Option.some.inj hr).symm

lemma fits_of_total (hrest : rest.length ≤ decrypted.length)
    (h : Total (readFrames decrypted fuel rest acc) (AllInside decrypted)) :
    ∀ p ∈ frames fuel rest, Fits p := by
  induction fuel generalizing rest acc with
  | zero => simp [frames]
  | succ fuel ih =>
    cases rest with
    | nil => simp [frames]
    | cons frameType rest =>
      rw [length_cons] at hrest
      obtain ⟨message, hframes, -⟩ | ⟨offset, length, rest', hle, hframes, hround⟩ |
          ⟨p, rest', hle, hfits, hframes, hround⟩ := round_cases decrypted fuel frameType rest acc
      · simp [hframes]
      · have hdrop := length_drop_le_of_le hle length
        rw [hround] at h
        obtain ⟨payload, hslice, htotal⟩ := Total.of_lift_bind h
        have hbd : length ≤ rest'.length := by
          by_contra hgt
          -- the reader is at its end, and the loop returns with this fragment
          rw [drop_eq_nil_of_le (by omega)] at htotal
          have hinside := of_total_nil htotal { offset, length, payload } (by simp)
          have hidx := (View.inside_slice_iff hslice).1 hinside
          omega
        rw [hframes]
        refine forall_mem_cons.2 ⟨?_, ih (by omega) htotal⟩
        rintro _ _ ⟨⟩
        exact hbd
      · rw [hround] at h
        rw [hframes]
        exact forall_mem_cons.2 ⟨hfits, ih (by omega) h⟩

end Loop

lemma total_readPayload (h : CryptoFits decrypted.toList) :
    Total (readPayload decrypted) fun frames =>
    AllInside decrypted frames ∧ frames.fragments.length ≤ frames.frameTypeList.length := by
  have hlen := decrypted.length_toList
  rw [CryptoFits, hlen] at h
  exact total_readFrames (by omega) hlen.le h (by simp [AllInside]) le_rfl

lemma cryptoFits_of_total
    (h : Total (readPayload decrypted) (AllInside decrypted)) : CryptoFits decrypted.toList := by
  have hlen := decrypted.length_toList
  rw [CryptoFits, hlen]
  exact fits_of_total hlen.le h

/-! ### Detecting the client -/

lemma returns_greaseFirst (l : List ℕ) (h : 0 < n) : Returns (greaseFirst l n) fun _ => True := by
  refine .ite (fun hlen => ?_) fun _ => .of_some trivial
  exact (returns_getElem? (by omega)).bind fun _ _ => .of_some trivial

lemma returns_single (l : List ℕ) (n : ℕ) : Returns (single l n) fun _ => True := by
  refine .ite (fun hlen => ?_) fun _ => .of_some trivial
  exact (returns_getElem? (by omega)).bind fun _ _ => .of_some trivial

lemma returns_isSafari (fingerprint : JA3.ClientHello) :
    Returns (isSafari fingerprint) fun _ => True := by
  refine (returns_greaseFirst _ (by omega)).bind fun _ _ => ?_
  refine (returns_greaseFirst _ (by omega)).bind fun _ _ => ?_
  refine (returns_single _ _).bind fun _ _ => (returns_single _ _).bind fun _ _ => ?_
  exact (returns_single _ _).bind fun _ _ => .of_some trivial

section Client
variable {frameTypeList : List UInt8} (h : 0 < frameTypeList.length)
include h

lemma returns_cryptoFirst : Returns (cryptoFirst frameTypeList) fun _ => True := by
  refine (returns_byteAt h).bind fun first _ => .ite (fun _ => ?_) fun _ => .of_some trivial
  exact (returns_slice h le_rfl).bind fun _ _ => .of_some trivial

lemma returns_cryptoLast : Returns (cryptoLast frameTypeList) fun _ => True := by
  refine (returns_byteAt (by omega)).bind fun last _ => .ite (fun _ => ?_) fun _ => .of_some trivial
  exact (returns_slice (Nat.zero_le _) (Nat.sub_le _ _)).bind fun _ _ => .of_some trivial

lemma returns_detectClient (fingerprint : JA3.ClientHello) :
    Returns (detectClient fingerprint frameTypeList) fun _ => True := by
  refine .ite (fun _ => .of_some trivial) fun _ => (returns_cryptoFirst h).bind fun first _ => ?_
  refine (returns_isSafari fingerprint).bind fun safari _ => ?_
  refine .ite (fun _ => .of_some trivial) fun _ => (returns_cryptoLast h).bind fun last _ => ?_
  exact .ite (fun _ => .of_some trivial) fun _ =>
    .ite (fun _ => .of_some trivial) fun _ => .of_some trivial

end Client

/-! ### The whole sniffer -/

def Kept (fuel : ℕ) (metadata : Metadata) : Prop :=
  ∀ buffer, assemble fuel (metadata.sniffContext.getD []) = some buffer →
    ∃ error, JA3.compute buffer = some (.error error)

lemma kept_of_none {fuel : ℕ} {metadata : Metadata} (h : metadata.sniffContext = none) :
    Kept fuel metadata := by
  intro buffer hbuf
  rw [h, Option.getD_none] at hbuf
  cases fuel with
  | zero => cases hbuf
  | succ fuel =>
    obtain rfl : [22, 3, 3, 0, 0] = buffer := Option.some.inj hbuf
    exact ⟨_, JA3.compute_empty⟩

lemma finish_cases (fuel : ℕ) (metadata : Metadata) (frames : Frames) :
    (∃ stop, finish fuel metadata frames = .error stop ∧ stop ≠ .panic) ∨
    (∃ metadata', finish fuel metadata frames = .ok (.error .needMoreData, metadata') ∧
      Kept fuel metadata') ∨
    ∃ buffer fingerprint,
    assemble fuel (frames.fragments ++ metadata.sniffContext.getD []) = some buffer ∧
    JA3.compute buffer = some (.ok fingerprint) ∧
    ((finish fuel metadata frames = .error .panic ∧
        detectClient fingerprint frames.frameTypeList = none) ∨
      ∃ metadata', finish fuel metadata frames = .ok (.ok (), metadata') ∧
        metadata'.sniffContext = none) := by
  unfold finish
  dsimp only
  cases hasm : assemble fuel (frames.fragments ++ metadata.sniffContext.getD []) with
  | none => exact .inl ⟨.rounds, rfl, by decide⟩
  | some buffer =>
    dsimp only
    cases hcomp : JA3.compute buffer with
    | none => exact .inl ⟨.compute, rfl, by decide⟩
    | some r =>
      cases r with
      | error error =>
        refine .inr (.inl ⟨_, rfl, fun buffer' hbuf' => ?_⟩)
        obtain rfl := Option.some.inj (hasm.symm.trans hbuf')
        exact ⟨error, hcomp⟩
      | ok fingerprint =>
        refine .inr (.inr ⟨buffer, fingerprint, rfl, hcomp, ?_⟩)
        dsimp only
        split_ifs
        · cases hclient : detectClient fingerprint frames.frameTypeList with
          | none => exact .inl ⟨rfl, rfl⟩
          | some client => exact .inr ⟨_, rfl, rfl⟩
        · exact .inr ⟨_, rfl, rfl⟩

lemma finish_ne_panic {fuel : ℕ} {metadata : Metadata} {frames : Frames}
    (hkept : Kept fuel metadata) (hlen : frames.fragments.length ≤ frames.frameTypeList.length) :
    finish fuel metadata frames ≠ .error .panic := by
  obtain ⟨stop, hstop, hne⟩ | ⟨metadata', hok, -⟩ | ⟨buffer, fingerprint, hasm, hcomp, h⟩ :=
    finish_cases fuel metadata frames
  · rw [hstop]
    rintro ⟨⟩
    exact hne rfl
  · rw [hok]
    rintro ⟨⟩
  · obtain ⟨-, hclient⟩ | ⟨metadata', hok, -⟩ := h
    · have hpos : 0 < frames.frameTypeList.length := by
        by_contra hzero
        have hnil : frames.fragments = [] := length_eq_zero_iff.1 (by omega)
        rw [hnil, nil_append] at hasm
        obtain ⟨error, herror⟩ := hkept buffer hasm
        cases hcomp.symm.trans herror
      obtain ⟨client, hsome, -⟩ := returns_detectClient hpos fingerprint
      cases hclient.symm.trans hsome
    · rw [hok]
      rintro ⟨⟩

lemma kept_of_finish {fuel : ℕ} {metadata metadata' : Metadata} {frames : Frames}
    {error : Except SniffError Unit} (h : finish fuel metadata frames = .ok (error, metadata')) :
    Kept fuel metadata' := by
  obtain ⟨stop, hstop, -⟩ | ⟨_, hok, hkept⟩ | ⟨_, _, -, -, ⟨hpanic, -⟩ | ⟨_, hok, hnone⟩⟩ :=
    finish_cases fuel metadata frames
  · cases h.symm.trans hstop
  · cases h.symm.trans hok
    exact hkept
  · cases h.symm.trans hpanic
  · cases h.symm.trans hok
    exact kept_of_none hnone

lemma quicClientHello_cases (ciphers : Ciphers) (fuel : ℕ) (metadata : Metadata)
    (packet : List UInt8) :
    (∃ error, quicClientHello ciphers fuel metadata packet = .ok (.error error, metadata)) ∨
    (∃ decrypted, (decrypt ciphers packet).run = some (.ok decrypted) ∧
      (readPayload decrypted).run = none ∧
      quicClientHello ciphers fuel metadata packet = .error .panic) ∨
    ∃ decrypted frames, (decrypt ciphers packet).run = some (.ok decrypted) ∧
    (readPayload decrypted).run = some (.ok frames) ∧
    quicClientHello ciphers fuel metadata packet = finish fuel metadata frames := by
  obtain ⟨r, hr, -⟩ := total_decrypt ciphers packet
  unfold quicClientHello
  rw [hr]
  cases r with
  | error error => exact .inl ⟨error, rfl⟩
  | ok decrypted =>
    dsimp only
    cases hpay : (readPayload decrypted).run with
    | none => exact .inr (.inl ⟨decrypted, rfl, hpay, rfl⟩)
    | some r =>
      cases r with
      | error error => exact .inl ⟨error, rfl⟩
      | ok frames => exact .inr (.inr ⟨decrypted, frames, rfl, hpay, rfl⟩)

/-- Others may change the metadata, but not the fragments. -/
inductive Reached (ciphers : Ciphers) (fuel : ℕ) : Metadata → Prop
  | start {metadata} : metadata.sniffContext = none → Reached ciphers fuel metadata
  | sniffed {metadata packet error metadata'} : Reached ciphers fuel metadata →
      quicClientHello ciphers fuel metadata packet = .ok (error, metadata') →
      Reached ciphers fuel metadata'
  | changed {metadata} (protocol : String) (domain : GoString) (client : String) :
      Reached ciphers fuel metadata →
      Reached ciphers fuel { metadata with protocol, domain, client }

variable {ciphers : Ciphers} {fuel : ℕ} {metadata : Metadata}

lemma kept_of_reached (h : Reached ciphers fuel metadata) : Kept fuel metadata := by
  induction h with
  | start hnone => exact kept_of_none hnone
  | @sniffed metadata packet error metadata' _ hsniffed ih =>
    obtain ⟨_, herror⟩ | ⟨_, -, -, hpanic⟩ | ⟨_, frames, -, -, hfinish⟩ :=
      quicClientHello_cases ciphers fuel metadata packet
    · cases hsniffed.symm.trans herror
      exact ih
    · cases hsniffed.symm.trans hpanic
    · exact kept_of_finish (hfinish.symm.trans hsniffed)
  | changed _ _ _ _ ih => exact ih

lemma finish_eq_compute {frames : Frames} :
    finish fuel metadata frames = .error .compute ↔
    ∃ buffer, assemble fuel (frames.fragments ++ metadata.sniffContext.getD []) = some buffer ∧
      JA3.compute buffer = none := by
  unfold finish
  dsimp only
  cases hasm : assemble fuel (frames.fragments ++ metadata.sniffContext.getD []) with
  | none => exact iff_of_false nofun nofun
  | some buffer =>
    dsimp only
    cases hcomp : JA3.compute buffer with
    | none => exact iff_of_true rfl ⟨buffer, rfl, hcomp⟩
    | some r =>
      refine iff_of_false (fun h => ?_) fun ⟨buffer', hbuf', hnone⟩ => ?_
      · cases r with
        | error error => cases h
        | ok fingerprint =>
          dsimp only at h
          split_ifs at h
          cases hclient : detectClient fingerprint frames.frameTypeList <;>
            rw [hclient] at h <;> cases h
      · obtain rfl := Option.some.inj hbuf'
        cases hcomp.symm.trans hnone

/-- It does not panic, neither in the sniffer nor in the parser of the fingerprint, and the slices
of the payload lie in it. -/
def WithinBuffers (ciphers : Ciphers) (fuel : ℕ) (metadata : Metadata) (packet : List UInt8) :
    Prop :=
  quicClientHello ciphers fuel metadata packet ≠ .error .panic ∧
    quicClientHello ciphers fuel metadata packet ≠ .error .compute ∧
    ∀ decrypted, (decrypt ciphers packet).run = some (.ok decrypted) →
      Total (readPayload decrypted) (AllInside decrypted)

variable (fuel metadata) in
/-- The two lists of the ClientHello that the fragments make, if they make one, have the lengths
that stand before them. -/
def HelloFits (decrypted : View UInt8) : Prop :=
  ∀ frames buffer, (readPayload decrypted).run = some (.ok frames) →
    assemble fuel (frames.fragments ++ metadata.sniffContext.getD []) = some buffer →
    JA3.ListsFit buffer

lemma finish_ne_compute {decrypted : View UInt8} {frames : Frames}
    (hframes : (readPayload decrypted).run = some (.ok frames))
    (h : HelloFits fuel metadata decrypted) : finish fuel metadata frames ≠ .error .compute := by
  intro hcompute
  obtain ⟨buffer, hbuf, hnone⟩ := finish_eq_compute.1 hcompute
  have hsome := (JA3.isSome_compute buffer).2
    ((JA3.total_parseSegment _ buffer).2 (h frames buffer hframes hbuf))
  rw [hnone] at hsome
  cases hsome

lemma helloFits_of_ne_compute {packet : List UInt8} {decrypted : View UInt8}
    (hdecr : (decrypt ciphers packet).run = some (.ok decrypted))
    (h : quicClientHello ciphers fuel metadata packet ≠ .error .compute) :
    HelloFits fuel metadata decrypted := by
  intro frames buffer hframes hbuf
  rw [← JA3.total_parseSegment {}, ← JA3.isSome_compute, Option.isSome_iff_ne_none]
  intro hnone
  refine h ?_
  unfold quicClientHello
  rw [hdecr]
  dsimp only
  rw [hframes]
  exact finish_eq_compute.2 ⟨buffer, hbuf, hnone⟩

/-- The data of all CRYPTO frames have to lie in the payload, and the lists of the ClientHello in
their extensions. -/
theorem withinBuffers_iff (h : Reached ciphers fuel metadata) (packet : List UInt8) :
    WithinBuffers ciphers fuel metadata packet ↔
      ∀ decrypted, (decrypt ciphers packet).run = some (.ok decrypted) →
        CryptoFits decrypted.toList ∧ HelloFits fuel metadata decrypted := by
  constructor
  · rintro ⟨-, hcompute, htotal⟩ decrypted hdecr
    exact ⟨cryptoFits_of_total (htotal decrypted hdecr), helloFits_of_ne_compute hdecr hcompute⟩
  · intro hfits
    have hcalls : quicClientHello ciphers fuel metadata packet ≠ .error .panic ∧
        quicClientHello ciphers fuel metadata packet ≠ .error .compute := by
      obtain ⟨_, herror⟩ | ⟨decrypted, hdecr, hnone, -⟩ |
          ⟨decrypted, frames, hdecr, hframes, hfinish⟩ :=
        quicClientHello_cases ciphers fuel metadata packet
      · rw [herror]
        exact ⟨nofun, nofun⟩
      · obtain ⟨r, hr, -⟩ := total_readPayload (hfits decrypted hdecr).1
        cases hnone.symm.trans hr
      · obtain ⟨r, hr, hlen⟩ := total_readPayload (hfits decrypted hdecr).1
        have hok : r = .ok frames := Option.some.inj (hr.symm.trans hframes)
        rw [hfinish]
        exact ⟨finish_ne_panic (kept_of_reached h) (hlen frames hok).2,
          finish_ne_compute hframes (hfits decrypted hdecr).2⟩
    refine ⟨hcalls.1, hcalls.2, fun decrypted hdecr => ?_⟩
    obtain ⟨r, hr, hinside⟩ := total_readPayload (hfits decrypted hdecr).1
    exact ⟨r, hr, fun frames hframes => (hinside frames hframes).1⟩

def plainCiphers : Ciphers where
  encrypt _ _ _ := replicate blockSize 0
  openData _ _ _ data _ :=
    if overhead ≤ data.length then some (data.take (data.length - overhead)) else none
  length_encrypt _ _ _ := length_replicate
  length_openData _ _ _ data _ plaintext h := by
    split_ifs at h with hle
    cases h
    rw [length_take]
    omega

def initial (payload : List UInt8) : List UInt8 :=
  [0xc0, 0, 0, 0, 1, 1, 7, 0, 0, UInt8.ofNat (1 + payload.length + overhead), 0] ++ payload ++
    replicate overhead 0

/-- The two bytes of the CRYPTO frame are not yet a ClientHello. -/
theorem withinBuffers_iff_crypto : WithinBuffers plainCiphers 2 {} (initial [6, 0, 2, 1, 0]) := by
  refine (withinBuffers_iff (.start rfl) _).2 fun decrypted hdecr => ⟨?_, ?_⟩
  · have hrun : ((decrypt plainCiphers (initial [6, 0, 2, 1, 0])).run.map
        fun r => r.toOption.map View.toList) = some (some [6, 0, 2, 1, 0]) := by decide +kernel
    rw [hdecr] at hrun
    have hpay : decrypted.toList = [6, 0, 2, 1, 0] := Option.some.inj (Option.some.inj hrun)
    rw [hpay]
    rintro p hp offset length hcrypto
    obtain rfl : p = (.crypto 0 2, [1, 0]) := mem_singleton.1 hp
    cases hcrypto
    exact le_rfl
  · refine helloFits_of_ne_compute hdecr ?_
    decide +kernel

/-- A CRYPTO frame of 16383 bytes in a payload of four bytes. -/
theorem quicClientHello_panics :
    Reached plainCiphers 2 {} ∧
      quicClientHello plainCiphers 2 {} (initial [6, 0, 0x7f, 0xff]) = .error .panic := by
  refine ⟨.start rfl, ?_⟩
  decide +kernel

end SingBox.QUIC
