import SingBox.Lib.Tiling
import SingBox.Sniff.QuicBounds

/-!
# The frames of an Initial packet

What a client may write into an Initial packet. The frame loop reads it to its end.
-/

namespace SingBox.QUIC
open Codec Slice List

/-! ### Numbers -/

structure Varint where
  width : Fin 4
  value : ℕ
  value_lt : value < 2 ^ (8 * 2 ^ width.val - 2)

def Varint.encode (v : Varint) : List UInt8 :=
  bytesOfNat (2 ^ v.width.val) (v.width * 2 ^ (8 * 2 ^ v.width.val - 2) + v.value)

lemma firstByte_bits : ∀ b : Fin 256, ((UInt8.ofNat b &&& 0xc0) >>> 6).toNat = b / 64 ∧
    (UInt8.ofNat b &&& (0xff - 0xc0)).toNat = b % 64 := by
  decide +kernel

lemma readUvarint_eq {b : UInt8} {tail : List UInt8} (h : tail.length + 1 = 2 ^ (b.toNat / 64))
    (rest : List UInt8) :
    readUvarint (b :: (tail ++ rest)) = .ok (Addr.natOfBytes (b % 64 :: tail), rest) := by
  obtain ⟨hwidth, hval⟩ := firstByte_bits ⟨b.toNat, b.toNat_lt⟩
  rw [UInt8.ofNat_toNat] at hwidth hval
  have hlt := b.toNat_lt
  have hmod : (b % 64).toNat = b.toNat % 64 := by simp
  -- the width and the bytes that it asks for
  have hcases : b.toNat / 64 = 0 ∧ tail = [] ∨ b.toNat / 64 = 1 ∧ (∃ b2, tail = [b2]) ∨
      b.toNat / 64 = 2 ∧ (∃ b2 b3 b4, tail = [b2, b3, b4]) ∨
      b.toNat / 64 = 3 ∧ ∃ b2 b3 b4 b5 b6 b7 b8, tail = [b2, b3, b4, b5, b6, b7, b8] := by
    obtain hw | hw | hw | hw :
        b.toNat / 64 = 0 ∨ b.toNat / 64 = 1 ∨ b.toNat / 64 = 2 ∨ b.toNat / 64 = 3 := by omega
    all_goals rw [hw] at h
    · exact .inl ⟨hw, eq_nil_of_length_eq_zero (by omega)⟩
    · exact .inr (.inl ⟨hw, length_eq_one_iff.1 (by omega)⟩)
    · exact .inr (.inr (.inl ⟨hw, length_eq_three.1 (by omega)⟩))
    · obtain ⟨b2, b3, b4, hfst⟩ := length_eq_three.1
        (show (tail.take 3).length = 3 by rw [length_take]; omega)
      obtain ⟨b5, b6, b7, hnext⟩ := length_eq_three.1
        (show ((tail.drop 3).take 3).length = 3 by rw [length_take, length_drop]; omega)
      obtain ⟨b8, hlast⟩ := length_eq_one_iff.1
        (show ((tail.drop 3).drop 3).length = 1 by rw [length_drop, length_drop]; omega)
      refine .inr (.inr (.inr ⟨hw, b2, b3, b4, b5, b6, b7, b8, ?_⟩))
      rw [← take_append_drop 3 tail, hfst, ← take_append_drop 3 (tail.drop 3), hnext, hlast]
      rfl
  unfold readUvarint
  obtain ⟨hw, rfl⟩ | ⟨hw, b2, rfl⟩ | ⟨hw, b2, b3, b4, rfl⟩ |
    ⟨hw, b2, b3, b4, b5, b6, b7, b8, rfl⟩ := hcases
  all_goals
    rw [hw] at hwidth
    show (if 1 <<< _ = 1 then _ else _ : Reader ℕ) _ = _
    rw [hwidth, hval]
    show Except.ok (_, _) = _
    simp [Addr.natOfBytes, hmod, Nat.shiftLeft_eq]
  all_goals omega

lemma decodes_readUvarint (v : Varint) : Decodes readUvarint v.encode v.value := by
  intro rest
  obtain ⟨k, hk⟩ : ∃ k, 2 ^ v.width.val = k + 1 :=
    ⟨2 ^ v.width.val - 1, (Nat.succ_pred_eq_of_pos (Nat.two_pow_pos _)).symm⟩
  have hpow : 2 ^ (8 * 2 ^ v.width.val - 2) = 64 * 256 ^ k := by
    have hexp : 8 * 2 ^ v.width.val - 2 = 6 + 8 * k := by omega
    rw [hexp, pow_add, pow_mul]
    rfl
  have hval := v.value_lt
  rw [hpow] at hval
  have hM : 0 < 256 ^ k := pow_pos (by omega) k
  have hhigh : v.value / 256 ^ k < 64 := Nat.div_lt_of_lt_mul (by rwa [mul_comm] at hval)
  -- the number with its width, split into the first byte and the others
  have hn : v.width * 2 ^ (8 * 2 ^ v.width.val - 2) + v.value =
      256 ^ k * (v.width * 64) + v.value := by
    rw [hpow]
    ring
  have hdiv : (256 ^ k * (v.width * 64) + v.value) / 256 ^ k =
      v.width * 64 + v.value / 256 ^ k := Nat.mul_add_div hM _ _
  have hmod : (256 ^ k * (v.width * 64) + v.value) % 256 ^ k = v.value % 256 ^ k :=
    Nat.mul_add_mod _ _ _
  have hfst : (UInt8.ofNat ((v.width * 64 + v.value / 256 ^ k) % 256)).toNat =
      v.width * 64 + v.value / 256 ^ k := by
    rw [UInt8.toNat_ofNat', Nat.mod_mod, Nat.mod_eq_of_lt]
    omega
  have hbits : (UInt8.ofNat ((v.width * 64 + v.value / 256 ^ k) % 256) % 64).toNat =
      v.value / 256 ^ k := by
    have hlow : (v.width * 64 + v.value / 256 ^ k) % 64 = v.value / 256 ^ k := by
      rw [Nat.mul_add_mod', Nat.mod_eq_of_lt hhigh]
    rw [UInt8.toNat_mod, hfst]
    exact hlow
  rw [Varint.encode, hn, hk, bytesOfNat, hdiv, cons_append, readUvarint_eq]
  · rw [Addr.natOfBytes, foldl_cons, hbits, foldl_bytesOfNat, hmod, zero_mul,
      zero_add, Nat.div_add_mod']
  · have hwidth : (v.width * 64 + v.value / 256 ^ k) / 64 = v.width := by
      rw [mul_comm, Nat.mul_add_div (by omega), Nat.div_eq_of_lt hhigh, add_zero]
    rw [length_bytesOfNat, hfst, hwidth, hk]

/-! ### Frames -/

inductive InitialFrame where
  | padding
  | ping
  | ack (largest delay count first : Varint) (ranges : List (Varint × Varint))
      (ecn : Option (Varint × Varint × Varint)) (length_ranges : ranges.length = count.value)
  | crypto (offset length : Varint) (data : List UInt8) (length_data : data.length = length.value)
  | connectionClose (code frameType length : Varint) (reason : List UInt8)
      (length_reason : reason.length = length.value)

namespace InitialFrame

def frameType : InitialFrame → UInt8
  | padding => frameTypePadding
  | ping => frameTypePing
  | ack _ _ _ _ _ none _ => frameTypeAck
  | ack _ _ _ _ _ (some _) _ => frameTypeAck2
  | crypto .. => frameTypeCrypto
  | connectionClose .. => frameTypeConnectionClose

def fields : InitialFrame → List UInt8
  | padding => []
  | ping => []
  | ack largest delay count first ranges ecn _ =>
    largest.encode ++ (delay.encode ++ (count.encode ++ (first.encode ++
      (ranges.flatMap (fun range => range.1.encode ++ range.2.encode) ++ match ecn with
        | none => []
        | some (ect0, ect1, ce) => ect0.encode ++ (ect1.encode ++ ce.encode)))))
  | crypto offset length _ _ => offset.encode ++ length.encode
  | connectionClose code frameType length _ _ =>
    code.encode ++ (frameType.encode ++ length.encode)

def data : InitialFrame → List UInt8
  | crypto _ _ data _ => data
  | connectionClose _ _ _ reason _ => reason
  | _ => []

def encode (f : InitialFrame) : List UInt8 := f.frameType :: (f.fields ++ f.data)

def header : InitialFrame → Frame
  | crypto offset length _ _ => .crypto offset.value length.value
  | connectionClose _ _ length _ _ => .connectionClose length.value
  | _ => .plain

def pieces : InitialFrame → List (Tiling.Piece UInt8)
  | crypto offset _ data _ => [⟨offset.value, data⟩]
  | _ => []

end InitialFrame

open InitialFrame

lemma decodes_readAckRanges (ranges : List (Varint × Varint)) :
    Decodes (readAckRanges ranges.length)
    (ranges.flatMap fun range => range.1.encode ++ range.2.encode) () := by
  induction ranges with
  | nil => exact .pure ()
  | cons range ranges ih =>
    rw [flatMap_cons, append_assoc]
    exact (decodes_readUvarint range.1).bind ((decodes_readUvarint range.2).bind ih)

lemma decodes_readFrame (f : InitialFrame) : Decodes (readFrame f.frameType) f.fields f.header := by
  cases f with
  | padding | ping => exact .pure _
  | ack largest delay count first ranges ecn length_ranges =>
    have hranges := decodes_readAckRanges ranges
    rw [length_ranges] at hranges
    cases ecn with
    | none =>
      exact (decodes_readUvarint largest).bind ((decodes_readUvarint delay).bind
        ((decodes_readUvarint count).bind ((decodes_readUvarint first).bind
          (hranges.bind (.pure Frame.plain)))))
    | some ecn =>
      obtain ⟨ect0, ect1, ce⟩ := ecn
      exact (decodes_readUvarint largest).bind ((decodes_readUvarint delay).bind
        ((decodes_readUvarint count).bind ((decodes_readUvarint first).bind
          (hranges.bind ((decodes_readUvarint ect0).bind ((decodes_readUvarint ect1).bind
            ((decodes_readUvarint ce).bind_pure fun _ => Frame.plain)))))))
  | crypto offset length data length_data =>
    exact (decodes_readUvarint offset).bind
      ((decodes_readUvarint length).bind_pure (Frame.crypto offset.value))
  | connectionClose code frameType length reason length_reason =>
    exact (decodes_readUvarint code).bind ((decodes_readUvarint frameType).bind
      ((decodes_readUvarint length).bind_pure Frame.connectionClose))

/-! ### The loop -/

def QCryptoFragment.piece (fragment : QCryptoFragment) : Tiling.Piece UInt8 :=
  ⟨fragment.offset, fragment.payload.toList⟩

def Exact (fragments : List QCryptoFragment) : Prop :=
  ∀ fragment ∈ fragments, fragment.length = fragment.payload.length

lemma Exact.nil : Exact [] := fun _ h => nomatch h

lemma Exact.append {fragments fragments' : List QCryptoFragment} (h : Exact fragments)
    (h' : Exact fragments') : Exact (fragments ++ fragments') := by
  intro fragment hfrag
  obtain hmem | hmem := mem_append.1 hfrag
  · exact h fragment hmem
  · exact h' fragment hmem

section Loop
variable {decrypted : View UInt8}
section Round
variable {fuel : ℕ} {acc : Frames} {frameType : UInt8} {rest rest' : List UInt8}

lemma readFrames_plain (h : readFrame frameType rest = .ok (.plain, rest')) :
    readFrames decrypted (fuel + 1) (frameType :: rest) acc = readFrames decrypted fuel rest'
    { acc with frameTypeList := acc.frameTypeList ++ [frameType] } := by
  rw [readFrames, runReader, h]
  rfl

lemma readFrames_connectionClose {length : ℕ}
    (h : readFrame frameType rest = .ok (.connectionClose length, rest')) :
    readFrames decrypted (fuel + 1) (frameType :: rest) acc =
    readFrames decrypted fuel (rest'.drop length)
    { acc with frameTypeList := acc.frameTypeList ++ [frameType] } := by
  rw [readFrames, runReader, h]
  rfl

lemma readFrames_crypto {offset length : ℕ} {payload : View UInt8}
    (h : readFrame frameType rest = .ok (.crypto offset length, rest'))
    (hslice : decrypted.slice (decrypted.length - rest'.length)
      (decrypted.length - rest'.length + length) = some payload) :
    readFrames decrypted (fuel + 1) (frameType :: rest) acc =
      readFrames decrypted fuel (rest'.drop length) {
        frameTypeList := acc.frameTypeList ++ [frameType]
        fragments := acc.fragments ++ [{ offset, length, payload }] } := by
  rw [readFrames, runReader, h]
  show ((liftM (decrypted.slice _ _) : Sniff (View UInt8)) >>= _) = _
  rw [hslice]
  rfl

end Round

lemma readFrames_encode (f : InitialFrame) {rest before : List UInt8}
    (hpay : decrypted.toList = before ++ (f.encode ++ rest)) (fuel : ℕ) (acc : Frames) :
    ∃ fragments, fragments.map QCryptoFragment.piece = f.pieces ∧ Exact fragments ∧
      readFrames decrypted (fuel + 1) (f.encode ++ rest) acc = readFrames decrypted fuel rest {
          frameTypeList := acc.frameTypeList ++ [f.frameType]
          fragments := acc.fragments ++ fragments } := by
  have hread : readFrame f.frameType (f.fields ++ (f.data ++ rest)) =
      .ok (f.header, f.data ++ rest) := decodes_readFrame f _
  have hlist : f.encode ++ rest = f.frameType :: (f.fields ++ (f.data ++ rest)) := by
    rw [encode, cons_append, append_assoc]
  rw [hlist]
  cases f with
  | padding | ping => exact ⟨[], rfl, .nil, by rw [append_nil]; exact readFrames_plain hread⟩
  | ack largest delay count first ranges ecn length_ranges =>
    exact ⟨[], rfl, .nil, by rw [append_nil]; exact readFrames_plain hread⟩
  | connectionClose code frameType length reason length_reason =>
    refine ⟨[], rfl, .nil, ?_⟩
    have hdrop : (reason ++ rest).drop length.value = rest := drop_left' length_reason
    rw [readFrames_connectionClose hread, append_nil]
    show readFrames decrypted fuel ((reason ++ rest).drop length.value) _ = _
    rw [hdrop]
  | crypto offset length data length_data =>
    have hdrop : (data ++ rest).drop length.value = rest := drop_left' length_data
    -- the payload up to the data
    obtain ⟨front, hfront⟩ : ∃ front, decrypted.toList = front ++ (data ++ rest) := by
      refine ⟨before ++ frameTypeCrypto :: (offset.encode ++ length.encode), ?_⟩
      rw [hpay, append_assoc, encode, cons_append, cons_append, append_assoc]
      rfl
    have hlen : decrypted.length = front.length + (data ++ rest).length := by
      rw [← decrypted.length_toList, hfront, length_append]
    have hidx : decrypted.length - (data ++ rest).length = front.length := by omega
    have hbd : front.length + length.value ≤ decrypted.length := by
      rw [hlen, length_append, length_data]
      omega
    obtain ⟨payload, hslice, -⟩ := View.returns_slice (Nat.le_add_right _ _) hbd
    have hdata : payload.toList = data := by
      rw [View.toList_slice hslice hbd, hfront, List.take_append, take_of_length_le
        (Nat.le_add_right _ _), Nat.add_sub_cancel_left, drop_left, take_left'
        length_data]
    refine ⟨[{ offset := offset.value, length := length.value, payload }], ?_, ?_, ?_⟩
    · rw [map_singleton, QCryptoFragment.piece, hdata]
      rfl
    · intro fragment hfrag
      obtain rfl := mem_singleton.1 hfrag
      rw [← payload.length_toList, hdata, length_data]
    · rw [← hidx] at hslice
      rw [readFrames_crypto hread hslice]
      show readFrames decrypted fuel ((data ++ rest).drop length.value) _ = _
      rw [hdrop]

lemma readFrames_flatMap {initialFrames : List InitialFrame} {before : List UInt8}
    (hpay : decrypted.toList = before ++ initialFrames.flatMap encode) {fuel : ℕ}
    (hfuel : initialFrames.length < fuel) (acc : Frames) :
    ∃ fragments, fragments.map QCryptoFragment.piece = initialFrames.flatMap pieces ∧
      Exact fragments ∧
      readFrames decrypted fuel (initialFrames.flatMap encode) acc = pure {
        frameTypeList := acc.frameTypeList ++ initialFrames.map frameType
        fragments := acc.fragments ++ fragments } := by
  induction initialFrames generalizing before fuel acc with
  | nil =>
    obtain ⟨fuel, rfl⟩ := Nat.exists_eq_add_one_of_ne_zero (ne_of_gt hfuel)
    refine ⟨[], rfl, .nil, ?_⟩
    rw [append_nil, map_nil, append_nil]
    rfl
  | cons f initialFrames ih =>
    obtain ⟨fuel, rfl⟩ := Nat.exists_eq_add_one_of_ne_zero (Nat.ne_zero_of_lt hfuel)
    rw [flatMap_cons] at hpay
    obtain ⟨first, hfst, hexact, hround⟩ := readFrames_encode f hpay fuel acc
    rw [← append_assoc] at hpay
    obtain ⟨fragments, hfrags, hexact', hrest⟩ := ih hpay (Nat.lt_of_succ_lt_succ hfuel) {
        frameTypeList := acc.frameTypeList ++ [f.frameType]
        fragments := acc.fragments ++ first }
    refine ⟨first ++ fragments, ?_, hexact.append hexact', ?_⟩
    · rw [map_append, hfst, hfrags, flatMap_cons]
    · rw [flatMap_cons, hround, hrest, map_cons, append_assoc, append_assoc, singleton_append]

end Loop

lemma length_le_length_flatMap_encode (initialFrames : List InitialFrame) :
    initialFrames.length ≤ (initialFrames.flatMap encode).length := by
  induction initialFrames with
  | nil => exact Nat.zero_le _
  | cons f initialFrames ih =>
    rw [flatMap_cons, length_append, encode, length_cons, length_cons]
    omega

lemma readPayload_flatMap {decrypted : View UInt8} {initialFrames : List InitialFrame}
    (hpay : decrypted.toList = initialFrames.flatMap encode) :
    ∃ fragments, fragments.map QCryptoFragment.piece = initialFrames.flatMap pieces ∧
      Exact fragments ∧
      (readPayload decrypted).run = some (.ok {
        frameTypeList := initialFrames.map frameType
        fragments }) := by
  have hfuel : initialFrames.length < decrypted.length + 1 := by
    rw [← decrypted.length_toList, hpay]
    exact Nat.lt_succ_of_le (length_le_length_flatMap_encode initialFrames)
  have hall : decrypted.toList = [] ++ initialFrames.flatMap encode := hpay
  obtain ⟨fragments, hfrags, hexact, hread⟩ := readFrames_flatMap hall hfuel {}
  refine ⟨fragments, hfrags, hexact, ?_⟩
  rw [readPayload, hpay, hread]
  rfl

end SingBox.QUIC
