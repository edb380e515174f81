import SingBox.Adapter.Bytes

/-!
# Addresses and prefixes

A prefix splits the numbers of its family into blocks of size `2 ^ k`, where `k` is the number of
host bits.
-/

namespace SingBox
open BitVec
namespace Addr

def bitLen : Addr → ℕ
  | .v4 _ => 32
  | .v6 _ => 128

def toNat : Addr → ℕ
  | .v4 bits => bits.toNat
  | .v6 bits => bits.toNat

def next : Addr → Option Addr
  | .v4 bits => if bits + 1 = 0 then none else some (.v4 (bits + 1))
  | .v6 bits => if bits + 1 = 0 then none else some (.v6 (bits + 1))

def as16 : Addr → BitVec 128
  | .v4 bits => 0xffff#96 ++ bits
  | .v6 bits => bits

lemma eq_of_toNat {a b : Addr} (hfam : a.is4 = b.is4) (h : a.toNat = b.toNat) : a = b := by
  cases a <;> cases b <;> simp_all [is4, toNat, toNat_inj]

variable (a : Addr)

lemma toNat_lt : a.toNat < 2 ^ a.bitLen := by
  cases a with
  | v4 bits | v6 bits => exact bits.isLt

lemma bitLen_le : a.bitLen ≤ 128 := by
  cases a <;> simp [bitLen]

lemma bitLen_eq {a b : Addr} (h : a.is4 = b.is4) : a.bitLen = b.bitLen := by
  cases a <;> cases b <;> simp_all [is4, bitLen]

lemma add_one_eq_zero_iff {w : ℕ} (bits : BitVec w) (hw : 0 < w) :
    bits + 1 = 0 ↔ bits.toNat + 1 = 2 ^ w := by
  have hone : 1 < 2 ^ w := Nat.one_lt_two_pow (by omega)
  rw [← toNat_inj, toNat_add]
  simp only [ofNat_eq_ofNat, toNat_ofNat, Nat.zero_mod, Nat.mod_eq_of_lt hone]
  constructor
  · intro hmod
    by_contra hne
    rw [Nat.mod_eq_of_lt (by omega)] at hmod
    omega
  · intro heq
    rw [heq, Nat.mod_self]

lemma toNat_add_one {w : ℕ} (bits : BitVec w) (hw : 0 < w) (h : bits + 1 ≠ 0) :
    (bits + 1).toNat = bits.toNat + 1 := by
  have hone : 1 < 2 ^ w := Nat.one_lt_two_pow (by omega)
  have hne : bits.toNat + 1 ≠ 2 ^ w := fun heq => h ((add_one_eq_zero_iff bits hw).2 heq)
  rw [toNat_add]
  simp only [ofNat_eq_ofNat, toNat_ofNat, Nat.mod_eq_of_lt hone]
  exact Nat.mod_eq_of_lt (by omega)

lemma next_eq_some {a b : Addr} (h : a.next = some b) : b.is4 = a.is4 ∧ b.toNat = a.toNat + 1 := by
  cases a with
  | v4 bits | v6 bits =>
    simp only [next] at h
    split_ifs at h with hzero
    cases h
    exact ⟨rfl, toNat_add_one bits (by decide) hzero⟩

lemma next_eq_none_iff : a.next = none ↔ a.toNat + 1 = 2 ^ a.bitLen := by
  cases a with
  | v4 bits =>
    rw [show toNat (.v4 bits) = bits.toNat from rfl, bitLen, ← add_one_eq_zero_iff bits (by decide)]
    simp [next]
  | v6 bits =>
    rw [show toNat (.v6 bits) = bits.toNat from rfl, bitLen, ← add_one_eq_zero_iff bits (by decide)]
    simp [next]

lemma length_asSlice : a.asSlice.length = 4 ∨ a.asSlice.length = 16 := by
  cases a <;> simp [asSlice]

lemma length_asSlice_le : a.asSlice.length ≤ 16 := by
  have h := a.length_asSlice
  omega

lemma addrFromIP_asSlice : addrFromIP a.asSlice = some a := by
  cases a with
  | v4 bits =>
    have hmod : bits.toNat % 256 ^ 4 = bits.toNat := Nat.mod_eq_of_lt bits.isLt
    simp only [addrFromIP, asSlice, length_bytesOfNat, if_true, natOfBytes_bytesOfNat,
      hmod, ofNat_toNat, setWidth_eq]
  | v6 bits =>
    have hmod : bits.toNat % 256 ^ 16 = bits.toNat := Nat.mod_eq_of_lt bits.isLt
    have hne : ¬(16 : ℕ) = 4 := by omega
    simp only [addrFromIP, asSlice, length_bytesOfNat, if_true, if_neg hne,
      natOfBytes_bytesOfNat, hmod, ofNat_toNat, setWidth_eq]

end Addr

namespace IPPrefix
variable (p : IPPrefix)

def IsValid : Prop := p.bits ≤ p.addr.bitLen

instance (p : IPPrefix) : Decidable p.IsValid :=
  inferInstanceAs (Decidable (p.bits ≤ p.addr.bitLen))

def hostBits : ℕ := p.addr.bitLen - p.bits

def contains (address : Addr) : Bool :=
  match p.addr, address with
  | .v4 own, .v4 other => (other ^^^ own) >>> (32 - p.bits) == 0#32
  | .v6 own, .v6 other => (other ^^^ own) >>> (128 - p.bits) == 0#128
  | _, _ => false

def network : Addr :=
  match p.addr with
  | .v4 own => .v4 (own >>> (32 - p.bits) <<< (32 - p.bits))
  | .v6 own => .v6 (own >>> (128 - p.bits) <<< (128 - p.bits))

def setBitsFrom (bits : ℕ) (raw : BitVec 128) : BitVec 128 :=
  (List.range' bits (128 - bits)).foldl (fun raw i => raw ||| (1#128 <<< (127 - i))) raw

def broadcastAddress : Addr :=
  match p.addr with
  | .v4 _ => .v4 ((setBitsFrom (p.bits + 96) p.addr.as16).setWidth 32)
  | .v6 _ => .v6 (setBitsFrom p.bits p.addr.as16)

lemma xor_shiftRight_eq_zero_iff {w : ℕ} (a b : BitVec w) (k : ℕ) :
    (a ^^^ b) >>> k = 0#w ↔ a.toNat / 2 ^ k = b.toNat / 2 ^ k := by
  rw [ushiftRight_xor_distrib, xor_eq_zero_iff, ← toNat_inj,
    toNat_ushiftRight, toNat_ushiftRight, Nat.shiftRight_eq_div_pow,
    Nat.shiftRight_eq_div_pow]

lemma contains_iff (a : Addr) : p.contains a ↔
    a.is4 = p.addr.is4 ∧ a.toNat / 2 ^ p.hostBits = p.addr.toNat / 2 ^ p.hostBits := by
  obtain ⟨addr, bits⟩ := p
  cases addr <;> cases a <;>
    simp [contains, hostBits, Addr.is4, Addr.bitLen, Addr.toNat, xor_shiftRight_eq_zero_iff]

lemma getLsbD_foldl_setBit (n start : ℕ) (raw : BitVec 128) (h : start + n = 128) (j : ℕ) :
    ((List.range' start n).foldl (fun raw i => raw ||| (1#128 <<< (127 - i))) raw).getLsbD j =
    (raw.getLsbD j || decide (j < n)) := by
  induction n generalizing start raw with
  | zero => simp
  | succ n ih =>
    have hone : (1#128 <<< (127 - start)).getLsbD j = decide (j = n) := by
      have hbit : 127 - start = n := by omega
      rw [hbit, getLsbD_shiftLeft]
      by_cases hj : j = n
      · subst hj
        have hlt : j < 128 := by omega
        simp [hlt]
      · have hsub : j < n ∨ j - n ≠ 0 := by omega
        rcases hsub with hlt | hne
        · simp [hlt, hj]
        · simp [getLsbD_one, hne, hj]
    have hor : (decide (j = n) || decide (j < n)) = decide (j < n + 1) := by
      rw [← Bool.decide_or, decide_eq_decide]
      omega
    rw [List.range'_succ, List.foldl_cons, ih (start + 1) _ (by omega), getLsbD_or, hone,
      Bool.or_assoc, hor]

lemma getLsbD_setBitsFrom {bits : ℕ} (raw : BitVec 128) (j : ℕ) :
    (setBitsFrom bits raw).getLsbD j = (raw.getLsbD j || decide (j < 128 - bits)) := by
  unfold setBitsFrom
  by_cases hbits : bits ≤ 128
  · exact getLsbD_foldl_setBit (128 - bits) bits raw (by omega) j
  · have hzero : 128 - bits = 0 := by omega
    simp [hzero]

lemma eq_block_last {m n k : ℕ} (h : ∀ j, m.testBit j = (n.testBit j || decide (j < k))) :
    m = n / 2 ^ k * 2 ^ k + (2 ^ k - 1) := by
  have hpos : 0 < 2 ^ k := Nat.two_pow_pos k
  refine Nat.eq_of_testBit_eq fun j => ?_
  rw [h, mul_comm, Nat.testBit_two_pow_mul_add _ (by omega)]
  split_ifs with hj
  · simp [hj]
  · rw [Nat.testBit_div_two_pow, Nat.sub_add_cancel (by omega)]
    simp [hj]

lemma broadcastAddress_spec : p.broadcastAddress.is4 = p.addr.is4 ∧ p.broadcastAddress.toNat =
    p.addr.toNat / 2 ^ p.hostBits * 2 ^ p.hostBits + (2 ^ p.hostBits - 1) := by
  obtain ⟨addr, bits⟩ := p
  cases addr with
  | v4 own =>
    refine ⟨rfl, eq_block_last fun j => ?_⟩
    have hbits : 128 - (bits + 96) = 32 - bits := by omega
    rw [broadcastAddress, Addr.toNat, testBit_toNat, getLsbD_setWidth, getLsbD_setBitsFrom, hbits]
    rw [show Addr.toNat (.v4 own) = own.toNat from rfl, testBit_toNat,
      show hostBits ⟨.v4 own, bits⟩ = 32 - bits from rfl]
    by_cases hj : j < 32
    · have happend : (Addr.as16 (.v4 own)).getLsbD j = own.getLsbD j :=
        (getLsbD_append).trans (if_pos hj)
      simp [happend, hj]
    · have hzero : own.getLsbD j = false := getLsbD_of_ge _ _ (by omega)
      have hge : ¬j < 32 - bits := by omega
      simp [hj, hzero, hge]
  | v6 own =>
    refine ⟨rfl, eq_block_last fun j => ?_⟩
    rw [broadcastAddress, Addr.toNat, testBit_toNat, getLsbD_setBitsFrom]
    rfl

lemma network_spec : p.network.is4 = p.addr.is4 ∧
    p.network.toNat = p.addr.toNat / 2 ^ p.hostBits * 2 ^ p.hostBits := by
  have hshift : ∀ {w : ℕ} (own : BitVec w) (k : ℕ),
      (own >>> k <<< k).toNat = own.toNat / 2 ^ k * 2 ^ k := by
    intro w own k
    rw [toNat_shiftLeft, toNat_ushiftRight, Nat.shiftRight_eq_div_pow, Nat.shiftLeft_eq]
    exact Nat.mod_eq_of_lt (lt_of_le_of_lt (Nat.div_mul_le_self _ _) own.isLt)
  obtain ⟨addr, bits⟩ := p
  cases addr with
  | v4 own => exact ⟨rfl, hshift own (32 - bits)⟩
  | v6 own => exact ⟨rfl, hshift own (128 - bits)⟩

end IPPrefix

end SingBox
