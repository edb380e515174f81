import SingBox.Dns.Message
import SingBox.Lib.Slice

/-!
# Numbers as bytes

`bytesOfNat` writes a number big endian in a given width and `natOfBytes` reads it back.
-/

namespace SingBox

@[simp] lemma length_bytesOfNat (width n : ℕ) : (bytesOfNat width n).length = width := by
  induction width with
  | zero => rfl
  | succ width ih => simp [bytesOfNat, ih]

lemma foldl_bytesOfNat (width n start : ℕ) :
    (bytesOfNat width n).foldl (fun n b => n * 256 + b.toNat) start =
    start * 256 ^ width + n % 256 ^ width := by
  induction width generalizing start with
  | zero => simp [bytesOfNat, Nat.mod_one]
  | succ width ih =>
    have hdigit : (UInt8.ofNat (n / 256 ^ width % 256)).toNat = n / 256 ^ width % 256 := by
      simp
    have hsplit : n % 256 ^ (width + 1) =
        n / 256 ^ width % 256 * 256 ^ width + n % 256 ^ width := by
      rw [pow_succ, Nat.mod_mul, add_comm, mul_comm]
    rw [bytesOfNat, List.foldl_cons, ih, hdigit, hsplit]
    ring

lemma natOfBytes_bytesOfNat (width n : ℕ) :
    Addr.natOfBytes (bytesOfNat width n) = n % 256 ^ width := by
  simp [Addr.natOfBytes, foldl_bytesOfNat]

open Slice List UInt8

def byteAt (b : List UInt8) (i : ℕ) : Option UInt8 := b[i]?

def uint16At (b : List UInt8) (i : ℕ) : Option ℕ := do
  let high ← b[i]?
  let low ← b[i + 1]?
  return high.toNat * 256 + low.toNat

variable {before after b : List UInt8} {i n : ℕ}

lemma byteAt_append {x : UInt8} (hi : before.length = i) :
    byteAt (before ++ x :: after) i = some x := by
  rw [byteAt, getElem?_append_right hi.le, hi, Nat.sub_self, getElem?_cons_zero]

lemma uint16At_append (hi : before.length = i)
    (hn : n < 2 ^ 16) : uint16At (before ++ (bytesOfNat 2 n ++ after)) i = some n := by
  have hhigh : (ofNat (n / 256 ^ 1 % 256)).toNat = n / 256 := by
    rw [toNat_ofNat']
    omega
  have hlow : (ofNat (n / 256 ^ 0 % 256)).toNat = n % 256 := by
    rw [toNat_ofNat']
    omega
  have hi' : before.length ≤ i + 1 := by omega
  rw [uint16At, getElem?_append_right hi.le, getElem?_append_right hi', hi,
    Nat.sub_self, Nat.add_sub_cancel_left]
  show some ((ofNat (n / 256 ^ 1 % 256)).toNat * 256 +
    (ofNat (n / 256 ^ 0 % 256)).toNat) = some n
  rw [hhigh, hlow]
  congr 1
  omega

lemma uint16At_zero (hn : n < 2 ^ 16) : uint16At (bytesOfNat 2 n ++ after) 0 = some n :=
  uint16At_append length_nil hn

lemma returns_byteAt (h : i < b.length) :
    Returns (byteAt b i) fun x => b[i]? = some x := returns_getElem? h

lemma returns_uint16At (h : i + 1 < b.length) : Returns (uint16At b i) fun n => n < 2 ^ 16 := by
  refine (returns_getElem? (by omega)).bind fun high _ => ?_
  refine (returns_getElem? h).bind fun low _ => .of_some ?_
  have hhigh := high.toNat_lt
  have hlow := low.toNat_lt
  omega

lemma bytesOfNat_uint16At (h : uint16At b i = some n) : bytesOfNat 2 n = (b.drop i).take 2 := by
  obtain ⟨high, hhigh, h⟩ := Option.bind_eq_some_iff.1 h
  obtain ⟨low, hlow, h⟩ := Option.bind_eq_some_iff.1 h
  obtain ⟨hi, rfl⟩ := List.getElem?_eq_some_iff.1 hhigh
  obtain ⟨hi', rfl⟩ := List.getElem?_eq_some_iff.1 hlow
  have hn : b[i].toNat * 256 + b[i + 1].toNat = n := Option.some.inj h
  have hlt := b[i].toNat_lt
  have hlt' := b[i + 1].toNat_lt
  have hhigh : n / 256 ^ 1 % 256 = b[i].toNat := by omega
  have hlow : n / 256 ^ 0 % 256 = b[i + 1].toNat := by omega
  rw [bytesOfNat, bytesOfNat, bytesOfNat, hhigh, hlow, UInt8.ofNat_toNat, UInt8.ofNat_toNat,
    drop_eq_getElem_cons hi, drop_eq_getElem_cons hi']
  rfl

end SingBox
