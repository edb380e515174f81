import SingBox.Adapter.Address

/-!
# The metadata of the allocator of fake addresses

Four elements, each with its length in front. A length that is cut off is a panic, everything else
an error.
-/

namespace SingBox.FakeIP
open List

structure FakeIPMetadata where
  inet4Range : Option IPPrefix
  inet6Range : Option IPPrefix
  inet4Current : Option Addr
  inet6Current : Option Addr
deriving DecidableEq

inductive UnmarshalFault where
  | panic
  | error
deriving DecidableEq

def marshalAddr : Option Addr → List UInt8
  | none => []
  | some address => address.asSlice

def marshalPrefix : Option IPPrefix → List UInt8
  | none => [255]
  | some p => p.addr.asSlice ++ [UInt8.ofNat p.bits]

variable (data : List UInt8)

def marshalElement : List UInt8 := bytesOfNat 2 data.length ++ data

def marshalBinary (m : FakeIPMetadata) : List UInt8 :=
  marshalElement (marshalPrefix m.inet4Range) ++ (marshalElement (marshalPrefix m.inet6Range) ++
    (marshalElement (marshalAddr m.inet4Current) ++ marshalElement (marshalAddr m.inet6Current)))

def unmarshalAddr : Except UnmarshalFault (Option Addr) :=
  if data.length = 0 then .ok none
  else if data.length = 4 ∨ 16 ≤ data.length then .ok (Addr.addrFromIP (data.take 16))
  else .error .error

def unmarshalPrefix : Except UnmarshalFault (Option IPPrefix) :=
  match data.getLast? with
  | none => .error .error
  | some bits => (unmarshalAddr data.dropLast).map fun address =>
      address.map fun address => ⟨address, bits.toNat⟩

def unmarshalElement : Except UnmarshalFault (List UInt8 × List UInt8) :=
  if data.length < 2 then .error .panic
  else
    let length := Addr.natOfBytes (data.take 2)
    let data := data.drop 2
    if data.length < length then .error .error
    else .ok (data.take length, data.drop length)

def unmarshalBinary : Except UnmarshalFault FakeIPMetadata := do
  let (element, data) ← unmarshalElement data
  let inet4Range ← unmarshalPrefix element
  let (element, data) ← unmarshalElement data
  let inet6Range ← unmarshalPrefix element
  let (element, data) ← unmarshalElement data
  let inet4Current ← unmarshalAddr element
  let (element, _) ← unmarshalElement data
  let inet6Current ← unmarshalAddr element
  return ⟨inet4Range, inet6Range, inet4Current, inet6Current⟩

structure FakeIPMetadata.Valid (m : FakeIPMetadata) : Prop where
  inet4Range : ∀ p ∈ m.inet4Range, p.IsValid
  inet6Range : ∀ p ∈ m.inet6Range, p.IsValid

variable (a : Option Addr)

lemma unmarshalAddr_marshalAddr : unmarshalAddr (marshalAddr a) = .ok a := by
  cases a with
  | none => rfl
  | some a =>
    have hlen := a.length_asSlice
    have hne : ¬a.asSlice.length = 0 := by omega
    have hsize : a.asSlice.length = 4 ∨ 16 ≤ a.asSlice.length := by omega
    rw [marshalAddr, unmarshalAddr, if_neg hne, if_pos hsize,
      take_of_length_le (a.length_asSlice_le), Addr.addrFromIP_asSlice]

lemma unmarshalPrefix_marshalPrefix {p : Option IPPrefix} (h : ∀ q ∈ p, q.IsValid) :
    unmarshalPrefix (marshalPrefix p) = .ok p := by
  cases p with
  | none => rfl
  | some p =>
    have hbits : p.bits < 256 := by
      have hle : p.bits ≤ p.addr.bitLen := h p rfl
      have hlen : p.addr.bitLen ≤ 128 := by cases p.addr <;> simp [Addr.bitLen]
      omega
    have hread : unmarshalAddr p.addr.asSlice = .ok (some p.addr) :=
      unmarshalAddr_marshalAddr (some p.addr)
    have hbyte : (UInt8.ofNat p.bits).toNat = p.bits := by
      rw [UInt8.toNat_ofNat']
      exact Nat.mod_eq_of_lt hbits
    rw [marshalPrefix, unmarshalPrefix, getLast?_concat, dropLast_concat]
    simp [hread, Except.map, hbyte]

lemma unmarshalElement_marshalElement {data : List UInt8} (h : data.length ≤ 17)
    (rest : List UInt8) : unmarshalElement (marshalElement data ++ rest) = .ok (data, rest) := by
  have htake : (marshalElement data ++ rest).take 2 = bytesOfNat 2 data.length := by
    rw [marshalElement, append_assoc]
    exact take_left' (length_bytesOfNat 2 _)
  have hdrop : (marshalElement data ++ rest).drop 2 = data ++ rest := by
    rw [marshalElement, append_assoc]
    exact drop_left' (length_bytesOfNat 2 _)
  have hlong : ¬(marshalElement data ++ rest).length < 2 := by
    simp only [marshalElement, length_append, length_bytesOfNat]
    omega
  have hlen : Addr.natOfBytes (bytesOfNat 2 data.length) = data.length := by
    rw [natOfBytes_bytesOfNat]
    exact Nat.mod_eq_of_lt (by omega)
  have hfits : ¬(data ++ rest).length < data.length := by simp
  simp only [unmarshalElement, if_neg hlong, htake, hdrop, hlen, if_neg hfits, take_left',
    drop_left']

lemma length_marshalAddr : (marshalAddr a).length ≤ 17 := by
  cases a with
  | none => simp [marshalAddr]
  | some a => exact (a.length_asSlice_le).trans (by omega)

lemma length_marshalPrefix (p : Option IPPrefix) : (marshalPrefix p).length ≤ 17 := by
  cases p with
  | none => simp [marshalPrefix]
  | some p =>
    have h := p.addr.length_asSlice_le
    simp only [marshalPrefix, length_append, length_singleton]
    omega

lemma unmarshalBinary_marshalBinary {m : FakeIPMetadata} (h : m.Valid) :
    unmarshalBinary (marshalBinary m) = .ok m := by
  have hlast : unmarshalElement (marshalElement (marshalAddr m.inet6Current)) =
      .ok (marshalAddr m.inet6Current, []) := by
    simpa using unmarshalElement_marshalElement (length_marshalAddr m.inet6Current) []
  simp only [unmarshalBinary, marshalBinary,
    unmarshalElement_marshalElement (length_marshalPrefix _),
    unmarshalElement_marshalElement (length_marshalAddr _), hlast,
    unmarshalPrefix_marshalPrefix h.inet4Range, unmarshalPrefix_marshalPrefix h.inet6Range,
    unmarshalAddr_marshalAddr, bind, Except.bind, pure, Except.pure]

end SingBox.FakeIP
